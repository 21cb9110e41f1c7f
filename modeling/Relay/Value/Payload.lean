import Relay.Number.Binary
import Relay.Value.Category
import Relay.Value.Ordered

/-!
# Payloads

The values that entries of a bundle hold. A record is a type name with a bundle of its own, so
payloads nest through records, and through the three containers of records.

The entries of a bundle are kept as a list. Bundles that are built by inserting have their keys in
ascending order at every level; such bundles are `Canonical`. A list that is not canonical is still
of use: it is what a byte sequence may spell out, where entries come in any order and a key may
come twice. `canonical` puts the entries of every level in order, a later entry replacing an
earlier one under the same key.
-/
namespace Relay

@[reducible] def ScalarKind.Carrier : ScalarKind → Type
  | .byte => Int8
  | .short => Int16
  | .int => Int32
  | .long => Int64
  | .float => Binary32
  | .double => Binary64
  | .char => Char
  | .bool => Bool

/-- Integer width and height. -/
structure Size where
  width : Int32
  height : Int32
deriving DecidableEq

/-- Floating width and height. -/
structure SizeF where
  width : Binary32
  height : Binary32
deriving DecidableEq

/-- An opaque token that refers to an object of some other party. -/
structure Handle where
  raw : UInt64
deriving DecidableEq

/-- Text that travels apart from ordinary text, so that a reader can tell the two apart. -/
structure CharSeq where
  text : String
deriving DecidableEq

mutual

/-- One value of a bundle. -/
inductive Payload where
  | scalar (kind : ScalarKind) (value : kind.Carrier)
  | text (value : String)
  | charSeq (value : CharSeq)
  | handle (value : Handle)
  | record (value : Record)
  | serialized (bytes : List UInt8)
  | scalarArray (kind : ScalarKind) (values : List kind.Carrier)
  | textArray (values : List String)
  | charSeqArray (values : List CharSeq)
  | recordArray (values : List Record)
  | intList (values : List Int32)
  | textList (values : List String)
  | charSeqList (values : List CharSeq)
  | recordList (values : List Record)
  | sparseRecords (entries : List (Int32 × Record))
  | size (value : Size)
  | sizeF (value : SizeF)

/-- A structured value: the name of its type and its fields. -/
inductive Record where
  | mk (typeName : String) (fields : List (String × Payload))

end

/-- A string-keyed container of payloads. -/
structure Bundle where
  entries : List (String × Payload)

namespace Record

def typeName : Record → String
  | mk name _ => name

def fields : Record → Bundle
  | mk _ fields => ⟨fields⟩

end Record

def Payload.category : Payload → Category
  | scalar kind _ => .scalar kind
  | text _ => .text
  | charSeq _ => .charSeq
  | handle _ => .handle
  | record _ => .record
  | serialized _ => .serializable
  | scalarArray kind _ => .scalarArray kind
  | textArray _ => .textArray
  | charSeqArray _ => .charSeqArray
  | recordArray _ => .recordArray
  | intList _ => .intList
  | textList _ => .textList
  | charSeqList _ => .charSeqList
  | recordList _ => .recordList
  | sparseRecords _ => .sparseRecords
  | size _ => .size
  | sizeF _ => .sizeF

/-! ### Canonical order -/

mutual

/-- The payload with the entries of every level in order. -/
def Payload.canonical : Payload → Payload
  | .record r => .record r.canonical
  | .recordArray rs => .recordArray (canonicalRecords rs)
  | .recordList rs => .recordList (canonicalRecords rs)
  | .sparseRecords es => .sparseRecords (Entries.ofList (canonicalSparse es))
  | p => p

/-- The record with the entries of every level in order. -/
def Record.canonical : Record → Record
  | .mk name fields => .mk name (Entries.ofList (canonicalFields fields))

/-- Every record of a list, in canonical order inside. -/
def canonicalRecords : List Record → List Record
  | [] => []
  | r :: rest => r.canonical :: canonicalRecords rest

/-- The values of fields in canonical order inside; the fields themselves stay where they are. -/
def canonicalFields : List (String × Payload) → List (String × Payload)
  | [] => []
  | (key, p) :: rest => (key, p.canonical) :: canonicalFields rest

/-- The records of a sparse map in canonical order inside; the entries stay where they are. -/
def canonicalSparse : List (Int32 × Record) → List (Int32 × Record)
  | [] => []
  | (index, r) :: rest => (index, r.canonical) :: canonicalSparse rest

end

mutual

/-- Keys and indices strictly ascend at every level of the payload. -/
def Payload.Canonical : Payload → Prop
  | .record r => r.Canonical
  | .recordArray rs => CanonicalRecords rs
  | .recordList rs => CanonicalRecords rs
  | .sparseRecords es => Entries.Ordered es ∧ CanonicalSparse es
  | _ => True

/-- Keys and indices strictly ascend at every level of the record. -/
def Record.Canonical : Record → Prop
  | .mk _ fields => Entries.Ordered fields ∧ CanonicalFields fields

def CanonicalRecords : List Record → Prop
  | [] => True
  | r :: rest => r.Canonical ∧ CanonicalRecords rest

def CanonicalFields : List (String × Payload) → Prop
  | [] => True
  | (_, p) :: rest => p.Canonical ∧ CanonicalFields rest

/-- Every record of the sparse entries is canonical. -/
def CanonicalSparse : List (Int32 × Record) → Prop
  | [] => True
  | (_, r) :: rest => r.Canonical ∧ CanonicalSparse rest

end

/-- The bundle with the entries of every level in order. -/
def Bundle.canonical (b : Bundle) : Bundle := ⟨Entries.ofList (canonicalFields b.entries)⟩

/-- Keys and indices strictly ascend at every level of the bundle. -/
def Bundle.Canonical (b : Bundle) : Prop := Entries.Ordered b.entries ∧ CanonicalFields b.entries

/-! ### Comparison by value -/

/-- Comparison of scalars of one kind; floating-point kinds compare numerically. -/
def ScalarKind.sameValue : (kind : ScalarKind) → kind.Carrier → kind.Carrier → Bool
  | .byte, x, y => x == y
  | .short, x, y => x == y
  | .int, x, y => x == y
  | .long, x, y => x == y
  | .float, x, y => x.sameValue y
  | .double, x, y => x.sameValue y
  | .char, x, y => x == y
  | .bool, x, y => x == y

/-- Two sizes are equal when both measures are numerically equal. -/
def SizeF.sameValue (x y : SizeF) : Bool :=
  x.width.sameValue y.width && x.height.sameValue y.height

/-- Lists of one length whose elements compare as equal in pairs. -/
def sameList {α : Type} (same : α → α → Bool) : List α → List α → Bool
  | [], [] => true
  | x :: xs, y :: ys => same x y && sameList same xs ys
  | _, _ => false

mutual

/-- Equality of payloads, with floating-point numbers compared numerically. -/
def Payload.sameValue : Payload → Payload → Bool
  | .scalar k x, .scalar k' y => if h : k = k' then k'.sameValue (h ▸ x) y else false
  | .text x, .text y => x == y
  | .charSeq x, .charSeq y => x == y
  | .handle x, .handle y => x == y
  | .record x, .record y => x.sameValue y
  | .serialized x, .serialized y => x == y
  | .scalarArray k xs, .scalarArray k' ys =>
    if h : k = k' then sameList k'.sameValue (h ▸ xs) ys else false
  | .textArray xs, .textArray ys => xs == ys
  | .charSeqArray xs, .charSeqArray ys => xs == ys
  | .recordArray xs, .recordArray ys => sameRecords xs ys
  | .intList xs, .intList ys => xs == ys
  | .textList xs, .textList ys => xs == ys
  | .charSeqList xs, .charSeqList ys => xs == ys
  | .recordList xs, .recordList ys => sameRecords xs ys
  | .sparseRecords xs, .sparseRecords ys => sameSparse xs ys
  | .size x, .size y => x == y
  | .sizeF x, .sizeF y => x.sameValue y
  | _, _ => false

def Record.sameValue : Record → Record → Bool
  | .mk name fields, .mk name' fields' => name == name' && sameFields fields fields'

def sameRecords : List Record → List Record → Bool
  | [], [] => true
  | r :: rest, r' :: rest' => r.sameValue r' && sameRecords rest rest'
  | _, _ => false

/-- Equality of fields in the same order. -/
def sameFields : List (String × Payload) → List (String × Payload) → Bool
  | [], [] => true
  | (key, p) :: rest, (key', p') :: rest' => key == key' && p.sameValue p' && sameFields rest rest'
  | _, _ => false

/-- Equality of sparse entries in the same order. -/
def sameSparse : List (Int32 × Record) → List (Int32 × Record) → Bool
  | [], [] => true
  | (i, r) :: rest, (i', r') :: rest' => i == i' && r.sameValue r' && sameSparse rest rest'
  | _, _ => false

end

/-- Equality of bundles, with floating-point numbers compared numerically. -/
def Bundle.sameValue (a b : Bundle) : Bool := sameFields a.entries b.entries

end Relay
