import Relay.Value.Bundle

/-!
# Slots: typed access to bundles

A slot says how the values of one type are kept in an entry: in which category, as which payload,
and how a payload of that category is read back. Writing and reading a bundle are then one pair of
operations, `Bundle.put` and `Bundle.fetch`, for all categories.

Structured types take part by saying how they flatten into a bundle (`Recordable`), other types by
a byte form of their own (`Serializable`).
-/
namespace Relay

/-- A structured type that flattens into a bundle field by field. -/
class Recordable (α : Type) where
  /-- The name that is checked before the fields are read. -/
  typeName : String
  writeFields : α → Bundle
  readFields : Bundle → Except BundleError α

/-- A type with a byte form of its own. Some values may have none, and then the type says why. -/
class Serializable (α : Type) where
  write : α → Except String (List UInt8)
  /-- The value of a byte form, or why it has none. -/
  read : List UInt8 → Except String α

namespace Record

variable {α : Type} [Recordable α]

def capture (value : α) : Record :=
  .mk (Recordable.typeName α) (Recordable.writeFields value).entries

/-- Rebuilds a value, refusing records captured from another type. -/
def restore (r : Record) : Except BundleError α :=
  if r.typeName = Recordable.typeName α then
    Recordable.readFields r.fields
  else
    .error (.recordMismatch (Recordable.typeName α) r.typeName)

/-- Rebuilds the values of a list of records in order. -/
def restoreAll : List Record → Except BundleError (List α)
  | [] => .ok []
  | r :: rest => do
    let value ← r.restore
    let values ← restoreAll rest
    return value :: values

/-- Rebuilds the values of sparse entries in order. -/
def restoreSparse : List (Int32 × Record) → Except BundleError (List (Int32 × α))
  | [] => .ok []
  | (index, r) :: rest => do
    let value ← r.restore
    let values ← restoreSparse rest
    return (index, value) :: values

end Record

/-- How the values of a type are kept in one entry of a bundle. -/
structure Slot (α : Type) where
  category : Category
  write : α → Except BundleError Payload
  /-- The value of a payload; nothing when the payload belongs to another category. -/
  read : Payload → Option (Except BundleError α)

namespace Slot

variable {α : Type}

def scalar (kind : ScalarKind) : Slot kind.Carrier where
  category := .scalar kind
  write v := .ok (.scalar kind v)
  read
    | .scalar k v => if h : k = kind then some (.ok (h ▸ v)) else none
    | _ => none

def scalarArray (kind : ScalarKind) : Slot (List kind.Carrier) where
  category := .scalarArray kind
  write vs := .ok (.scalarArray kind vs)
  read
    | .scalarArray k vs => if h : k = kind then some (.ok (h ▸ vs)) else none
    | _ => none

def text : Slot String where
  category := .text
  write v := .ok (.text v)
  read
    | .text v => some (.ok v)
    | _ => none

/-- Character sequences. -/
def charSeq : Slot CharSeq where
  category := .charSeq
  write v := .ok (.charSeq v)
  read
    | .charSeq v => some (.ok v)
    | _ => none

def handle : Slot Handle where
  category := .handle
  write v := .ok (.handle v)
  read
    | .handle v => some (.ok v)
    | _ => none

/-- Integer sizes. -/
def size : Slot Size where
  category := .size
  write v := .ok (.size v)
  read
    | .size v => some (.ok v)
    | _ => none

/-- Floating sizes. -/
def sizeF : Slot SizeF where
  category := .sizeF
  write v := .ok (.sizeF v)
  read
    | .sizeF v => some (.ok v)
    | _ => none

def record [Recordable α] : Slot α where
  category := .record
  write v := .ok (.record (Record.capture v))
  read
    | .record r => some r.restore
    | _ => none

/-- Values with a byte form. -/
def serializable [Serializable α] : Slot α where
  category := .serializable
  write v := ((Serializable.write v).map .serialized).mapError .serialization
  read
    | .serialized bytes => some ((Serializable.read bytes).mapError .serialization)
    | _ => none

def textArray : Slot (List String) where
  category := .textArray
  write vs := .ok (.textArray vs)
  read
    | .textArray vs => some (.ok vs)
    | _ => none

/-- Arrays of character sequences. -/
def charSeqArray : Slot (List CharSeq) where
  category := .charSeqArray
  write vs := .ok (.charSeqArray vs)
  read
    | .charSeqArray vs => some (.ok vs)
    | _ => none

def recordArray [Recordable α] : Slot (List α) where
  category := .recordArray
  write vs := .ok (.recordArray (vs.map Record.capture))
  read
    | .recordArray rs => some (Record.restoreAll rs)
    | _ => none

def intList : Slot (List Int32) where
  category := .intList
  write vs := .ok (.intList vs)
  read
    | .intList vs => some (.ok vs)
    | _ => none

def textList : Slot (List String) where
  category := .textList
  write vs := .ok (.textList vs)
  read
    | .textList vs => some (.ok vs)
    | _ => none

/-- Lists of character sequences. -/
def charSeqList : Slot (List CharSeq) where
  category := .charSeqList
  write vs := .ok (.charSeqList vs)
  read
    | .charSeqList vs => some (.ok vs)
    | _ => none

def recordList [Recordable α] : Slot (List α) where
  category := .recordList
  write vs := .ok (.recordList (vs.map Record.capture))
  read
    | .recordList rs => some (Record.restoreAll rs)
    | _ => none

def sparseRecords [Recordable α] : Slot (SparseMap α) where
  category := .sparseRecords
  write m := .ok (.sparseRecords (m.mapValues Record.capture).entries)
  read
    | .sparseRecords es => some ((Record.restoreSparse es).map OrderedMap.ofList)
    | _ => none

end Slot

namespace Bundle

variable {α : Type}

/-- Writes a typed value under a key. A value that cannot be written leaves no bundle behind. -/
def put (b : Bundle) (slot : Slot α) (key : String) (value : α) : Except BundleError Bundle :=
  (slot.write value).map (b.insert key)

/-- Reads the typed value under a key. -/
def fetch (b : Bundle) (slot : Slot α) (key : String) : Except BundleError α := do
  let p ← b.lookup key
  match slot.read p with
  | some result => result
  | none => .error (.typeMismatch key slot.category.label p.category.label)

end Bundle

end Relay
