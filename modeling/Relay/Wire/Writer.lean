import Relay.Wire.LittleEndian
import Relay.Wire.WireError

/-!
# Writing frames

The byte form of an envelope without live arguments. All numbers are little-endian.

* A scalar is its tag and its bytes; a text, a character sequence or a byte form is its tag, a
  length of four bytes and the bytes.
* An array or a list is its tag, a count of four bytes and the items without tags.
* A record is its tag, the name of its type and its fields. Fields are a count of four bytes and,
  for each, the key and the payload.
* A frame is the envelope tag, the method id in four bytes, and either the bundle tag with the
  entries or the tag for no data.

Writing can stop at two places, at fields that nest too deep and at a length that does not fit into
four bytes. What was written up to there stays, so the result of writing is an `Output`: the bytes
and, when writing stopped, the reason.
-/
namespace Relay

/-- How deep records may nest inside a bundle. -/
def maxNesting : Nat := 32

/-- What writing leaves behind. -/
structure Output where
  bytes : List UInt8
  fault : Option WireError

namespace Output

def ofBytes (bytes : List UInt8) : Output := ⟨bytes, none⟩

def stop (e : WireError) : Output := ⟨[], some e⟩

/-- Writes one thing after the other, unless the first stops. -/
def append (a b : Output) : Output :=
  match a.fault with
  | none => ⟨a.bytes ++ b.bytes, b.fault⟩
  | some _ => a

instance : Append Output := ⟨append⟩

/-- The bytes, if writing did not stop. -/
def result (o : Output) : Except WireError (List UInt8) :=
  match o.fault with
  | none => .ok o.bytes
  | some e => .error e

end Output

namespace Write

def tag (t : Tag) : Output := .ofBytes [t.toByte]

/-- A number of four bytes. -/
def word (n : UInt32) : Output := .ofBytes (LittleEndian.bytes 4 n.toNat)

/-- A length or count, which has to fit into four bytes. -/
def count (n : Nat) : Output :=
  if n < 4294967296 then .ofBytes (LittleEndian.bytes 4 n) else .stop (.blobTooLarge n)

def blob (bytes : List UInt8) : Output := count bytes.length ++ .ofBytes bytes

def textBytes (text : String) : List UInt8 := text.toByteArray.data.toList

def text (text : String) : Output := blob (textBytes text)

/-- A scalar without its tag. -/
def scalar (kind : ScalarKind) (v : kind.Carrier) : Output :=
  .ofBytes (LittleEndian.bytes kind.width (kind.toWord v))

def each {α : Type} (item : α → Output) : List α → Output
  | [] => .ofBytes []
  | x :: rest => item x ++ each item rest

def seq {α : Type} (item : α → Output) (items : List α) : Output :=
  count items.length ++ each item items

mutual

def payload (p : Payload) (depth : Nat) : Output :=
  tag (.payload p.category) ++
    match p with
    | .scalar kind v => scalar kind v
    | .text v => text v
    | .charSeq v => text v.text
    | .handle v => .ofBytes (LittleEndian.bytes 8 v.raw.toNat)
    | .record r => record r depth
    | .serialized bytes => blob bytes
    | .scalarArray kind vs => seq (scalar kind) vs
    | .textArray vs => seq text vs
    | .charSeqArray vs => seq (fun v => text v.text) vs
    | .recordArray rs => count rs.length ++ records rs depth
    | .intList vs => seq (scalar .int) vs
    | .textList vs => seq text vs
    | .charSeqList vs => seq (fun v => text v.text) vs
    | .recordList rs => count rs.length ++ records rs depth
    | .sparseRecords es => count es.length ++ sparse es depth
    | .size v => scalar .int v.width ++ scalar .int v.height
    | .sizeF v => scalar .float v.width ++ scalar .float v.height

/-- A record without its tag. Its fields are one level deeper. -/
def record (r : Record) (depth : Nat) : Output :=
  match r with
  | .mk name fields =>
    text name ++
      if maxNesting < depth + 1 then .stop .recursionLimitExceeded
      else count fields.length ++ entries fields (depth + 1)

def records (rs : List Record) (depth : Nat) : Output :=
  match rs with
  | [] => .ofBytes []
  | r :: rest => record r depth ++ records rest depth

/-- Keys and payloads one after the other. -/
def entries (es : List (String × Payload)) (depth : Nat) : Output :=
  match es with
  | [] => .ofBytes []
  | (key, p) :: rest => text key ++ payload p depth ++ entries rest depth

/-- Indices and records one after the other. -/
def sparse (es : List (Int32 × Record)) (depth : Nat) : Output :=
  match es with
  | [] => .ofBytes []
  | (index, r) :: rest => scalar .int index ++ record r depth ++ sparse rest depth

end

/-- The entries of a bundle that is not inside a record. -/
def bundle (b : Bundle) : Output := count b.entries.length ++ entries b.entries 0

end Write

/-- An envelope without live arguments: the method id and the data, if any. -/
structure Frame where
  what : UInt32
  data : Option Bundle

namespace Frame

def write (f : Frame) : Output :=
  Write.tag .envelope ++ Write.word f.what ++
    match f.data with
    | some b => Write.tag .bundle ++ Write.bundle b
    | none => Write.tag .noData

/-- The byte form of a frame. -/
def encode (f : Frame) : Except WireError (List UInt8) := f.write.result

end Frame

end Relay
