import Relay.Number.NumberText
import Relay.Text.Quoted
import Relay.Value.Payload

/-!
# Shown values

The text in which payloads and bundles are shown to a developer. A payload is its tag name around
its value; structured values name their fields; lists stand in brackets, maps in braces.
-/
namespace Relay

namespace Shown

def commas (items : List String) : String := ", ".intercalate items

def list (items : List String) : String := "[" ++ commas items ++ "]"

def applied (name value : String) : String := name ++ "(" ++ value ++ ")"

def map (entries : List (String × String)) : String :=
  "\x7b" ++ commas (entries.map fun e => e.1 ++ ": " ++ e.2) ++ "\x7d"

def fields (name : String) (fs : List (String × String)) : String :=
  name ++ " \x7b " ++ commas (fs.map fun e => e.1 ++ ": " ++ e.2) ++ " \x7d"

end Shown

def ScalarKind.shown : (kind : ScalarKind) → kind.Carrier → String
  | .byte, v => toString v.toInt
  | .short, v => toString v.toInt
  | .int, v => toString v.toInt
  | .long, v => toString v.toInt
  | .float, v => v.text
  | .double, v => v.text
  | .char, v => Text.quotedChar v
  | .bool, v => if v then "true" else "false"

/-- A character sequence as shown. -/
def CharSeq.shown (s : CharSeq) : String := Shown.applied "CharSeq" (Text.quoted s.text)

def Size.shown (s : Size) : String :=
  Shown.fields "Size" [("width", toString s.width.toInt), ("height", toString s.height.toInt)]

def SizeF.shown (s : SizeF) : String :=
  Shown.fields "SizeF" [("width", s.width.text), ("height", s.height.text)]

mutual

def Payload.shown (p : Payload) : String :=
  Shown.applied p.category.tagName <|
    match p with
    | .scalar kind v => kind.shown v
    | .text v => Text.quoted v
    | .charSeq v => v.shown
    | .handle v => Shown.applied "Handle" (toString v.raw.toNat)
    | .record r => r.shown
    | .serialized bytes => Shown.list (bytes.map fun b => toString b.toNat)
    | .scalarArray kind vs => Shown.list (vs.map kind.shown)
    | .textArray vs => Shown.list (vs.map Text.quoted)
    | .charSeqArray vs => Shown.list (vs.map CharSeq.shown)
    | .recordArray rs => Shown.list (shownRecords rs)
    | .intList vs => Shown.list (vs.map fun v => toString v.toInt)
    | .textList vs => Shown.list (vs.map Text.quoted)
    | .charSeqList vs => Shown.list (vs.map CharSeq.shown)
    | .recordList rs => Shown.list (shownRecords rs)
    | .sparseRecords es => Shown.fields "SparseMap" [("entries", Shown.map (shownSparse es))]
    | .size v => v.shown
    | .sizeF v => v.shown

def Record.shown : Record → String
  | .mk name fields =>
    Shown.fields "RecordValue" [("type_name", Text.quoted name),
      ("fields", Shown.fields "Bundle" [("entries", Shown.map (shownFields fields))])]

def shownRecords : List Record → List String
  | [] => []
  | r :: rest => r.shown :: shownRecords rest

/-- Fields as shown, keys in quotes. -/
def shownFields : List (String × Payload) → List (String × String)
  | [] => []
  | (key, p) :: rest => (Text.quoted key, p.shown) :: shownFields rest

def shownSparse : List (Int32 × Record) → List (String × String)
  | [] => []
  | (index, r) :: rest => (toString index.toInt, r.shown) :: shownSparse rest

end

def Bundle.shown (b : Bundle) : String :=
  Shown.fields "Bundle" [("entries", Shown.map (shownFields b.entries))]

end Relay
