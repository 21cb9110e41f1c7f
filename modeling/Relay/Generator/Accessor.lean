import Relay.Generator.Code
import Relay.Value.Category

/-!
# Accessors

The pair of bundle methods for each category, and their calls in emitted code. Records and
containers are handed over by reference, so that the write can copy what it needs; everything else
is moved.
-/
namespace Relay

/-- How a value is handed to the method that writes it. -/
inductive Passing where
  | value | reference
  /-- A reference to all elements. -/
  | slice
deriving DecidableEq, Repr

namespace Category

/-- The name of the bundle method that writes values of the category. -/
def writer (c : Category) : String := "put_" ++ c.stem

/-- The name of the bundle method that reads values of the category. -/
def reader (c : Category) : String := "get_" ++ c.stem

/-- How values of the category are handed to their writer. -/
def passing : Category → Passing
  | record | serializable | sparseRecords => .reference
  | recordArray | intList | textList | charSeqList | recordList => .slice
  | scalar _ | scalarArray _ | text | charSeq | handle | textArray | charSeqArray | size | sizeF =>
    .value

end Category

def Passing.argument : Passing → List Token → List Token
  | value, v => v
  | reference, v => code "&" ++ v
  | slice, v => code "&" ++ v ++ Token.bracket (code "..")

/-- A statement that writes a value into a bundle under a key. -/
structure Write where
  category : Category
  key : String
  value : List Token

/-- The code of a write, given the name of the bundle. A write that can fail passes its failure on.
-/
def Write.tokens (bundle : String) (w : Write) : List Token :=
  codeWord bundle ++ code "." ++ codeWord w.category.writer ++
    Token.paren (codeString w.key ++ code "," ++ w.category.passing.argument w.value) ++
    (if w.category.fallibleWrite then code "?" else []) ++ code ";"

/-- An expression that reads the value under a key of a bundle. -/
structure Read where
  category : Category
  key : String
deriving DecidableEq, Repr

/-- The code of a read, given the name of the bundle. It passes a failure on. -/
def Read.tokens (bundle : String) (r : Read) : List Token :=
  codeWord bundle ++ code "." ++ codeWord r.category.reader ++ Token.paren (codeString r.key) ++
    code "?"

end Relay
