import Relay.Interface.TypeDesc

/-!
# Classification

Which category carries the values of a described type, if one does. Containers are looked into one
level deep, and a list or sparse map that names no element type is told apart from one whose
element type cannot be carried.
-/
namespace Relay

/-- What the generator can do with a described type. -/
inductive Classification where
  | transportable (category : Category)
  | unsupported
  /-- A list or sparse map without an element type. -/
  | unknownArgument (wrapper : String)
deriving DecidableEq, Repr

namespace Classification

def category? : Classification → Option Category
  | transportable category => some category
  | _ => none

end Classification

namespace TypeDesc

def classifyArray : TypeDesc → Classification
  | scalar kind => .transportable (.scalarArray kind)
  | text => .transportable .textArray
  | charSeq => .transportable .charSeqArray
  | named _ conformance =>
    if conformance.record then .transportable .recordArray else .unsupported
  | _ => .unsupported

def classifySparse : List TypeDesc → Classification
  | [] => .unknownArgument "SparseMap"
  | [named _ conformance] =>
    if conformance.record then .transportable .sparseRecords else .unsupported
  | _ => .unsupported

def classifyList : List TypeDesc → Classification
  | [] => .unknownArgument "Vec"
  | [scalar .int] => .transportable .intList
  | [text] => .transportable .textList
  | [charSeq] => .transportable .charSeqList
  | [named _ conformance] =>
    if conformance.record then .transportable .recordList else .unsupported
  | _ => .unsupported

/-- The category that carries values of a described type. A type that takes part in both protocols
is carried as a record. -/
def classify : TypeDesc → Classification
  | scalar kind => .transportable (.scalar kind)
  | text => .transportable .text
  | charSeq => .transportable .charSeq
  | handle => .transportable .handle
  | size => .transportable .size
  | sizeF => .transportable .sizeF
  | array elem => classifyArray elem
  | list args => classifyList args
  | sparseMap args => classifySparse args
  | named _ conformance =>
    if conformance.record then .transportable .record
    else if conformance.serializable then .transportable .serializable
    else .unsupported
  | map _ => .unsupported
  | other _ => .unsupported

end TypeDesc

end Relay
