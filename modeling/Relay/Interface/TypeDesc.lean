import Relay.Value.Category

/-!
# Type descriptors

What a parameter's type is, as far as carrying its values is concerned. A descriptor keeps the names
of declared types and which of the two protocols they take part in, and keeps everything it does not
understand as text.
-/
namespace Relay

/-- Which protocols a declared type takes part in. -/
structure Conformance where
  record : Bool
  serializable : Bool
deriving DecidableEq, Repr

namespace Conformance

/-- Neither protocol. -/
def none : Conformance := ⟨false, false⟩

end Conformance

/-- The shape of a parameter type. Lists and maps keep whatever arguments the declaration gave. -/
inductive TypeDesc where
  | scalar (kind : ScalarKind)
  | text
  | charSeq
  | handle
  | size
  | sizeF
  | array (elem : TypeDesc)
  | list (args : List TypeDesc)
  | sparseMap (args : List TypeDesc)
  | map (args : List TypeDesc)
  | named (name : String) (conformance : Conformance)
  | other (text : String)

mutual

/-- The text of a descriptor, as read in messages. -/
def TypeDesc.display : TypeDesc → String
  | .scalar kind => kind.sourceName
  | .text => "String"
  | .charSeq => "CharSeq"
  | .handle => "Handle"
  | .size => "Size"
  | .sizeF => "SizeF"
  | .array elem => "Box<[" ++ elem.display ++ "]>"
  | .list args => "Vec<" ++ ", ".intercalate (displayAll args) ++ ">"
  | .sparseMap args => "SparseMap<" ++ ", ".intercalate (displayAll args) ++ ">"
  | .map args => "HashMap<" ++ ", ".intercalate (displayAll args) ++ ">"
  | .named name _ => name
  | .other text => text

/-- The texts of descriptors, each on its own. -/
def displayAll : List TypeDesc → List String
  | [] => []
  | d :: rest => d.display :: displayAll rest

end

/-- The text of a tuple of descriptors, with a comma after every one. -/
def TypeDesc.displayTuple (descs : List TypeDesc) : String :=
  "(" ++ ", ".intercalate (displayAll descs) ++ ",)"

end Relay
