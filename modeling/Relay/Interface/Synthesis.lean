import Relay.Interface.TypeDesc
import Relay.Source.Reading

/-!
# Types of descriptors

A type for a descriptor that came without one, for use in emitted code. It says where everything
built in comes from in full, so that it means the same wherever it stands. What is known only as
text is read as a type; a text that is none stands for the empty tuple.
-/
namespace Relay

/-- A rooted path of words whose last segment has types for arguments. -/
def PathExpr.applied (names : List String) (last : String) (args : List TypeExpr) : PathExpr :=
  (PathExpr.ofNames true names).snoc (.mk last (.angle false (args.map .type) false))

def TypeExpr.ofText (text : String) : TypeExpr :=
  match Source.readType text with
  | .ok t => t
  | .error _ => .tuple [] false

mutual

/-- A type for a descriptor, given the path of the runtime library. -/
def TypeDesc.typeExpr (runtime : PathExpr) : TypeDesc → TypeExpr
  | .scalar kind => .path (.ofNames false [kind.sourceName])
  | .text => .path (.ofNames true ["std", "string", "String"])
  | .charSeq => .path (runtime.snoc (.mk "CharSeq" .none))
  | .handle => .path (runtime.snoc (.mk "Handle" .none))
  | .size => .path (runtime.snoc (.mk "Size" .none))
  | .sizeF => .path (runtime.snoc (.mk "SizeF" .none))
  | .array elem => .path (.applied ["std", "boxed"] "Box" [.slice (elem.typeExpr runtime)])
  | .list args => .path (.applied ["std", "vec"] "Vec" (typeExprs runtime args))
  | .sparseMap args =>
    .path (runtime.snoc (.mk "SparseMap" (.angle false ((typeExprs runtime args).map .type) false)))
  | .map args => .path (.applied ["std", "collections"] "HashMap" (typeExprs runtime args))
  | .named name _ => .ofText name
  | .other text => .ofText text

/-- Types for descriptors. -/
def typeExprs (runtime : PathExpr) : List TypeDesc → List TypeExpr
  | [] => []
  | d :: rest => d.typeExpr runtime :: typeExprs runtime rest

end

end Relay
