import Relay.Interface.KnownTypes
import Relay.Source.TypeExpr

/-!
# Descriptions of types

The descriptor of a type that stands in a declaration. Parentheses do not count, and of a path only
the last segment does, except that the name of a declared type is the whole path. A listed name goes
before everything that is built in.

Of generic arguments only types count, and a type that is left open with `_` counts as missing.
-/
namespace Relay

/-- The words of a path, as written. -/
def PathExpr.name (p : PathExpr) : String :=
  (if p.isRooted then "::" else "") ++ "::".intercalate (p.segments.map Segment.name)

namespace Arguments

/-- Whether nothing is given. -/
def isNone : Arguments → Bool
  | none => true
  | _ => false

end Arguments

mutual

def TypeExpr.describe (known : KnownTypes) : TypeExpr → TypeDesc
  | .paren t => t.describe known
  | .group t => t.describe known
  | .path p => p.describe known
  | t => .other t.text

def PathExpr.describe (known : KnownTypes) : PathExpr → TypeDesc
  | .mk rooted segments => describeLast known (.mk rooted segments) segments

def describeLast (known : KnownTypes) (whole : PathExpr) : List Segment → TypeDesc
  | [] => .other whole.text
  | [s] => s.describe known whole
  | _ :: s :: rest => describeLast known whole (s :: rest)

/-- The descriptor of a whole path by its last segment. -/
def Segment.describe (known : KnownTypes) (whole : PathExpr) : Segment → TypeDesc
  | .mk name args =>
    if known.conformance name ≠ .none then .named whole.name (known.conformance name)
    else
      match args.isNone, ScalarKind.ofSourceName? name with
      | true, some kind => .scalar kind
      | _, _ =>
        match name with
        | "String" => .text
        | "CharSeq" => .charSeq
        | "Handle" => .handle
        | "Size" => .size
        | "SizeF" => .sizeF
        | "Vec" => .list (args.describeTypes known)
        | "SparseMap" => .sparseMap (args.describeTypes known)
        | "HashMap" => .map (args.describeTypes known)
        | "BTreeMap" => .map (args.describeTypes known)
        | "Box" => (args.describeSlice? known).getD (.other whole.text)
        | _ => .named whole.name .none

/-- The descriptors of the types among the arguments of a segment. -/
def Arguments.describeTypes (known : KnownTypes) : Arguments → List TypeDesc
  | .angle _ args _ => describeArguments known args
  | _ => []

/-- The descriptor of an array, if the only argument of a segment is a slice. -/
def Arguments.describeSlice? (known : KnownTypes) : Arguments → Option TypeDesc
  | .angle _ [.type (.slice elem)] _ => some (.array (elem.describe known))
  | _ => none

/-- The descriptors of the types among generic arguments. -/
def describeArguments (known : KnownTypes) : List Argument → List TypeDesc
  | [] => []
  | .type .infer :: rest => describeArguments known rest
  | .type t :: rest => t.describe known :: describeArguments known rest
  | _ :: rest => describeArguments known rest

end

end Relay
