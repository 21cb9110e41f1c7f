import Relay.Source.TypeExpr

/-!
# Ownership

A call waits in a queue before it runs, so its arguments must own what they hold. A type is refused
when it borrows for anything shorter than the whole run, as far as that can be seen, or when it is
no concrete type. What is looked into are the parts of composite types and the generic arguments of
paths; signatures and bounds are not.
-/
namespace Relay

/-- Why the values of a type cannot wait in a queue. The texts are those of the offending part. -/
inductive OwnershipProblem where
  /-- A reference that may not live long enough. -/
  | borrowed (type : String)
  /-- A type that is not named. -/
  | unnamed (type : String)
  /-- A path with a lifetime that may be too short. -/
  | borrowsFor (type lifetime : String)
deriving DecidableEq, Repr

def OwnershipProblem.message : OwnershipProblem → String
  | borrowed type =>
    "borrowed parameter `" ++ type ++ "` cannot outlive the call; pass an owned value"
  | unnamed type => "`" ++ type ++ "` parameters cannot be proxied; name a concrete type"
  | borrowsFor type lifetime =>
    "`" ++ type ++ "` borrows for `'" ++ lifetime ++ "`; only `'static` data can be queued"

/-- The lifetime of what lasts for the whole run. -/
def lastingLifetime : String := "static"

mutual

/-- The first reason why the values of a type cannot wait in a queue. -/
def TypeExpr.ownershipProblem? : TypeExpr → Option OwnershipProblem
  | .reference lifetime isMut elem =>
    if lifetime = some lastingLifetime then elem.ownershipProblem?
    else some (.borrowed (TypeExpr.reference lifetime isMut elem).text)
  | .implement bounds trailing => some (.unnamed (TypeExpr.implement bounds trailing).text)
  | .paren elem => elem.ownershipProblem?
  | .group elem => elem.ownershipProblem?
  | .slice elem => elem.ownershipProblem?
  | .array elem _ => elem.ownershipProblem?
  | .pointer _ elem => elem.ownershipProblem?
  | .tuple elems _ => ownershipProblemOfTypes? elems
  | .path p => p.ownershipProblem? p.text
  | .qualified self rest =>
    self.ownershipProblem?.or
      (ownershipProblemOfSegments? (TypeExpr.qualified self rest).text rest)
  | .projected self via rest =>
    let whole := (TypeExpr.projected self via rest).text
    self.ownershipProblem?.or
      ((via.ownershipProblem? whole).or (ownershipProblemOfSegments? whole rest))
  | .function _ => none
  | .object _ _ _ => none
  | .never => none
  | .infer => none
  | .invocation _ _ => none
  | .verbatim _ => none

/-- The first problem among types. -/
def ownershipProblemOfTypes? : List TypeExpr → Option OwnershipProblem
  | [] => none
  | t :: rest => t.ownershipProblem?.or (ownershipProblemOfTypes? rest)

/-- The first problem of a path in a type, given the text of the type. -/
def PathExpr.ownershipProblem? (whole : String) : PathExpr → Option OwnershipProblem
  | .mk _ segments => ownershipProblemOfSegments? whole segments

/-- The first problem among the segments of a path in a type, given the text of the type. -/
def ownershipProblemOfSegments? (whole : String) : List Segment → Option OwnershipProblem
  | [] => none
  | s :: rest => (s.ownershipProblem? whole).or (ownershipProblemOfSegments? whole rest)

/-- The first problem of a segment of a path in a type, given the text of the type. -/
def Segment.ownershipProblem? (whole : String) : Segment → Option OwnershipProblem
  | .mk _ args => args.ownershipProblem? whole

/-- The first problem of the arguments of a segment of a path in a type, given the text of the type.
-/
def Arguments.ownershipProblem? (whole : String) : Arguments → Option OwnershipProblem
  | .angle _ args _ => ownershipProblemOfArguments? whole args
  | .signature _ => none
  | .none => none

/-- The first problem among the generic arguments of a path in a type, given the text of the type.
-/
def ownershipProblemOfArguments? (whole : String) : List Argument → Option OwnershipProblem
  | [] => none
  | a :: rest => (a.ownershipProblem? whole).or (ownershipProblemOfArguments? whole rest)

/-- The problem of a generic argument of a path in a type, given the text of the type. -/
def Argument.ownershipProblem? (whole : String) : Argument → Option OwnershipProblem
  | .lifetime name =>
    if name = lastingLifetime then none else some (.borrowsFor whole name)
  | .type t => t.ownershipProblem?
  | .const _ => none
  | .binding _ _ => none
  | .constBinding _ _ => none
  | .constraint _ _ _ => none

end

end Relay
