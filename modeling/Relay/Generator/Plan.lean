import Relay.Generator.Registry
import Relay.Interface.Classification

/-!
# Plans

The two transports in their differences, and what they make of each method. Only the cross-process
transport asks for the category of a parameter. A method has a plan when nothing is wrong with any
of its parameters, and an interface when every method has one; otherwise everything that is wrong is
listed in order.
-/
namespace Relay

/-- How a dispatcher holds its receiver. -/
inductive Holding where
  | owned | weak
deriving DecidableEq, Repr

namespace Transport

/-- What the name of a proxy adds to the name of its interface. -/
def suffix : Transport → String
  | sameProcess => "Handler"
  | crossProcess => "Messenger"

/-- How dispatchers hold their receivers. -/
def holding : Transport → Holding
  | sameProcess => .weak
  | crossProcess => .owned

/-- Whether arguments are written into a bundle. -/
def serializes : Transport → Bool
  | sameProcess => false
  | crossProcess => true

end Transport

/-- A parameter with its category, if the transport asks for one. -/
structure PlannedParam where
  param : Declared.Param
  category : Option Category

/-- A numbered method with its parameters resolved for a transport. -/
structure MethodPlan where
  id : UInt32
  name : String
  params : List PlannedParam

namespace MethodPlan

/-- The platform level that calls of the method need: the highest that a category asks for. -/
def minLevel? (p : MethodPlan) : Option Nat :=
  (p.params.filterMap fun q => q.category.bind Category.minLevel?).max?

end MethodPlan

/-- What a transport makes of a parameter. -/
def Declared.Param.plan (t : Transport) (p : Declared.Param) : Except Cause PlannedParam :=
  match p.unsupported with
  | some reason => .error (.unsupportedParam reason)
  | none =>
    if t.serializes then
      match p.desc.classify with
      | .transportable category => .ok ⟨p, some category⟩
      | .unsupported => .error (.noCategory p.desc.display)
      | .unknownArgument wrapper => .error (.noElementType wrapper)
    else .ok ⟨p, none⟩

namespace Registered

/-- What is wrong with a parameter of a method. -/
def paramProblem? (t : Transport) (interface : String) (m : Registered) (p : Declared.Param) :
    Option Diagnostic :=
  match p.plan t with
  | .ok _ => none
  | .error cause =>
    some ⟨cause, interface, some m.method.signature, some p.name, p.position.or m.method.position⟩

/-- What is wrong with the parameters of a method. -/
def paramProblems (t : Transport) (interface : String) (m : Registered) : List Diagnostic :=
  m.method.params.filterMap (m.paramProblem? t interface)

def plan (t : Transport) (m : Registered) : MethodPlan :=
  ⟨m.id, m.method.name, m.method.params.filterMap fun p => (p.plan t).toOption⟩

end Registered

namespace Registry

/-- What is wrong with the parameters of all methods. -/
def paramProblems (t : Transport) (r : Registry) : List Diagnostic :=
  r.methods.flatMap (Registered.paramProblems t r.interface)

/-- The plans of all methods, or what is wrong with their parameters. -/
def plan (t : Transport) (r : Registry) : Except (List Diagnostic) (List MethodPlan) :=
  if (r.paramProblems t).isEmpty then .ok (r.methods.map (Registered.plan t))
  else .error (r.paramProblems t)

end Registry

end Relay
