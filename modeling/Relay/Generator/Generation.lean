import Relay.Generator.Dispatch
import Relay.Generator.Proxy

/-!
# Generation

From declarations to emitted code. Everything that is wrong with a declaration is found before any
code is made for it, and one that is rejected does not hold up the others.

The names of methods and parameters are not among what is looked for. If one of them cannot stand in
code, generation fails without an answer.
-/
namespace Relay

/-- What is noted about a generation. -/
inductive GenerationEvent where
  | rejected (interface : String) (count : Nat)
  | generated (interface proxy : String) (methods : Nat)
deriving DecidableEq, Repr

def GenerationEvent.line : GenerationEvent → String
  | rejected interface count =>
    "DEBUG generation rejected interface=" ++ interface ++ " count=" ++ toString count
  | generated interface proxy methods =>
    "TRACE generated interface=" ++ interface ++ " proxy=" ++ proxy ++ " methods=" ++
      toString methods

/-- The code for a declaration, and the plans behind it. -/
structure Generated where
  emission : Emission
  plans : List MethodPlan

namespace Generated

def tokens (o : Generated) : List Token := o.emission.proxyCode ++ o.emission.dispatcherCode

/-- The text of the emitted code. -/
def text (o : Generated) : String := textOfTokens o.tokens

def event (o : Generated) : GenerationEvent :=
  .generated o.emission.interface o.emission.proxy o.plans.length

end Generated

/-- How a generation ends. -/
inductive Generation where
  | accepted (output : Generated)
  | rejected (diagnostics : List Diagnostic)
  /-- A name of a method or parameter cannot stand in code. -/
  | unspeakable

namespace Declared.Interface

/-- The name of the proxy: the one asked for, or the default. -/
def proxyName (i : Interface) (t : Transport) (outputName : Option String) : String :=
  outputName.getD (i.name ++ t.suffix)

/-- What is wrong with a name that is to stand in the emitted code as it is. -/
def nameProblem? (i : Interface) (role name : String) (position : Option Position) :
    Option Diagnostic :=
  match Source.readName name with
  | .ok _ => none
  | .error _ => some ⟨.invalidName role name, i.name, none, none, position⟩

/-- Everything that is wrong with an interface, in the order in which it is reported. -/
def problems (i : Interface) (t : Transport) (outputName : Option String)
    (position : Option Position) : List Diagnostic :=
  i.violations ++ (Registry.ofInterface i).paramProblems t ++
    (i.nameProblem? "interface name" i.name i.position).toList ++
    (i.nameProblem? "output name" (i.proxyName t outputName) position).toList

/-- The code for an interface, if its names can stand in code. -/
def emit? (i : Interface) (t : Transport) (outputName : Option String) (runtime : PathExpr) :
    Option Generated := do
  let registry := Registry.ofInterface i
  let plans := registry.methods.map (Registered.plan t)
  let trait ← (Source.readName i.name).toOption
  let proxy ← (Source.readName (i.proxyName t outputName)).toOption
  let methods ← plans.mapM (MethodPlan.code? runtime)
  return ⟨⟨runtime, i.name, t, trait, i.visibility, proxy, registry.lastId, methods⟩, plans⟩

end Declared.Interface

namespace Declaration

/-- Generates the code for a declaration, given the path of the runtime library. -/
def generate (runtime : PathExpr) (d : Declaration) : Generation :=
  match d.content with
  | .other kind => .rejected [⟨.otherItem kind, d.name, none, none, d.position⟩]
  | .interface i =>
    let problems := i.problems d.transport d.outputName d.position
    if problems.isEmpty then
      match i.emit? d.transport d.outputName runtime with
      | some output => .accepted output
      | none => .unspeakable
    else .rejected problems

/-- What is noted about a declaration whose generation ends in some way. -/
def events (d : Declaration) : Generation → List GenerationEvent
  | .accepted output => [output.event]
  | .rejected diagnostics =>
    match d.content with
    | .interface i => [.rejected i.name diagnostics.length]
    | .other _ => []
  | .unspeakable => []

/-- The path of the runtime library, unless another is given. -/
def defaultRuntime : PathExpr := .ofNames true ["courier"]

end Declaration

/-- The results for several declarations. -/
structure Batch where
  outputs : List Generated
  diagnostics : List Diagnostic
  events : List GenerationEvent

namespace Batch

/-- Whether nothing was wrong. -/
def isOk (b : Batch) : Bool := b.diagnostics.isEmpty

/-- The results for no declarations. -/
def empty : Batch := ⟨[], [], []⟩

/-- The results with those for one more declaration in front. -/
def cons? (runtime : PathExpr) (d : Declaration) (b : Batch) : Option Batch :=
  let g := d.generate runtime
  let events := d.events g ++ b.events
  match g with
  | .accepted output => some ⟨output :: b.outputs, b.diagnostics, events⟩
  | .rejected diagnostics => some ⟨b.outputs, diagnostics ++ b.diagnostics, events⟩
  | .unspeakable => none

end Batch

/-- Generates the code for each declaration. There is no answer if there is none for one of them. -/
def generateAll? (runtime : PathExpr) : List Declaration → Option Batch
  | [] => some .empty
  | d :: rest => (generateAll? runtime rest).bind (Batch.cons? runtime d)

end Relay
