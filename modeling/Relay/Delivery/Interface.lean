import Relay.Delivery.Envelope

/-!
# Interfaces

An interface is an ordered list of one-way methods, each with ordered, named, typed parameters. The
order is what counts: the methods are numbered from one, and the arguments of a call come in the
order of the parameters.

The methods of a cross-process interface come with a slot for each parameter, in which its values
travel. Such an interface exists only when every parameter type has a slot.
-/
namespace Relay

variable {U : Universe}

/-- A parameter. Its name is the key of its value in a bundle. -/
structure Param (U : Universe) where
  name : String
  type : ArgType U.Name

/-- A one-way method. -/
structure Method (U : Universe) where
  name : String
  params : List (Param U)

/-- The types of the parameters in order. -/
def Method.types (m : Method U) : List (ArgType U.Name) := m.params.map Param.type

/-- A named list of methods. -/
structure Interface (U : Universe) where
  name : String
  methods : List (Method U)

/-- A parameter whose values can cross a process boundary. -/
structure SlotParam (U : Universe) where
  name : String
  type : ArgType U.Name
  slot : Slot (ArgType.Val U type)

/-- A method whose arguments can cross a process boundary. -/
structure SlotMethod (U : Universe) where
  name : String
  params : List (SlotParam U)

/-- The types of the parameters in order. -/
def SlotMethod.types (m : SlotMethod U) : List (ArgType U.Name) := m.params.map SlotParam.type

/-- An interface whose calls can cross a process boundary. -/
structure SlotInterface (U : Universe) where
  name : String
  methods : List (SlotMethod U)

/-- The element with a number counted from one. -/
def numbered? {α : Type} (xs : List α) (id : UInt32) : Option α :=
  match id.toNat with
  | 0 => none
  | n + 1 => xs[n]?

/-- The first element that passes a test, with its number counted from `first`. -/
def numberOf? {α : Type} (test : α → Bool) (first : UInt32) : List α → Option (UInt32 × α)
  | [] => none
  | x :: rest => if test x then some (first, x) else numberOf? test (first + 1) rest

def Param.slot? (p : Param U) : Option (SlotParam U) :=
  (ArgType.slot? U p.type).map fun slot => ⟨p.name, p.type, slot⟩

def Method.slot? (m : Method U) : Option (SlotMethod U) :=
  (m.params.mapM Param.slot?).map fun params => ⟨m.name, params⟩

def Interface.slot? (i : Interface U) : Option (SlotInterface U) :=
  (i.methods.mapM Method.slot?).map fun methods => ⟨i.name, methods⟩

/-! ### Arguments in a bundle -/

/-- Writes arguments into a bundle, each under the name of its parameter, in order. -/
def marshal : (params : List (SlotParam U)) → Tuple U (params.map SlotParam.type) → Bundle →
    Except BundleError Bundle
  | [], _, b => .ok b
  | p :: rest, args, b => do
    let b ← b.put p.slot p.name args.1
    marshal rest args.2 b

/-- Reads arguments back from a bundle, in order. The first parameter that cannot be read decides
the error. -/
def unmarshal : (params : List (SlotParam U)) → Bundle →
    Except BundleError (Tuple U (params.map SlotParam.type))
  | [], _ => .ok ()
  | p :: rest, b => do
    let value ← b.fetch p.slot p.name
    let values ← unmarshal rest b
    return (value, values)

/-! ### Calls as envelopes -/

/-- The envelope of a call inside the process. A method without parameters brings nothing. -/
def Method.localEnvelope (m : Method U) (id : UInt32) (args : Tuple U m.types) : Envelope U :=
  if m.params.isEmpty then .bare id else .withArgs id ⟨m.types, args⟩

/-- The envelope of a call across processes, or why its arguments cannot be written. A method
without parameters brings nothing. -/
def SlotMethod.remoteEnvelope (m : SlotMethod U) (id : UInt32) (args : Tuple U m.types) :
    Except BundleError (Envelope U) :=
  if m.params.isEmpty then .ok (.bare id)
  else (marshal m.params args .empty).map (.withData id)

end Relay
