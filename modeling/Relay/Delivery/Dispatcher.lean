import Relay.Delivery.Event
import Relay.Delivery.Interface

/-!
# Dispatchers

The receiving half of an interface. A dispatcher sees one envelope at a time and either makes
exactly one call on its receiver or says why it made none. The checks come in a fixed order: the
receiver must be there, the id must belong to a method, and all arguments must be readable before
the call is made. A frame has to be readable before any of that is looked at.
-/
namespace Relay

variable {U : Universe}

/-- A call that a receiver got. -/
structure Call (U : Universe) where
  method : String
  args : LiveArgs U

/-- What dispatching one item comes to. -/
structure Handling (U : Universe) where
  outcome : Outcome
  events : List Event
  call : Option (Call U)

namespace Handling

/-- The call was made. -/
def deliver (method : String) (args : LiveArgs U) : Handling U :=
  ⟨.delivered, [], some ⟨method, args⟩⟩

def disposed (interface : String) (what : UInt32) : Handling U :=
  ⟨.discarded .receiverDisposed, [.disposed interface what], none⟩

def unknown (interface : String) (what : UInt32) : Handling U :=
  ⟨.discarded (.unknownMethod what), [.unknown interface what], none⟩

/-- The arguments could not be read. -/
def malformed (interface : String) (what : UInt32) (error : BundleError) : Handling U :=
  ⟨.discarded (.malformed what error), [.malformed interface what error], none⟩

/-- The bytes could not be read. -/
def undecodable (error : WireError) : Handling U :=
  ⟨.discarded (.undecodable error), [.undecodable error], none⟩

end Handling

/-- The two kinds of dispatcher, by where the arguments of a call are found. -/
inductive Surface (U : Universe) where
  | within (interface : Interface U)
  /-- Arguments in a bundle. -/
  | across (interface : SlotInterface U)

/-- An item waiting in a mailbox. -/
inductive Item (U : Universe) where
  | envelope (e : Envelope U)
  | frame (bytes : List UInt8)

def Surface.name : Surface U → String
  | within i => i.name
  | across i => i.name

/-- Makes the call that an envelope with live arguments asks for. -/
def Method.receive (m : Method U) (interface : String) (e : Envelope U) : Handling U :=
  if m.params.isEmpty then
    .deliver m.name ⟨[], ()⟩
  else
    match e.args? m.types with
    | some args => .deliver m.name ⟨m.types, args⟩
    | none =>
      let expected := TypeDesc.displayTuple (m.types.map (ArgType.desc U))
      .malformed interface e.what (.argumentMismatch expected)

/-- Makes the call that an envelope with a bundle asks for. -/
def SlotMethod.receive (m : SlotMethod U) (interface : String) (e : Envelope U) : Handling U :=
  if m.params.isEmpty then
    .deliver m.name ⟨[], ()⟩
  else
    match unmarshal m.params e.payload with
    | .ok args => .deliver m.name ⟨m.types, args⟩
    | .error error => .malformed interface e.what error

namespace Surface

/-- Dispatches an envelope to a receiver that is there. -/
def receive (s : Surface U) (e : Envelope U) : Handling U :=
  match s with
  | within i =>
    match numbered? i.methods e.what with
    | some m => m.receive i.name e
    | none => .unknown i.name e.what
  | across i =>
    match numbered? i.methods e.what with
    | some m => m.receive i.name e
    | none => .unknown i.name e.what

def dispatch (s : Surface U) (live : Bool) (e : Envelope U) : Handling U :=
  if live then s.receive e else .disposed s.name e.what

/-- Dispatches the envelope that a frame spells. -/
def deliver (s : Surface U) (live : Bool) (bytes : List UInt8) : Handling U :=
  match Frame.decode bytes with
  | .ok f => s.dispatch live (.ofFrame f)
  | .error error => .undecodable error

def handle (s : Surface U) (live : Bool) : Item U → Handling U
  | .envelope e => s.dispatch live e
  | .frame bytes => s.deliver live bytes

end Surface

end Relay
