import Relay.Delivery.ArgType
import Relay.Value.Shown
import Relay.Wire.Reader

/-!
# Envelopes

The unit of delivery between a proxy and a dispatcher: a method id and what the call brings along.
An envelope that crosses a process boundary brings a bundle. One that stays in the process may
bring live arguments instead, which are moved to the receiver and have no byte form.
-/
namespace Relay

/-- Live arguments, together with their types. -/
structure LiveArgs (U : Universe) where
  types : List (ArgType U.Name)
  values : Tuple U types

/-- What an envelope brings along. -/
inductive Content (U : Universe) where
  | nothing
  | data (bundle : Bundle)
  | live (args : LiveArgs U)

/-- A method id and what the call brings along. -/
structure Envelope (U : Universe) where
  what : UInt32
  content : Content U

namespace Envelope

variable {U : Universe}

/-- An envelope that brings nothing. -/
def bare (what : UInt32) : Envelope U := ⟨what, .nothing⟩

def withData (what : UInt32) (data : Bundle) : Envelope U := ⟨what, .data data⟩

/-- An envelope that brings live arguments. -/
def withArgs (what : UInt32) (args : LiveArgs U) : Envelope U := ⟨what, .live args⟩

def data? (e : Envelope U) : Option Bundle :=
  match e.content with
  | .data b => some b
  | _ => none

def payload (e : Envelope U) : Bundle := e.data?.getD .empty

/-- Whether the envelope brings live arguments. -/
def hasArgs (e : Envelope U) : Bool :=
  match e.content with
  | .live _ => true
  | _ => false

/-- The live arguments, if they are of exactly these types. -/
def args? (e : Envelope U) (types : List (ArgType U.Name)) : Option (Tuple U types) :=
  match e.content with
  | .live args => if h : args.types = types then some (h ▸ args.values) else none
  | _ => none

def ofFrame (f : Frame) : Envelope U :=
  match f.data with
  | some b => .withData f.what b
  | none => .bare f.what

/-- The frame of an envelope; nothing for live arguments. -/
def frame? (e : Envelope U) : Option Frame :=
  match e.content with
  | .nothing => some ⟨e.what, none⟩
  | .data b => some ⟨e.what, some b⟩
  | .live _ => none

/-- Writes an envelope. Live arguments are refused before anything is written. -/
def write (e : Envelope U) : Output :=
  match e.frame? with
  | some f => f.write
  | none => .stop .liveArguments

/-- The byte form of an envelope. -/
def encode (e : Envelope U) : Except WireError (List UInt8) := e.write.result

/-- Writes envelopes into one buffer: the outcome of each, and all bytes written. A refused envelope
leaves what it had written before the refusal, and the next one follows it. -/
def writeStream : List (Envelope U) → List (Option WireError) × List UInt8
  | [] => ([], [])
  | e :: rest =>
    let (faults, bytes) := writeStream rest
    (e.write.fault :: faults, e.write.bytes ++ bytes)

def shown (e : Envelope U) : String :=
  Shown.fields "Envelope" [
    ("what", toString e.what.toNat),
    ("data", match e.data? with
      | some b => Shown.applied "Some" b.shown
      | none => "None"),
    ("args", if e.hasArgs then "true" else "false")]

end Envelope

end Relay
