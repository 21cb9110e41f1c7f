import Relay.Delivery.Envelope

/-!
# Outcomes and events

What can happen to an envelope on its way, and what is noted about it. Calls are one-way, so nothing
is returned to the caller: a failure is an event in the log and, on the sending side, a count.
-/
namespace Relay

/-- Why an envelope or frame could not be sent. -/
inductive SendError where
  /-- The other side is gone. -/
  | connectionLost (reason : String)
  /-- The envelope has no byte form. -/
  | encoding (error : WireError)
  /-- An argument could not be written. -/
  | marshal (error : BundleError)
  /-- The transport failed in some other way. -/
  | io (reason : String)
deriving DecidableEq, Repr

def SendError.message : SendError → String
  | connectionLost reason => "Connection lost: " ++ reason
  | encoding error => "Encoding error: " ++ error.message
  | marshal error => "Marshalling error: " ++ error.message
  | io reason => "I/O error: " ++ reason

/-- Why an envelope did not reach its receiver. -/
inductive Discard where
  | receiverDisposed
  | unknownMethod (what : UInt32)
  /-- The arguments could not be read. -/
  | malformed (what : UInt32) (error : BundleError)
  /-- The bytes are no frame. -/
  | undecodable (error : WireError)
deriving DecidableEq, Repr

def Discard.message : Discard → String
  | receiverDisposed => "Receiver disposed"
  | unknownMethod what => "Unknown method id " ++ toString what.toNat
  | malformed what error => "Malformed envelope " ++ toString what.toNat ++ ": " ++ error.message
  | undecodable error => "Undecodable frame: " ++ error.message

/-- What happened to one queued item. -/
inductive Outcome where
  | delivered
  | discarded (why : Discard)
deriving DecidableEq, Repr

/-- What is noted in the log. -/
inductive Event where
  /-- An envelope was discarded because its receiver was gone. -/
  | disposed (interface : String) (what : UInt32)
  /-- An envelope was discarded because no method has its id. -/
  | unknown (interface : String) (what : UInt32)
  /-- An envelope was discarded because its arguments could not be read. -/
  | malformed (interface : String) (what : UInt32) (error : BundleError)
  /-- A frame was discarded because its bytes could not be read. -/
  | undecodable (error : WireError)
  /-- An envelope was posted into a mailbox that is gone. -/
  | dropped (interface : String) (what : UInt32)
  /-- A call could not be sent; `failures` counts those of the sender so far. -/
  | sendFailed (interface : String) (what : UInt32) (failures : UInt64) (error : SendError)
  /-- A mailbox ended because no sender was left. -/
  | mailboxClosed
  | sourceClosed
  | sourceFailed (error : SendError)
deriving DecidableEq, Repr

namespace Event

/-- The fields that name an envelope. -/
def addressed (interface : String) (what : UInt32) : String :=
  " interface=" ++ interface ++ " what=" ++ toString what.toNat

/-- The line of the log: the level, the message and the fields. -/
def line : Event → String
  | disposed interface what =>
    "TRACE receiver disposed, envelope dropped" ++ addressed interface what
  | unknown interface what =>
    "DEBUG no method for envelope id" ++ addressed interface what
  | malformed interface what error =>
    "WARN could not read envelope arguments" ++ addressed interface what ++ " error=" ++
      error.message
  | undecodable error => "WARN dropping undecodable frame error=" ++ error.message
  | dropped interface what =>
    "TRACE mailbox closed, envelope dropped" ++ addressed interface what
  | sendFailed interface what failures error =>
    "WARN send failed" ++ addressed interface what ++ " failures=" ++ toString failures.toNat ++
      " error=" ++ error.message
  | mailboxClosed => "TRACE mailbox closed"
  | sourceClosed => "TRACE source closed"
  | sourceFailed error => "WARN transport error in pump error=" ++ error.message

end Event

end Relay
