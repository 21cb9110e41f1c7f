import Relay.Delivery.World

/-!
# Sessions

The requests that a program can make of a world, and their answers. A request that does not fit the
world, because a name stands for nothing or for something of another kind, has no answer.
-/
namespace Relay

variable {U : Universe}

inductive Request (U : Universe) where
  | receiver (name : String)
  | calls (receiver : String)
  /-- Lets go of a thing. -/
  | drop (name : String)
  | hold (name receiver : String) (owned : Bool)
  /-- Whether a hold finds its receiver. -/
  | resolve (name : String)
  /-- A proxy of this process and the mailbox behind it, which does not keep the receiver alive. -/
  | attach (interface : Interface U) (receiver proxy mailbox : String)
  /-- A cross-process proxy and the mailbox behind it, which keeps the receiver alive. -/
  | host (interface : SlotInterface U) (receiver proxy mailbox : String)
  /-- A proxy of this process whose mailbox drains itself. -/
  | attachSpawned (interface : Interface U) (receiver proxy : String)
  /-- A further cross-process proxy on the link of another. -/
  | connect (interface : SlotInterface U) (proxy target : String)
  /-- A link that refuses every frame. -/
  | severed (name : String) (error : SendError)
  /-- A further hold, proxy of this process, local sender or link like another. -/
  | clone (source name : String)
  | call (proxy method : String) (args : LiveArgs U)
  /-- The number of calls that a sender could not deliver. -/
  | failed (name : String)
  | frame (target : String) (bytes : List UInt8)
  /-- A link as shown to a developer. -/
  | showLink (target : String)
  /-- Handles what waits in a mailbox. -/
  | pump (mailbox : String)
  /-- Drives a mailbox once, which uses it up. -/
  | run (mailbox : String)
  /-- Hands a mailbox to a task, which uses it up. -/
  | spawn (mailbox task : String)
  /-- Runs the ready tasks. -/
  | settle
  | finished (task : String)
  /-- A sender of this process and the mailbox behind it. -/
  | localMailbox (surface : Surface U) (hold sender mailbox : String)
  | remoteMailbox (surface : Surface U) (hold link mailbox : String)
  /-- A sender on the link of another thing. -/
  | sender (name target : String)
  | send (sender : String) (envelope : Envelope U)
  /-- Whether the mailbox of a local sender is gone. -/
  | closed (sender : String)
  /-- Counts a call that could not be delivered. -/
  | report (sender : String) (what : UInt32) (error : SendError)
  | dispatch (surface : Surface U) (hold : String) (envelope : Envelope U)
  /-- Dispatches a frame at once. -/
  | deliver (surface : Surface U) (hold : String) (bytes : List UInt8)
  | serve (surface : Surface U) (hold : String) (frames : List (List UInt8))
      (ending : World.SourceEnd)

inductive Answer (U : Universe) where
  | done
  | flag (value : Bool)
  | count (value : UInt64)
  /-- There is nothing to count. -/
  | uncounted
  | calls (calls : List (Call U))
  | resolution (live owned resolved : Bool)
  | sent (refusal : Option SendError)
  | outcome (value : Outcome)
  | outcomes (values : List Outcome)
  | text (value : String)
  /-- How serving a source came to its end, and, when the link to the source is still there, how it
  refuses frames from then on. -/
  | served (ending : World.SourceEnd) (refusal : Option SendError)

/-- The name under which senders and mailboxes outside any proxy appear in the log. -/
def bareInterface : String := "Raw"

namespace World

/-- The link that a thing sends frames over. -/
def linkOf? : Thing U → Option Link
  | .messenger _ sender => some sender.link
  | .remoteSender sender => some sender.link
  | .link link => some link
  | _ => none

def receiver? (w : World U) (name : String) : Option Nat :=
  match w.find? name with
  | some (.receiver id) => some id
  | _ => none

def hold? (w : World U) (name : String) : Option Hold :=
  match w.find? name with
  | some (.hold h) => some h
  | _ => none

def mailbox? (w : World U) (name : String) : Option (Mailbox U) :=
  match w.find? name with
  | some (.mailbox m) => some m
  | _ => none

def openMailbox (w : World U) (surface : Surface U) (h : Hold) : World U × Mailbox U :=
  let (w, channel) := (w.acquire h).openChannel
  (w, ⟨channel, surface, h⟩)

/-- A further thing like another, for the kinds that can be doubled. -/
def double? (w : World U) : Thing U → Option (World U)
  | .hold h => some (w.acquire h)
  | .handler _ channel => some (w.addSender channel)
  | .localSender _ channel => some (w.addSender channel)
  | .link link => some (w.addLink link)
  | _ => none

/-- Calls a method through a proxy. The arguments must be of the types of the method. -/
def callThrough (w : World U) (proxy method : String) (args : LiveArgs U) : Option (World U) := do
  match ← w.find? proxy with
  | .handler i channel =>
    let (id, m) ← numberOf? (fun m => m.name == method) 1 i.methods
    if h : args.types = m.types then
      some (w.sendLocal i.name channel (m.localEnvelope id (h ▸ args.values)))
    else none
  | .messenger i sender =>
    let (id, m) ← numberOf? (fun m => m.name == method) 1 i.methods
    if h : args.types = m.types then
      let (w, sender) := w.callRemote sender id m (h ▸ args.values)
      some (w.update proxy (.messenger i sender))
    else none
  | _ => none

def answer (w : World U) : Request U → Option (World U × Answer U)
  | .receiver name =>
    let (w, id) := w.addReceiver
    some (w.bind name (.receiver id), .done)
  | .calls name => do
    let id ← w.receiver? name
    let r ← w.receivers[id]?
    return (w, .calls r.calls)
  | .drop name =>
    let (w, existed) := w.drop name
    some (w, .flag existed)
  | .hold name receiver owned => do
    let h : Hold := ⟨← w.receiver? receiver, owned⟩
    return ((w.acquire h).bind name (.hold h), .done)
  | .resolve name => do
    let h ← w.hold? name
    return (w, .resolution (h.owned || w.isLive h.receiver) h.owned (w.resolves h))
  | .attach i receiver proxy mailbox => do
    let id ← w.receiver? receiver
    let (w, m) := w.openMailbox (.within i) ⟨id, false⟩
    return ((w.bind proxy (.handler i m.channel)).bind mailbox (.mailbox m), .done)
  | .host i receiver proxy mailbox => do
    let id ← w.receiver? receiver
    let (w, m) := w.openMailbox (.across i) ⟨id, true⟩
    let sender : RemoteSender := ⟨i.name, .channel m.channel, 0⟩
    return ((w.bind proxy (.messenger i sender)).bind mailbox (.mailbox m), .done)
  | .attachSpawned i receiver proxy => do
    let id ← w.receiver? receiver
    let (w, m) := w.openMailbox (.within i) ⟨id, false⟩
    let (w, _) := w.spawn m
    return (w.bind proxy (.handler i m.channel), .done)
  | .connect i proxy target => do
    let link ← linkOf? (← w.find? target)
    return ((w.addLink link).bind proxy (.messenger i ⟨i.name, link, 0⟩), .done)
  | .severed name error => some (w.bind name (.link (.severed error)), .done)
  | .clone source name => do
    let t ← w.find? source
    let w ← w.double? t
    return (w.bind name t, .done)
  | .call proxy method args => do
    let w ← w.callThrough proxy method args
    return (w, .done)
  | .failed name => do
    match ← w.find? name with
    | .messenger _ sender => return (w, .count sender.failures)
    | .remoteSender sender => return (w, .count sender.failures)
    | _ => return (w, .uncounted)
  | .frame target bytes => do
    let link ← linkOf? (← w.find? target)
    let (w, refusal) := w.sendFrame link bytes
    return (w, .sent refusal)
  | .showLink target => do
    let _ ← linkOf? (← w.find? target)
    return (w, .text "RemoteHandle { .. }")
  | .pump name => do
    let m ← w.mailbox? name
    let (w, outcomes) := w.pump m
    return (w, .outcomes outcomes)
  | .run name => do
    let m ← w.mailbox? name
    let (w, ended) := (w.forget name).run m
    return (w.dropMailbox m, .flag ended)
  | .spawn mailbox task => do
    let m ← w.mailbox? mailbox
    let (w, id) := (w.forget mailbox).spawn m
    return (w.bind task (.task id), .done)
  | .settle => some (w.settle, .done)
  | .finished name => do
    match ← w.find? name with
    | .task id =>
      let t ← w.tasks[id]?
      return (w, .flag t.finished)
    | _ => none
  | .localMailbox surface hold sender mailbox => do
    let h ← w.hold? hold
    let (w, m) := w.openMailbox surface h
    let w := w.bind sender (.localSender bareInterface m.channel)
    return (w.bind mailbox (.mailbox m), .done)
  | .remoteMailbox surface hold link mailbox => do
    let h ← w.hold? hold
    let (w, m) := w.openMailbox surface h
    let w := w.bind link (.link (.channel m.channel))
    return (w.bind mailbox (.mailbox m), .done)
  | .sender name target => do
    let link ← linkOf? (← w.find? target)
    return ((w.addLink link).bind name (.remoteSender ⟨bareInterface, link, 0⟩), .done)
  | .send name e => do
    match ← w.find? name with
    | .localSender interface channel => return (w.sendLocal interface channel e, .done)
    | .remoteSender sender =>
      let (w, sender) := w.sendRemote sender e
      return (w.update name (.remoteSender sender), .done)
    | _ => none
  | .closed name => do
    match ← w.find? name with
    | .localSender _ channel =>
      let c ← w.channels[channel]?
      return (w, .flag !c.isOpen)
    | _ => none
  | .report name what error => do
    match ← w.find? name with
    | .remoteSender sender =>
      let (w, sender) := w.report sender what error
      return (w.update name (.remoteSender sender), .done)
    | .messenger i sender =>
      let (w, sender) := w.report sender what error
      return (w.update name (.messenger i sender), .done)
    | _ => none
  | .dispatch surface hold e => do
    let h ← w.hold? hold
    let (w, outcome) := w.handle ⟨surface, h⟩ (.envelope e)
    return (w, .outcome outcome)
  | .deliver surface hold bytes => do
    let h ← w.hold? hold
    let (w, outcome) := w.handle ⟨surface, h⟩ (.frame bytes)
    return (w, .outcome outcome)
  | .serve surface hold frames ending => do
    let h ← w.hold? hold
    let (w, ending) := w.serve ⟨surface, h⟩ (frames.map .frame ++ ending.receptions)
    let refusal := if ending = .pending then some channelClosed else none
    return (w, .served ending refusal)

end World

end Relay
