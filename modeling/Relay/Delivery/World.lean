import Relay.Delivery.Dispatcher

/-!
# Worlds

A world holds everything that takes part in delivery: receivers, channels and the mailboxes that
drain them, tasks, and the named things through which a program reaches them.

A receiver counts the parties that keep it alive; it is live while the count is positive. A channel
is open while its mailbox is there, and counts the senders that can still post into it. Both counts
are kept up by the operations here, one increment for each party that is made and one decrement for
each that is dropped.
-/
namespace Relay

/-- How a party holds a receiver: it keeps the receiver alive, or merely knows it. -/
structure Hold where
  receiver : Nat
  owned : Bool
deriving DecidableEq, Repr

/-- A dispatcher with the receiver it calls. -/
structure Dispatcher (U : Universe) where
  surface : Surface U
  hold : Hold

/-- The draining end of a channel. -/
structure Mailbox (U : Universe) where
  channel : Nat
  dispatcher : Dispatcher U

/-- Where frames go. -/
inductive Link where
  | channel (id : Nat)
  /-- Every frame is refused. -/
  | severed (error : SendError)

/-- The sending end of a link, with the number of calls that could not be delivered. -/
structure RemoteSender where
  interface : String
  link : Link
  failures : UInt64

/-- What a name can stand for. -/
inductive Thing (U : Universe) where
  | receiver (id : Nat)
  | hold (h : Hold)
  | handler (interface : Interface U) (channel : Nat)
  | messenger (interface : SlotInterface U) (sender : RemoteSender)
  | localSender (interface : String) (channel : Nat)
  | remoteSender (sender : RemoteSender)
  | link (link : Link)
  | mailbox (mailbox : Mailbox U)
  | task (id : Nat)

/-- A receiver: how many parties keep it alive, and the calls it got, the first one first. -/
structure Receiver (U : Universe) where
  strong : Nat
  calls : List (Call U)

/-- A queue: what waits in it, the first item first, how many senders are left, and whether the
mailbox is still there. -/
structure Channel (U : Universe) where
  items : List (Item U)
  senders : Nat
  isOpen : Bool

/-- A mailbox that drains itself. -/
structure Task (U : Universe) where
  mailbox : Mailbox U
  finished : Bool

/-- Everything that takes part in delivery. -/
structure World (U : Universe) where
  things : List (String × Thing U)
  receivers : List (Receiver U)
  channels : List (Channel U)
  tasks : List (Task U)
  /-- Tasks that have something to do, the one that became ready first in front. -/
  ready : List Nat
  /-- Everything noted so far. -/
  log : List Event

namespace World

variable {U : Universe}

/-- The world in which nothing has happened. -/
def empty : World U := ⟨[], [], [], [], [], []⟩

def note (w : World U) (e : Event) : World U := { w with log := w.log ++ [e] }

def find? (w : World U) (name : String) : Option (Thing U) := w.things.lookup name

/-! ### Receivers -/

/-- A new receiver, kept alive by one party. -/
def addReceiver (w : World U) : World U × Nat :=
  ({ w with receivers := w.receivers ++ [⟨1, []⟩] }, w.receivers.length)

def isLive (w : World U) (id : Nat) : Bool :=
  match w.receivers[id]? with
  | some r => 0 < r.strong
  | none => false

def modifyReceiver (w : World U) (id : Nat) (f : Receiver U → Receiver U) : World U :=
  { w with receivers := w.receivers.modify id f }

/-- One more party keeps a receiver alive, if the hold does. -/
def acquire (w : World U) (h : Hold) : World U :=
  if h.owned then w.modifyReceiver h.receiver fun r => { r with strong := r.strong + 1 } else w

/-- One party less keeps a receiver alive, if the hold did. -/
def release (w : World U) (h : Hold) : World U :=
  if h.owned then w.modifyReceiver h.receiver fun r => { r with strong := r.strong - 1 } else w

def resolves (w : World U) (h : Hold) : Bool := w.isLive h.receiver

/-! ### Channels and tasks -/

def modifyChannel (w : World U) (id : Nat) (f : Channel U → Channel U) : World U :=
  { w with channels := w.channels.modify id f }

/-- A new open channel with one sender. -/
def openChannel (w : World U) : World U × Nat :=
  ({ w with channels := w.channels ++ [⟨[], 1, true⟩] }, w.channels.length)

/-- The number of the unfinished task that drains a channel, searched from `first` on. -/
def taskOf? (channel : Nat) (first : Nat) : List (Task U) → Option Nat
  | [] => none
  | t :: rest =>
    if t.mailbox.channel = channel && !t.finished then some first
    else taskOf? channel (first + 1) rest

/-- Makes the task that drains a channel ready, unless it is so already. -/
def wake (w : World U) (channel : Nat) : World U :=
  match taskOf? channel 0 w.tasks with
  | some id => if w.ready.contains id then w else { w with ready := w.ready ++ [id] }
  | none => w

/-- Puts an item into a channel, if its mailbox is there; tells whether it was accepted. -/
def post (w : World U) (channel : Nat) (item : Item U) : World U × Bool :=
  match w.channels[channel]? with
  | some c =>
    if c.isOpen then
      let w := w.modifyChannel channel fun c => { c with items := c.items ++ [item] }
      (w.wake channel, true)
    else (w, false)
  | none => (w, false)

def addSender (w : World U) (channel : Nat) : World U :=
  w.modifyChannel channel fun c => { c with senders := c.senders + 1 }

/-- One sender less for a channel. When the last one goes, the mailbox learns of it. -/
def dropSender (w : World U) (channel : Nat) : World U :=
  let w := w.modifyChannel channel fun c => { c with senders := c.senders - 1 }
  match w.channels[channel]? with
  | some c => if c.senders = 0 then w.wake channel else w
  | none => w

/-- One more user of a link. -/
def addLink (w : World U) : Link → World U
  | .channel id => w.addSender id
  | .severed _ => w

/-- One user less of a link. -/
def dropLink (w : World U) : Link → World U
  | .channel id => w.dropSender id
  | .severed _ => w

/-- The mailbox goes: what waits in it is lost, and its receiver is let go. -/
def dropMailbox (w : World U) (m : Mailbox U) : World U :=
  (w.modifyChannel m.channel fun c => { c with items := [], isOpen := false }).release
    m.dispatcher.hold

/-! ### Names -/

/-- Lets go of a thing. A task goes on without its name. -/
def dropThing (w : World U) : Thing U → World U
  | .receiver id => w.release ⟨id, true⟩
  | .hold h => w.release h
  | .handler _ channel => w.dropSender channel
  | .messenger _ sender => w.dropLink sender.link
  | .localSender _ channel => w.dropSender channel
  | .remoteSender sender => w.dropLink sender.link
  | .link link => w.dropLink link
  | .mailbox m => w.dropMailbox m
  | .task _ => w

/-- Takes a name away without letting go of the thing. -/
def forget (w : World U) (name : String) : World U :=
  { w with things := w.things.filter fun e => e.1 != name }

/-- Gives a name to a thing in the place of another that stands for the same. -/
def update (w : World U) (name : String) (t : Thing U) : World U :=
  { w with things := (name, t) :: w.things.filter fun e => e.1 != name }

/-- Gives a name to a new thing; what the name stood for is let go of. -/
def bind (w : World U) (name : String) (t : Thing U) : World U :=
  let bound := w.update name t
  match w.find? name with
  | some old => bound.dropThing old
  | none => bound

/-- Takes a name away and lets go of the thing; tells whether there was one. -/
def drop (w : World U) (name : String) : World U × Bool :=
  match w.find? name with
  | some t => ((w.forget name).dropThing t, true)
  | none => (w, false)

/-! ### Draining -/

def handle (w : World U) (d : Dispatcher U) (item : Item U) : World U × Outcome :=
  let h := d.surface.handle (w.resolves d.hold) item
  let w := { w with log := w.log ++ h.events }
  match h.call with
  | some call =>
    (w.modifyReceiver d.hold.receiver fun r => { r with calls := r.calls ++ [call] }, h.outcome)
  | none => (w, h.outcome)

/-- Takes the first waiting item out of a channel. -/
def next? (w : World U) (channel : Nat) : Option (Item U × World U) :=
  match w.channels[channel]? with
  | some c =>
    match c.items with
    | item :: rest => some (item, w.modifyChannel channel fun c => { c with items := rest })
    | [] => none
  | none => none

/-- The number of items that wait in a channel. -/
def waiting (w : World U) (channel : Nat) : Nat :=
  match w.channels[channel]? with
  | some c => c.items.length
  | none => 0

/-- Whether no sender of a channel is left. -/
def abandoned (w : World U) (channel : Nat) : Bool :=
  match w.channels[channel]? with
  | some c => c.senders == 0
  | none => true

/-- Handles waiting items, at most `limit` of them, and tells the outcome of each. -/
def pumpUpTo (w : World U) (m : Mailbox U) : (limit : Nat) → World U × List Outcome
  | 0 => (w, [])
  | limit + 1 =>
    match w.next? m.channel with
    | some (item, w) =>
      let (w, outcome) := w.handle m.dispatcher item
      let (w, outcomes) := w.pumpUpTo m limit
      (w, outcome :: outcomes)
    | none => (w, [])

/-- Handles every item that waits in a mailbox and tells the outcome of each. -/
def pump (w : World U) (m : Mailbox U) : World U × List Outcome :=
  w.pumpUpTo m (w.waiting m.channel)

/-- Drives a mailbox as far as it goes without waiting: at most `limit` items, and then, when
nothing waits, the end if no sender is left. Tells whether the end was reached. -/
def runUpTo (w : World U) (m : Mailbox U) : (limit : Nat) → World U × Bool
  | 0 => if w.abandoned m.channel then (w.note .mailboxClosed, true) else (w, false)
  | limit + 1 =>
    match w.next? m.channel with
    | some (item, w) => (w.handle m.dispatcher item).1.runUpTo m limit
    | none => if w.abandoned m.channel then (w.note .mailboxClosed, true) else (w, false)

/-- Drives a mailbox as far as it goes without waiting. This is one poll outside the cooperative
budget of a runtime; inside one, a poll stops after 128 items and goes on with the next. -/
def run (w : World U) (m : Mailbox U) : World U × Bool := w.runUpTo m (w.waiting m.channel)

/-- Hands a mailbox to a task, which is ready at once. -/
def spawn (w : World U) (m : Mailbox U) : World U × Nat :=
  let id := w.tasks.length
  ({ w with tasks := w.tasks ++ [⟨m, false⟩], ready := w.ready ++ [id] }, id)

/-- Runs a task. When its mailbox ends, the task is finished and lets go of it. -/
def runTask (w : World U) (id : Nat) : World U :=
  match w.tasks[id]? with
  | some t =>
    if t.finished then w
    else
      match w.run t.mailbox with
      | (w, true) =>
        ({ w with tasks := w.tasks.modify id fun t => { t with finished := true } }).dropMailbox
          t.mailbox
      | (w, false) => w
  | none => w

/-- Runs the ready tasks in turn until none is left. Running a task makes no other one ready, so the
tasks that are ready at the start are all. -/
def settle (w : World U) : World U :=
  w.ready.foldl runTask { w with ready := [] }

/-! ### Sending -/

/-- Posts an envelope into a mailbox of this process. One that is gone drops it. -/
def sendLocal (w : World U) (interface : String) (channel : Nat) (e : Envelope U) : World U :=
  match w.post channel (.envelope e) with
  | (w, true) => w
  | (w, false) => w.note (.dropped interface e.what)

/-- What a link says when the mailbox or source behind it is gone. -/
def channelClosed : SendError := .connectionLost "Channel closed"

/-- Pushes a frame over a link, which may refuse it. -/
def sendFrame (w : World U) (link : Link) (bytes : List UInt8) : World U × Option SendError :=
  match link with
  | .severed error => (w, some error)
  | .channel id =>
    match w.post id (.frame bytes) with
    | (w, true) => (w, none)
    | (w, false) => (w, some channelClosed)

/-- Notes and counts a call that could not be delivered. -/
def report (w : World U) (s : RemoteSender) (what : UInt32) (error : SendError) :
    World U × RemoteSender :=
  let s := { s with failures := s.failures + 1 }
  (w.note (.sendFailed s.interface what s.failures error), s)

/-- Sends an envelope across. A failure is noted and counted, never returned. -/
def sendRemote (w : World U) (s : RemoteSender) (e : Envelope U) : World U × RemoteSender :=
  match e.encode with
  | .error error => w.report s e.what (.encoding error)
  | .ok bytes =>
    match w.sendFrame s.link bytes with
    | (w, none) => (w, s)
    | (w, some error) => w.report s e.what error

def callRemote (w : World U) (s : RemoteSender) (id : UInt32) (m : SlotMethod U)
    (args : Tuple U m.types) : World U × RemoteSender :=
  match m.remoteEnvelope id args with
  | .ok e => w.sendRemote s e
  | .error error => w.report s id (.marshal error)

/-! ### Sources of frames -/

/-- What a source of frames gives to the one who asks for the next frame. -/
inductive Reception where
  | frame (bytes : List UInt8)
  /-- The link is closed, and no frame will come. -/
  | closed
  | failed (error : SendError)
deriving DecidableEq, Repr

/-- How a source of frames goes on after the frames it has. -/
inductive SourceEnd where
  | closed
  /-- It waits for more. -/
  | pending
  | failed (error : SendError)
deriving DecidableEq, Repr

/-- What a source gives when its frames are used up. One that waits gives nothing. -/
def SourceEnd.receptions : SourceEnd → List Reception
  | closed => [.closed]
  | pending => []
  | failed error => [.failed error]

/-- Dispatches the frames of a source in turn, as far as it goes without waiting, until the source
closes or fails. Tells how far it came. -/
def serve (w : World U) (d : Dispatcher U) : List Reception → World U × SourceEnd
  | [] => (w, .pending)
  | .frame bytes :: rest => (w.handle d (.frame bytes)).1.serve d rest
  | .closed :: _ => (w.note .sourceClosed, .closed)
  | .failed error :: _ => (w.note (.sourceFailed error), .failed error)

end World

end Relay
