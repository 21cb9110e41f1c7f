import Relay.Proofs.Delivery.Draining

/-!
# Requests

What one request does to a world, as a case distinction (`World.Move`): it leaves names, tasks and
queues alone, gives a name to something new, opens a mailbox, lets go of a thing, posts an item,
drives a mailbox or hands it to a task.  Each case says where what it passes on has come from: a
hold from a name (`World.Grasps`), a new thing from an operation of the world (`World.Makes`), a new
way into a channel from the mailbox behind it (`Thing.Enters`).  So what every request preserves is
proved by these cases (`move_of_answer`), and only this module looks at the answers to all requests.

Four questions about a request recur: which names it takes for itself, through which name it sends,
which mailbox it pumps, and which items it brings along.
-/

namespace Relay

variable {U : Universe}

namespace Request

/-- The names that a request binds, drops or uses up. -/
def takes : Request U → List String
  | receiver name => [name]
  | drop name => [name]
  | hold name _ _ => [name]
  | attach _ _ proxy mailbox => [proxy, mailbox]
  | host _ _ proxy mailbox => [proxy, mailbox]
  | attachSpawned _ _ proxy => [proxy]
  | connect _ proxy _ => [proxy]
  | severed name _ => [name]
  | clone _ name => [name]
  | run mailbox => [mailbox]
  | spawn mailbox task => [mailbox, task]
  | localMailbox _ _ name mailbox => [name, mailbox]
  | remoteMailbox _ _ name mailbox => [name, mailbox]
  | sender name _ => [name]
  | _ => []

/-- The name of the proxy, sender or link that a request sends through. -/
def through? : Request U → Option String
  | call proxy _ _ => some proxy
  | frame target _ => some target
  | send name _ => some name
  | report name _ _ => some name
  | _ => none

def pumps? : Request U → Option String
  | pump mailbox => some mailbox
  | _ => none

/-- The items that a request brings along to be dispatched at once. -/
def brings : Request U → List (Item U)
  | dispatch _ _ e => [.envelope e]
  | deliver _ _ bytes => [.frame bytes]
  | serve _ _ frames _ => frames.map .frame
  | _ => []

/-- The request takes these names, and neither sends nor pumps. -/
structure Binds (r : Request U) (names : List String) : Prop where
  takes : r.takes = names
  through? : r.through? = none
  pumps? : r.pumps? = none

/-- The request sends through a name, and neither takes a name nor pumps. -/
structure SendsBy (r : Request U) (name : String) : Prop where
  takes : r.takes = []
  through? : r.through? = some name
  pumps? : r.pumps? = none

end Request

/-! ## Sending -/

/-- What is asked of a sender of frames: the id of the method, and the bytes or why there are
none. -/
structure Attempt where
  what : UInt32
  bytes : Except SendError (List UInt8)

def Envelope.attempt (e : Envelope U) : Attempt := ⟨e.what, e.encode.mapError .encoding⟩

def SlotMethod.attempt (m : SlotMethod U) (id : UInt32) (args : Tuple U m.types) : Attempt :=
  match m.remoteEnvelope id args with
  | .ok e => e.attempt
  | .error error => ⟨id, .error (.marshal error)⟩

def Link.channel? : Link → Option Nat
  | channel id => some id
  | severed _ => none

def Attempt.offer? (a : Attempt) (link : Link) : Option (Nat × Item U) :=
  link.channel?.bind fun c => a.bytes.toOption.map fun bytes => (c, .frame bytes)

theorem Method.what_localEnvelope (m : Method U) (id : UInt32) (args : Tuple U m.types) :
    (m.localEnvelope id args).what = id := by
  unfold localEnvelope
  split <;> rfl

namespace Thing

def sender? : Thing U → Option RemoteSender
  | messenger _ s => some s
  | remoteSender s => some s
  | _ => none

def withSender (s : RemoteSender) : Thing U → Thing U
  | messenger i _ => messenger i s
  | remoteSender _ => remoteSender s
  | t => t

/-- What a request asks of the sender of frames in a thing. -/
def attempt? : Thing U → Request U → Option Attempt
  | messenger i _, .call _ method args => do
    let (id, m) ← numberOf? (fun m => m.name == method) 1 i.methods
    if h : args.types = m.types then some (m.attempt id (h ▸ args.values)) else none
  | remoteSender _, .send _ e => some e.attempt
  | messenger _ _, .report _ what error => some ⟨what, .error error⟩
  | remoteSender _, .report _ what error => some ⟨what, .error error⟩
  | _, _ => none

/-- What a request makes a thing post, and into which channel. -/
def offer? (t : Thing U) (r : Request U) : Option (Nat × Item U) :=
  match t, r with
  | handler i c, .call _ method args => do
    let (id, m) ← numberOf? (fun m => m.name == method) 1 i.methods
    if h : args.types = m.types then some (c, .envelope (m.localEnvelope id (h ▸ args.values)))
    else none
  | localSender _ c, .send _ e => some (c, .envelope e)
  | t, .frame _ bytes => do
    let link ← World.linkOf? t
    let c ← link.channel?
    some (c, .frame bytes)
  | t, r => t.sender?.bind fun s => (t.attempt? r).bind fun a => a.offer? s.link

/-- A new way into a channel. -/
inductive Enters (c : Nat) : Thing U → Prop
  | handler (i : Interface U) : Enters c (.handler i c)
  | messenger (i : SlotInterface U) : Enters c (.messenger i ⟨i.name, .channel c, 0⟩)
  | localSender (interface : String) : Enters c (.localSender interface c)
  | link : Enters c (.link (.channel c))

theorem Enters.drained? {c : Nat} {t : Thing U} (h : t.Enters c) : t.drained? = none := by
  cases h <;> rfl

theorem Enters.fresh {c : Nat} {t : Thing U} {s : RemoteSender} (h : t.Enters c)
    (hs : t.sender? = some s) : s.failures = 0 := by
  cases h with
  | messenger i =>
    obtain rfl := Option.some.inj hs
    rfl
  | _ => cases hs

end Thing

namespace World

variable {w v : World U} {s s' : RemoteSender} {name : String} {c : Nat}

theorem drained?_of_sender? {t : Thing U} (h : t.sender? = some s) : t.drained? = none := by
  cases t <;> first | rfl | cases h

theorem sender?_withSender {t : Thing U} (hs : t.sender? = some s) (s' : RemoteSender) :
    (t.withSender s').sender? = some s' := by
  cases t <;> first | rfl | cases hs

/-- Why an attempt fails on a link, if it does. -/
def refusal? (w : World U) (link : Link) (a : Attempt) : Option SendError :=
  match a.bytes, link with
  | .error error, _ => some error
  | .ok _, .severed error => some error
  | .ok _, .channel c => if (w.inbox? c).isSome then none else some channelClosed

/-- A sender of frames posts the frame of an attempt, or counts and notes that it failed. -/
inductive Carried (w : World U) (s : RemoteSender) (a : Attempt) : World U → RemoteSender → Prop
  | posted {c : Nat} {bytes : List UInt8} (hlink : s.link = .channel c)
    (hbytes : a.bytes = .ok bytes) (hopen : (w.inbox? c).isSome) :
    Carried w s a (w.post c (.frame bytes)).1 s
  | failed {error : SendError} (h : w.refusal? s.link a = some error) :
    Carried w s a (w.note (.sendFailed s.interface a.what (s.failures + 1) error))
      { s with failures := s.failures + 1 }

theorem carried_report (w : World U) (s : RemoteSender) (what : UInt32) (error : SendError) :
    w.Carried s ⟨what, .error error⟩ (w.report s what error).1 (w.report s what error).2 :=
  .failed (a := ⟨what, .error error⟩) rfl

theorem carried_sendRemote (w : World U) (s : RemoteSender) (e : Envelope U) :
    w.Carried s e.attempt (w.sendRemote s e).1 (w.sendRemote s e).2 := by
  unfold sendRemote
  cases hencode : e.encode with
  | error error =>
    have hrefusal : w.refusal? s.link e.attempt = some (.encoding error) := by
      simp [refusal?, Envelope.attempt, hencode, Except.mapError]
    exact .failed hrefusal
  | ok bytes =>
    have hbytes : e.attempt.bytes = .ok bytes := by
      simp [Envelope.attempt, hencode, Except.mapError]
    cases hlink : s.link with
    | severed error =>
      have hrefusal : w.refusal? s.link e.attempt = some error := by
        simp [refusal?, hbytes, hlink]
      exact .failed hrefusal
    | channel c =>
      simp only [sendFrame]
      cases hinbox : w.inbox? c with
      | none =>
        rw [post_of_none _ hinbox]
        have hrefusal : w.refusal? s.link e.attempt = some channelClosed := by
          simp [refusal?, hbytes, hlink, hinbox]
        exact .failed hrefusal
      | some items =>
        have hopen : (w.inbox? c).isSome := by rw [hinbox, Option.isSome_some]
        have hcarried := Carried.posted hlink hbytes hopen
        rw [post_of_some _ hinbox] at hcarried ⊢
        exact hcarried

theorem carried_callRemote (w : World U) (s : RemoteSender) (id : UInt32) (m : SlotMethod U)
    (args : Tuple U m.types) :
    w.Carried s (m.attempt id args) (w.callRemote s id m args).1 (w.callRemote s id m args).2 := by
  unfold callRemote SlotMethod.attempt
  cases m.remoteEnvelope id args with
  | ok e => exact carried_sendRemote w s e
  | error error => exact carried_report w s id (.marshal error)

theorem find?_carried {attempt : Attempt} (h : w.Carried s attempt v s') (name : String) :
    v.find? name = w.find? name := by
  cases h with
  | posted hlink hbytes hopen => exact find?_post w _ _ name
  | failed hrefusal => rfl

/-- A message of this process is posted; one that finds no mailbox leaves a note. -/
theorem alike_sendLocal (w : World U) (interface : String) (c : Nat) (e : Envelope U) :
    (w.post c (.envelope e)).1.Alike (w.sendLocal interface c e) := by
  unfold sendLocal
  cases hinbox : w.inbox? c with
  | none =>
    rw [post_of_none _ hinbox]
    exact alike_note _
  | some items =>
    rw [post_of_some _ hinbox]
    exact .refl _

theorem sendFrame_channel (w : World U) (c : Nat) (bytes : List UInt8) :
    (w.sendFrame (.channel c) bytes).1 = (w.post c (.frame bytes)).1 := by
  unfold sendFrame
  cases hinbox : w.inbox? c with
  | none => simp only [post_of_none _ hinbox]
  | some items => simp only [post_of_some _ hinbox]

/-! ## What a request passes on -/

/-- A hold that a request can come by: on the receiver of a reference, or one that has a name. -/
inductive Grasps (w : World U) : Hold → Prop
  | reference {name : String} {id : Nat} (h : w.receiver? name = some id) (owned : Bool) :
    Grasps w ⟨id, owned⟩
  | hold {name : String} {h : Hold} (hh : w.hold? name = some h) : Grasps w h

/-- A thing that a request makes to give it a name, and the world that counts it. -/
inductive Makes (w : World U) : Thing U → World U → Prop
  | receiver : Makes w (.receiver w.addReceiver.2) w.addReceiver.1
  | hold {h : Hold} (hh : w.Grasps h) : Makes w (.hold h) (w.acquire h)
  | severed (error : SendError) : Makes w (.link (.severed error)) w
  /-- A new sender on the link of another thing. -/
  | sharing {target interface : String} {t new : Thing U} {link : Link}
    (ht : w.find? target = some t) (hlink : linkOf? t = some link)
    (hnew : new.sender? = some ⟨interface, link, 0⟩) : Makes w new (w.addLink link)
  | double {source : String} {t : Thing U} {v : World U} (ht : w.find? source = some t)
    (hv : w.double? t = some v) : Makes w t v

/-- What a request does that leaves names, tasks and queues alone: it looks, or it dispatches the
items that it brings along. -/
inductive Handles (w : World U) (r : Request U) : World U → Prop
  | looked : Handles w r w
  | item {d : Dispatcher U} {item : Item U} (hr : r.brings = [item]) :
    Handles w r (w.handle d item).1
  | frames {d : Dispatcher U} {frames : List (List UInt8)} {ending : SourceEnd}
    (hr : r.brings = frames.map .frame) :
    Handles w r (w.serve d (frames.map .frame ++ ending.receptions)).1

/-- An item is posted. A message of this process that finds no mailbox leaves a note. -/
inductive Posts (w : World U) (c : Nat) : Item U → World U → Prop
  | frame (bytes : List UInt8) : Posts w c (.frame bytes) (w.post c (.frame bytes)).1
  | message (interface : String) (e : Envelope U) :
    Posts w c (.envelope e) (w.sendLocal interface c e)

theorem drained?_of_double? {t : Thing U} (h : w.double? t = some v) :
    t.drained? = none ∧ t.sender? = none := by
  cases t <;> first | exact ⟨rfl, rfl⟩ | cases h

section Made

variable {t : Thing U} (h : w.Makes t v)

include h

theorem Makes.alike : w.Alike v := by
  cases h with
  | receiver => exact ⟨rfl, rfl, rfl⟩
  | hold hh => exact alike_acquire _
  | severed error => exact .refl w
  | sharing ht hlink hnew => exact alike_addLink _
  | double ht hv => exact alike_double? hv

theorem Makes.drained? : t.drained? = none := by
  cases h with
  | sharing ht hlink hnew => exact drained?_of_sender? hnew
  | double ht hv => exact (drained?_of_double? hv).1
  | _ => rfl

/-- A new sender has not failed yet. -/
theorem Makes.fresh (hs : t.sender? = some s) : s.failures = 0 := by
  cases h with
  | sharing ht hlink hnew =>
    obtain rfl := Option.some.inj (hnew.symm.trans hs)
    rfl
  | double ht hv =>
    rw [(drained?_of_double? hv).2] at hs
    cases hs
  | _ => cases hs

end Made

theorem Handles.alike {r : Request U} (h : w.Handles r v) : w.Alike v := by
  cases h with
  | looked => exact .refl w
  | item hr => exact alike_handle _ _
  | frames hr => exact alike_serve _ _

theorem Posts.alike {item : Item U} (h : w.Posts c item v) : (w.post c item).1.Alike v := by
  cases h with
  | frame bytes => exact .refl _
  | message interface e => exact alike_sendLocal w interface c e

/-! ## The cases of a request -/

/-- What a request does to a world. -/
inductive Move (w : World U) : Request U → World U → Answer U → Prop
  | still {r : Request U} {v : World U} {a : Answer U} (hr : r.Binds []) (hv : w.Handles r v) :
    Move w r v a
  | bound {r : Request U} {v : World U} {name : String} {t : Thing U} {a : Answer U}
    (hr : r.Binds [name]) (hv : w.Makes t v) : Move w r (v.bind name t) a
  | opened {r : Request U} {name mailbox : String} {t : Thing U} {surface : Surface U} {h : Hold}
    {a : Answer U} (hr : r.Binds [name, mailbox]) (hh : w.Grasps h)
    (ht : t.Enters (w.openMailbox surface h).2.channel) :
    Move w r (((w.openMailbox surface h).1.bind name t).bind mailbox
      (.mailbox (w.openMailbox surface h).2)) a
  | openedTask {r : Request U} {name : String} {t : Thing U} {surface : Surface U} {h : Hold}
    {a : Answer U} (hr : r.Binds [name]) (hh : w.Grasps h)
    (ht : t.Enters (w.openMailbox surface h).2.channel) :
    Move w r (((w.openMailbox surface h).1.spawn (w.openMailbox surface h).2).1.bind name t) a
  | dropped {name : String} : Move w (.drop name) (w.drop name).1 (.flag (w.drop name).2)
  | posted {r : Request U} {name : String} {t : Thing U} {c : Nat} {item : Item U} {v : World U}
    {a : Answer U} (hr : r.SendsBy name) (ht : w.find? name = some t)
    (hoffer : t.offer? r = some (c, item)) (hattempt : t.attempt? r = none)
    (hv : w.Posts c item v) : Move w r v a
  | severed {r : Request U} {name : String} {t : Thing U} {a : Answer U} (hr : r.SendsBy name)
    (ht : w.find? name = some t) (hoffer : t.offer? r = none) (hattempt : t.attempt? r = none) :
    Move w r w a
  | carried {r : Request U} {name : String} {t : Thing U} {s s' : RemoteSender} {attempt : Attempt}
    {v : World U} (hr : r.SendsBy name) (ht : w.find? name = some t) (hs : t.sender? = some s)
    (hattempt : t.attempt? r = some attempt) (hv : w.Carried s attempt v s') :
    Move w r (v.update name (t.withSender s')) .done
  | pumped {name : String} {m : Mailbox U} (hm : w.mailbox? name = some m) :
    Move w (.pump name) (w.pump m).1 (.outcomes (w.pump m).2)
  | ran {name : String} {m : Mailbox U} (hm : w.mailbox? name = some m) :
    Move w (.run name) (((w.forget name).run m).1.dropMailbox m)
      (.flag ((w.forget name).run m).2)
  | spawned {name task : String} {m : Mailbox U} {id : Nat} (hm : w.mailbox? name = some m) :
    Move w (.spawn name task) (((w.forget name).spawn m).1.bind task (.task id)) .done
  | settled : Move w .settle w.settle .done

theorem mailbox?_eq_some {m : Mailbox U} :
    w.mailbox? name = some m ↔ w.find? name = some (.mailbox m) := by
  unfold mailbox?
  split <;> simp_all

theorem move_of_callThrough {proxy method : String} {args : LiveArgs U}
    (h : w.callThrough proxy method args = some v) : w.Move (.call proxy method args) v .done := by
  simp only [callThrough, Option.bind_eq_bind, Option.bind_eq_some_iff] at h
  obtain ⟨t, ht, h⟩ := h
  cases t with
  | handler i c =>
    simp only [Option.bind_eq_some_iff] at h
    obtain ⟨⟨id, m⟩, hm, h⟩ := h
    simp only at h
    split at h
    · next htypes =>
      obtain rfl := Option.some.inj h
      refine .posted (c := c) ⟨rfl, rfl, rfl⟩ ht ?_ rfl (.message _ _)
      simp [Thing.offer?, hm, htypes]
    · cases h
  | messenger i s =>
    simp only [Option.bind_eq_some_iff] at h
    obtain ⟨⟨id, m⟩, hm, h⟩ := h
    simp only at h
    split at h
    · next htypes =>
      obtain rfl := Option.some.inj h
      refine .carried ⟨rfl, rfl, rfl⟩ ht rfl ?_ (carried_callRemote _ _ _ _ _)
      simp [Thing.attempt?, hm, htypes]
    · cases h
  | _ => cases h

theorem move_of_answer {r : Request U} {a : Answer U} (h : w.answer r = some (v, a)) :
    w.Move r v a := by
  -- An answer tells what each lookup of the request has found, and so which of the cases it is.
  cases r <;> simp only [answer, Option.bind_eq_bind, Option.bind_eq_some_iff] at h
  case receiver name =>
    cases h
    exact .bound ⟨rfl, rfl, rfl⟩ .receiver
  case calls | showLink =>
    obtain ⟨found, -, rest, -, h⟩ := h
    cases h
    exact .still ⟨rfl, rfl, rfl⟩ .looked
  case drop name =>
    cases h
    exact .dropped
  case hold name receiver owned =>
    obtain ⟨id, hid, h⟩ := h
    cases h
    exact .bound ⟨rfl, rfl, rfl⟩ (.hold (.reference hid owned))
  case resolve name =>
    obtain ⟨id, -, h⟩ := h
    cases h
    exact .still ⟨rfl, rfl, rfl⟩ .looked
  case attach i receiver proxy mailbox =>
    obtain ⟨id, hid, h⟩ := h
    cases h
    exact .opened ⟨rfl, rfl, rfl⟩ (.reference hid false) (.handler i)
  case host i receiver proxy mailbox =>
    obtain ⟨id, hid, h⟩ := h
    cases h
    exact .opened ⟨rfl, rfl, rfl⟩ (.reference hid true) (.messenger i)
  case attachSpawned i receiver proxy =>
    obtain ⟨id, hid, h⟩ := h
    cases h
    exact .openedTask ⟨rfl, rfl, rfl⟩ (.reference hid false) (.handler i)
  case localMailbox surface hold name mailbox =>
    obtain ⟨hd, hhold, h⟩ := h
    cases h
    exact .opened ⟨rfl, rfl, rfl⟩ (.hold hhold) (.localSender bareInterface)
  case remoteMailbox surface hold name mailbox =>
    obtain ⟨hd, hhold, h⟩ := h
    cases h
    exact .opened ⟨rfl, rfl, rfl⟩ (.hold hhold) .link
  case connect | sender =>
    obtain ⟨t, ht, link, hlink, h⟩ := h
    cases h
    exact .bound ⟨rfl, rfl, rfl⟩ (.sharing ht hlink rfl)
  case severed name error =>
    cases h
    exact .bound ⟨rfl, rfl, rfl⟩ (.severed error)
  case clone source name =>
    obtain ⟨t, ht, u, hdouble, h⟩ := h
    cases h
    exact .bound ⟨rfl, rfl, rfl⟩ (.double ht hdouble)
  case call proxy method args =>
    obtain ⟨u, hcall, h⟩ := h
    cases h
    exact move_of_callThrough hcall
  case failed name =>
    obtain ⟨t, -, h⟩ := h
    cases t <;> cases h <;> exact .still ⟨rfl, rfl, rfl⟩ .looked
  case frame target bytes =>
    obtain ⟨t, ht, link, hlink, h⟩ := h
    cases h
    have hattempt : t.attempt? (.frame target bytes) = none := by cases t <;> rfl
    cases link with
    | severed error =>
      refine .severed ⟨rfl, rfl, rfl⟩ ht ?_ hattempt
      simp [Thing.offer?, hlink, Link.channel?]
    | channel c =>
      rw [sendFrame_channel]
      have hoffer : t.offer? (.frame target bytes) = some (c, .frame bytes) := by
        simp [Thing.offer?, hlink, Link.channel?]
      exact .posted ⟨rfl, rfl, rfl⟩ ht hoffer hattempt (.frame bytes)
  case pump name =>
    obtain ⟨m, hm, h⟩ := h
    cases h
    exact .pumped hm
  case run name =>
    obtain ⟨m, hm, h⟩ := h
    cases h
    exact .ran hm
  case spawn name task =>
    obtain ⟨m, hm, h⟩ := h
    cases h
    exact .spawned hm
  case settle =>
    cases h
    exact .settled
  case finished name =>
    obtain ⟨t, -, h⟩ := h
    cases t with
    | task id =>
      obtain ⟨task, -, h⟩ := Option.bind_eq_some_iff.1 h
      cases h
      exact .still ⟨rfl, rfl, rfl⟩ .looked
    | _ => cases h
  case send name e =>
    obtain ⟨t, ht, h⟩ := h
    cases t with
    | localSender i c =>
      cases h
      exact .posted ⟨rfl, rfl, rfl⟩ ht rfl rfl (.message i e)
    | remoteSender s =>
      cases h
      exact .carried ⟨rfl, rfl, rfl⟩ ht rfl rfl (carried_sendRemote _ _ _)
    | _ => cases h
  case closed name =>
    obtain ⟨t, -, h⟩ := h
    cases t with
    | localSender i c =>
      obtain ⟨ch, -, h⟩ := Option.bind_eq_some_iff.1 h
      cases h
      exact .still ⟨rfl, rfl, rfl⟩ .looked
    | _ => cases h
  case report name what error =>
    obtain ⟨t, ht, h⟩ := h
    cases t with
    | messenger i s =>
      cases h
      exact .carried ⟨rfl, rfl, rfl⟩ ht rfl rfl (carried_report _ _ _ _)
    | remoteSender s =>
      cases h
      exact .carried ⟨rfl, rfl, rfl⟩ ht rfl rfl (carried_report _ _ _ _)
    | _ => cases h
  case dispatch | deliver =>
    obtain ⟨hd, -, h⟩ := h
    cases h
    exact .still ⟨rfl, rfl, rfl⟩ (.item rfl)
  case serve surface hold frames ending =>
    obtain ⟨hd, -, h⟩ := h
    cases h
    exact .still ⟨rfl, rfl, rfl⟩ (.frames rfl)

end World

end Relay
