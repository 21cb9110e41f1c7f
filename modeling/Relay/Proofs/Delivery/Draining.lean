import Mathlib.Data.List.Basic
import Relay.Proofs.Delivery.Channels

/-!
# Draining

What comes of the items that wait in a mailbox.  Handling an item notes its events and hands its
call to the receiver; neither changes which receivers are there, so all items of one pump are
handled with the same liveness and a pump is a `map` over what waits (`pump_eq`).  Driving a mailbox
once is a pump that also looks whether a sender is left.
-/

namespace Relay

variable {U : Universe}

/-! ## One item -/

/-- The call is made exactly when the outcome says so. -/
theorem Surface.handle_call_isSome (s : Surface U) (live : Bool) (item : Item U) :
    (s.handle live item).call.isSome ↔ (s.handle live item).outcome = .delivered := by
  have hdispatch : ∀ e, (s.dispatch live e).call.isSome ↔
      (s.dispatch live e).outcome = .delivered := by
    intro e
    unfold dispatch
    split
    · cases s with
      | within i =>
        simp only [receive]
        split
        · unfold Method.receive
          split
          · simp [Handling.deliver]
          · split <;> simp [Handling.deliver, Handling.malformed]
        · simp [Handling.unknown]
      | across i =>
        simp only [receive]
        split
        · unfold SlotMethod.receive
          split
          · simp [Handling.deliver]
          · split <;> simp [Handling.deliver, Handling.malformed]
        · simp [Handling.unknown]
    · simp [Handling.disposed]
  cases item with
  | envelope e => exact hdispatch e
  | frame bytes =>
    simp only [handle, deliver]
    split
    · exact hdispatch _
    · simp [Handling.undecodable]

namespace World

variable {w v : World U} {c : Nat} {m : Mailbox U}

/-- The world after dispatching: what was noted is in the log, and the receiver got the calls. -/
def handled (w : World U) (receiver : Nat) (hs : List (Handling U)) : World U :=
  { w with log := w.log ++ hs.flatMap Handling.events }.modifyReceiver receiver fun r =>
    { r with calls := r.calls ++ hs.filterMap Handling.call }

theorem handled_nil (w : World U) (receiver : Nat) : w.handled receiver [] = w := by
  simp only [handled, modifyReceiver, List.flatMap_nil, List.filterMap_nil, List.append_nil]
  congr
  exact List.modify_id receiver w.receivers

theorem handled_append (w : World U) (receiver : Nat) (hs hs' : List (Handling U)) :
    (w.handled receiver hs).handled receiver hs' = w.handled receiver (hs ++ hs') := by
  simp only [handled, modifyReceiver, List.modify_modify_eq, List.flatMap_append,
    List.filterMap_append, List.append_assoc, Function.comp_def]

theorem alike_handled (receiver : Nat) (hs : List (Handling U)) :
    w.Alike (w.handled receiver hs) := ⟨rfl, rfl, rfl⟩

/-- Calls do not change which receivers are there. -/
theorem resolves_handled (receiver : Nat) (hs : List (Handling U)) (h : Hold) :
    (w.handled receiver hs).resolves h = w.resolves h := by
  simp only [resolves, isLive, handled, modifyReceiver, List.getElem?_modify]
  cases w.receivers[h.receiver]? with
  | none => rfl
  | some r => by_cases heq : receiver = h.receiver <;> simp [heq]

theorem handle_eq (w : World U) (d : Dispatcher U) (item : Item U) :
    w.handle d item =
      (w.handled d.hold.receiver [d.surface.handle (w.resolves d.hold) item],
        (d.surface.handle (w.resolves d.hold) item).outcome) := by
  unfold handle
  dsimp only
  generalize hh : d.surface.handle (w.resolves d.hold) item = h
  cases hcall : h.call with
  | some call => simp [handled, hcall]
  | none =>
    have hid := List.modify_id d.hold.receiver w.receivers
    simp only [handled, modifyReceiver, List.flatMap_cons, List.flatMap_nil, List.append_nil,
      List.filterMap_cons, hcall, List.filterMap_nil]
    congr
    exact hid.symm

theorem alike_handle (d : Dispatcher U) (item : Item U) : w.Alike (w.handle d item).1 := by
  rw [handle_eq]
  exact alike_handled _ _

theorem alike_serve (d : Dispatcher U) (rs : List Reception) : w.Alike (w.serve d rs).1 := by
  induction rs generalizing w with
  | nil => exact .refl w
  | cons r rest ih =>
    cases r with
    | frame bytes => exact (alike_handle d (.frame bytes)).trans ih
    | closed | failed error => exact alike_note _

/-! ## Everything that waits -/

def queue (w : World U) (c : Nat) : List (Item U) := (w.channels[c]?.map Channel.items).getD []

theorem queue_of_inbox? {items : List (Item U)} (h : w.inbox? c = some items) :
    w.queue c = items := by
  obtain ⟨ch, hch, -, hitems⟩ := inbox?_eq_some.1 h
  rw [queue, hch]
  exact hitems

theorem queue_congr (h : v.channels = w.channels) : v.queue = w.queue := by
  funext c
  rw [queue, queue, h]

theorem queue_modifyChannel (w : World U) (c : Nat) (f : Channel U → Channel U) (c' : Nat) :
    (w.modifyChannel c f).queue c' =
      if c = c' then (w.channels[c']?.map fun ch => (f ch).items).getD [] else w.queue c' := by
  simp only [queue, modifyChannel, List.getElem?_modify]
  by_cases h : c = c' <;> cases w.channels[c']? <;> simp [h]

theorem waiting_eq (w : World U) (c : Nat) : w.waiting c = (w.queue c).length := by
  unfold waiting queue
  cases w.channels[c]? <;> rfl

def requeue (w : World U) (c : Nat) (items : List (Item U)) : World U :=
  w.modifyChannel c fun ch => { ch with items := items }

theorem requeue_requeue (w : World U) (c : Nat) (items items' : List (Item U)) :
    (w.requeue c items).requeue c items' = w.requeue c items' := by
  simp only [requeue, modifyChannel, List.modify_modify_eq]
  congr

theorem requeue_queue (w : World U) (c : Nat) : w.requeue c (w.queue c) = w := by
  have hsame : w.channels.modify c (fun ch => { ch with items := w.queue c }) = w.channels := by
    apply List.ext_getElem?
    intro i
    rw [List.getElem?_modify]
    by_cases hi : c = i
    · subst hi
      cases hch : w.channels[c]? with
      | none => rfl
      | some ch => simp [queue, hch]
    · simp [hi]
  rw [requeue, modifyChannel, hsame]

theorem queue_requeue {item : Item U} {rest : List (Item U)} (h : w.queue c = item :: rest)
    (items : List (Item U)) : (w.requeue c items).queue c = items := by
  simp only [queue, requeue, modifyChannel, List.getElem?_modify_eq] at h ⊢
  cases hch : w.channels[c]? with
  | none => simp [hch] at h
  | some ch => rfl

theorem inbox?_requeue (w : World U) (c : Nat) (items : List (Item U)) (c' : Nat) :
    (w.requeue c items).inbox? c' =
      (w.inbox? c').map fun old => if c = c' then items else old := by
  rw [requeue, inbox?_modifyChannel, inbox?]
  cases w.channels[c']? with
  | none => rfl
  | some ch => by_cases hc : c = c' <;> by_cases hopen : ch.isOpen = true <;> simp [hc, hopen]

theorem next?_of_cons {item : Item U} {rest : List (Item U)} (h : w.queue c = item :: rest) :
    w.next? c = some (item, w.requeue c rest) := by
  unfold queue at h
  unfold next?
  cases hch : w.channels[c]? with
  | none => simp [hch] at h
  | some ch =>
    have hitems : ch.items = item :: rest := by simpa [hch] using h
    simp only [hitems]
    rfl

theorem next?_of_nil (h : w.queue c = []) : w.next? c = none := by
  unfold queue at h
  unfold next?
  cases hch : w.channels[c]? with
  | none => rfl
  | some ch =>
    have hitems : ch.items = [] := by simpa [hch] using h
    simp only [hitems]

/-- What comes of the items when the mailbox handles them now. -/
def handlings (w : World U) (m : Mailbox U) (items : List (Item U)) : List (Handling U) :=
  items.map (m.dispatcher.surface.handle (w.resolves m.dispatcher.hold))

theorem requeue_handled (w : World U) (c : Nat) (items : List (Item U)) (receiver : Nat)
    (hs : List (Handling U)) :
    (w.handled receiver hs).requeue c items = (w.requeue c items).handled receiver hs := rfl

/-- A pump handles each waiting item, in order, and leaves none. -/
theorem pump_eq (w : World U) (m : Mailbox U) :
    w.pump m =
      ((w.requeue m.channel []).handled m.dispatcher.hold.receiver
          (w.handlings m (w.queue m.channel)),
        (w.handlings m (w.queue m.channel)).map Handling.outcome) := by
  rw [pump, waiting_eq]
  generalize hitems : w.queue m.channel = items
  induction items generalizing w with
  | nil =>
    have hempty : w.requeue m.channel [] = w := by
      rw [← hitems]
      exact requeue_queue w m.channel
    simp [pumpUpTo, handlings, hempty, handled_nil]
  | cons item rest ih =>
    rw [List.length_cons, pumpUpTo, next?_of_cons hitems]
    simp only [handle_eq]
    -- The rest waits, and the receivers that are there are still the same.
    have hqueue : ∀ hs, ((w.requeue m.channel rest).handled m.dispatcher.hold.receiver
        hs).queue m.channel = rest := fun _ => queue_requeue hitems rest
    rw [ih _ (hqueue _)]
    simp only [handlings, resolves_handled, List.map_cons, requeue_handled, requeue_requeue,
      handled_append, List.singleton_append]
    rfl

/-- Driving a mailbox once is a pump; the end is reached when no sender is left. -/
theorem run_eq (w : World U) (m : Mailbox U) :
    w.run m =
      if w.abandoned m.channel then ((w.pump m).1.note .mailboxClosed, true)
      else ((w.pump m).1, false) := by
  rw [run, pump]
  generalize w.waiting m.channel = limit
  induction limit generalizing w with
  | zero => rfl
  | succ limit ih =>
    rw [runUpTo, pumpUpTo]
    cases hitems : w.queue m.channel with
    | nil => rw [next?_of_nil hitems]
    | cons item rest =>
      rw [next?_of_cons hitems]
      have hsenders : (((w.requeue m.channel rest).handle m.dispatcher item).1.abandoned
          m.channel) = w.abandoned m.channel := by
        rw [handle_eq]
        simp only [abandoned, handled, modifyReceiver, requeue, modifyChannel,
          List.getElem?_modify_eq]
        cases w.channels[m.channel]? <;> rfl
      simp only [ih, hsenders]

/-! ## What draining leaves alone -/

theorem queue_pump_eq (w : World U) (m : Mailbox U) (c : Nat) :
    (w.pump m).1.queue c = if m.channel = c then [] else w.queue c := by
  have hqueue : (w.pump m).1.queue c = (w.requeue m.channel []).queue c := by
    rw [pump_eq]
    rfl
  rw [hqueue, requeue, queue_modifyChannel]
  split
  · cases w.channels[c]? <;> rfl
  · rfl

theorem queue_run (w : World U) (m : Mailbox U) (c : Nat) :
    (w.run m).1.queue c = if m.channel = c then [] else w.queue c := by
  rw [← queue_pump_eq, run_eq]
  split
  · rfl
  · rfl

theorem inbox?_pump (w : World U) (m : Mailbox U) (c : Nat) :
    (w.pump m).1.inbox? c = (w.inbox? c).map fun items => if m.channel = c then [] else items := by
  rw [pump_eq, (alike_handled _ _).inbox?, inbox?_requeue]

theorem things_pump (w : World U) (m : Mailbox U) : (w.pump m).1.things = w.things := by
  rw [pump_eq]
  rfl

theorem tasks_pump (w : World U) (m : Mailbox U) : (w.pump m).1.tasks = w.tasks := by
  rw [pump_eq]
  rfl

theorem alike_pump_run (w : World U) (m : Mailbox U) : (w.pump m).1.Alike (w.run m).1 := by
  rw [run_eq]
  split
  · exact alike_note _
  · exact .refl _

theorem tasks_run (w : World U) (m : Mailbox U) : (w.run m).1.tasks = w.tasks :=
  (alike_pump_run w m).tasks.trans (tasks_pump w m)

theorem things_run (w : World U) (m : Mailbox U) : (w.run m).1.things = w.things :=
  (alike_pump_run w m).things.trans (things_pump w m)

theorem inbox?_run (w : World U) (m : Mailbox U) (c : Nat) :
    (w.run m).1.inbox? c = (w.inbox? c).map fun items => if m.channel = c then [] else items := by
  rw [(alike_pump_run w m).inbox?, inbox?_pump]

end World

end Relay
