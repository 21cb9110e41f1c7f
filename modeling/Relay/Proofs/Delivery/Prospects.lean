import Relay.Proofs.Delivery.Mailboxes

/-!
# What a receiver will have got

The calls that the receiver of a mailbox has got, and behind them those it will get from what waits
in the mailbox.  This list is all that matters of a mailbox to those who call through it: an item
that is posted adds its call at the end, a pump only moves calls from the second part to the first,
and whatever goes on elsewhere leaves the list alone.
-/

namespace Relay

variable {U : Universe}

/-- Neither mailbox can be told from what happens to the other. -/
structure Mailbox.Apart (m m' : Mailbox U) : Prop where
  channel : m.channel ≠ m'.channel
  receiver : m.dispatcher.hold.receiver ≠ m'.dispatcher.hold.receiver

theorem Mailbox.Apart.symm {m m' : Mailbox U} (h : m.Apart m') : m'.Apart m :=
  ⟨h.channel.symm, h.receiver.symm⟩

namespace World

variable {w : World U} {name other : String} {m m' : Mailbox U} {item : Item U} {t : Thing U}

/-- The calls that the receiver of a mailbox has got and will get from what waits. -/
def prospect (w : World U) (m : Mailbox U) : List (Call U) :=
  w.callsOf m.dispatcher.hold.receiver ++
    (w.handlings m (w.queue m.channel)).filterMap Handling.call

/-- The name stands for the mailbox, which is open, and its receiver is there. -/
structure Serves (w : World U) (name : String) (m : Mailbox U) : Prop where
  named : w.find? name = some (.mailbox m)
  isOpen : (w.inbox? m.channel).isSome
  live : w.resolves m.dispatcher.hold = true

theorem prospect_of_empty (h : w.queue m.channel = []) :
    w.prospect m = w.callsOf m.dispatcher.hold.receiver := by
  rw [prospect, h]
  exact List.append_nil _

/-! ## Names and notes -/

theorem prospect_update (w : World U) (name : String) (t : Thing U) (m : Mailbox U) :
    (w.update name t).prospect m = w.prospect m := rfl

theorem prospect_note (w : World U) (e : Event) (m : Mailbox U) :
    (w.note e).prospect m = w.prospect m := rfl

theorem Serves.update (h : w.Serves name m) (hne : name ≠ other) (t : Thing U) :
    (w.update other t).Serves name m :=
  ⟨by rw [find?_update, if_neg hne, h.named], h.isOpen, h.live⟩

theorem Serves.note (h : w.Serves name m) (e : Event) : (w.note e).Serves name m :=
  ⟨h.named, h.isOpen, h.live⟩

/-! ## Items that are posted -/

theorem resolves_post (w : World U) (c : Nat) (item : Item U) (h : Hold) :
    (w.post c item).1.resolves h = w.resolves h := by
  rw [resolves, isLive, receivers_post, resolves, isLive]

theorem callsOf_post (w : World U) (c : Nat) (item : Item U) (receiver : Nat) :
    (w.post c item).1.callsOf receiver = w.callsOf receiver := by
  rw [callsOf, receivers_post, callsOf]

theorem Serves.post (h : w.Serves name m) (c : Nat) (item : Item U) :
    (w.post c item).1.Serves name m := by
  refine ⟨?_, ?_, ?_⟩
  · rw [find?_post, h.named]
  · rw [inbox?_post, Option.isSome_map, h.isOpen]
  · rw [resolves_post, h.live]

/-- An item in the mailbox adds its call, one in another mailbox adds nothing. -/
theorem prospect_post (h : w.Serves name m) (c : Nat) (item : Item U) :
    (w.post c item).1.prospect m = w.prospect m ++
      if c = m.channel then (m.dispatcher.surface.handle true item).call.toList else [] := by
  obtain ⟨items, hitems⟩ := Option.isSome_iff_exists.1 h.isOpen
  have hqueue : (w.post c item).1.queue m.channel =
      if c = m.channel then items ++ [item] else items := by
    apply queue_of_inbox?
    rw [inbox?_post, hitems, Option.map_some]
  simp only [prospect, handlings, hqueue, queue_of_inbox? hitems, callsOf_post, resolves_post,
    h.live, List.append_assoc]
  split
  · rw [List.map_append, List.filterMap_append, List.map_singleton]
    cases hcall : (m.dispatcher.surface.handle true item).call <;> simp [hcall]
  · rw [List.append_nil]

/-! ## Pumps -/

theorem queue_pump (w : World U) (m : Mailbox U) : (w.pump m).1.queue m.channel = [] := by
  rw [queue_pump_eq, if_pos rfl]

theorem resolves_pump (w : World U) (m : Mailbox U) (h : Hold) :
    (w.pump m).1.resolves h = w.resolves h := by
  rw [pump_eq, resolves_handled]
  rfl

theorem Serves.pump (h : w.Serves name m) (m' : Mailbox U) : (w.pump m').1.Serves name m := by
  refine ⟨?_, ?_, ?_⟩
  · rw [World.find?, things_pump]
    exact h.named
  · rw [inbox?_pump, Option.isSome_map, h.isOpen]
  · rw [resolves_pump, h.live]

/-- A pump makes the calls that were due, and none is due after it. -/
theorem prospect_pump (w : World U) (m : Mailbox U) : (w.pump m).1.prospect m = w.prospect m := by
  rw [prospect_of_empty (queue_pump w m), callsOf_pump, prospect]

theorem callsOf_pump_apart (w : World U) (h : m.Apart m') :
    (w.pump m').1.callsOf m.dispatcher.hold.receiver =
      w.callsOf m.dispatcher.hold.receiver := by
  rw [pump_eq]
  simp only [callsOf, handled, modifyReceiver, List.getElem?_modify_ne _ _ h.receiver.symm]
  rfl

theorem prospect_pump_apart (w : World U) (h : m.Apart m') :
    (w.pump m').1.prospect m = w.prospect m := by
  have hqueue : (w.pump m').1.queue m.channel = w.queue m.channel := by
    rw [queue_pump_eq, if_neg h.channel.symm]
  simp only [prospect, handlings, hqueue, callsOf_pump_apart w h, resolves_pump]

end World

end Relay
