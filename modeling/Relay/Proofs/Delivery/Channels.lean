import Relay.Delivery.Session

/-!
# Names and channels

What the operations on a world do to its names, its tasks and the queues of its mailboxes.  Most of
them leave all three as they were (`World.Alike`): they count parties, note events or hand calls to
receivers.  The others change one name or one queue, and what they do to every other is said by an
equation with an `if`.
-/

namespace Relay

variable {U : Universe}

/-! ## Drained channels -/

def Thing.drained? : Thing U → Option Nat
  | .mailbox m => some m.channel
  | _ => none

/-- The channel that a task drains as long as it is not finished. -/
def Task.drained? (t : Task U) : Option Nat := if t.finished then none else some t.mailbox.channel

namespace World

variable {w v : World U} {c : Nat} {name : String} {t : Thing U}

/-- What waits in a channel whose mailbox is there. -/
def inbox? (w : World U) (c : Nat) : Option (List (Item U)) :=
  w.channels[c]?.bind fun ch => if ch.isOpen then some ch.items else none

theorem inbox?_congr (h : v.channels = w.channels) : v.inbox? = w.inbox? := by
  funext c
  rw [inbox?, inbox?, h]

theorem inbox?_modifyChannel (w : World U) (c : Nat) (f : Channel U → Channel U) (c' : Nat) :
    (w.modifyChannel c f).inbox? c' =
      w.channels[c']?.bind fun ch =>
        if (if c = c' then f ch else ch).isOpen then some (if c = c' then f ch else ch).items
        else none := by
  simp only [inbox?, modifyChannel, List.getElem?_modify]
  cases w.channels[c']? with
  | none => rfl
  | some ch => by_cases h : c = c' <;> simp [h]

/-- The names stand for the same things, the tasks are the same, and the same items wait. -/
structure Alike (w v : World U) : Prop where
  things : v.things = w.things
  tasks : v.tasks = w.tasks
  inbox? : v.inbox? = w.inbox?

theorem Alike.refl (w : World U) : w.Alike w := ⟨rfl, rfl, rfl⟩

theorem Alike.trans {u : World U} (h : w.Alike v) (h' : v.Alike u) : w.Alike u :=
  ⟨h'.things.trans h.things, h'.tasks.trans h.tasks, h'.inbox?.trans h.inbox?⟩

theorem Alike.find? (h : w.Alike v) : v.find? name = w.find? name := by
  rw [World.find?, World.find?, h.things]

theorem alike_note (e : Event) : w.Alike (w.note e) := ⟨rfl, rfl, rfl⟩

theorem alike_modifyReceiver (id : Nat) (f : Receiver U → Receiver U) :
    w.Alike (w.modifyReceiver id f) := ⟨rfl, rfl, rfl⟩

theorem alike_acquire (h : Hold) : w.Alike (w.acquire h) := by
  unfold acquire
  split
  · exact alike_modifyReceiver _ _
  · exact .refl w

theorem alike_release (h : Hold) : w.Alike (w.release h) := by
  unfold release
  split
  · exact alike_modifyReceiver _ _
  · exact .refl w

theorem alike_wake (c : Nat) : w.Alike (w.wake c) := by
  unfold wake
  split
  · split <;> exact ⟨rfl, rfl, rfl⟩
  · exact .refl w

@[simp] theorem wake_channels (w : World U) (c : Nat) : (w.wake c).channels = w.channels := by
  unfold wake
  split
  · split <;> rfl
  · rfl

theorem wake_log (w : World U) (c : Nat) : (w.wake c).log = w.log := by
  unfold wake
  split
  · split <;> rfl
  · rfl

theorem wake_receivers (w : World U) (c : Nat) : (w.wake c).receivers = w.receivers := by
  unfold wake
  split
  · split <;> rfl
  · rfl

/-- A change of the number of senders cannot be seen from the queue. -/
theorem alike_modifyChannel {f : Channel U → Channel U} (hitems : ∀ ch, (f ch).items = ch.items)
    (hopen : ∀ ch, (f ch).isOpen = ch.isOpen) (c : Nat) : w.Alike (w.modifyChannel c f) := by
  refine ⟨rfl, rfl, ?_⟩
  funext c'
  rw [inbox?_modifyChannel, World.inbox?]
  congr
  funext ch
  split <;> simp only [hitems, hopen]

theorem alike_addSender (c : Nat) : w.Alike (w.addSender c) := by
  unfold addSender
  exact alike_modifyChannel (by intro; rfl) (by intro; rfl) c

theorem alike_dropSender (c : Nat) : w.Alike (w.dropSender c) := by
  have hcount : w.Alike (w.modifyChannel c fun ch => { ch with senders := ch.senders - 1 }) :=
    alike_modifyChannel (by intro; rfl) (by intro; rfl) c
  unfold dropSender
  dsimp only
  split
  · split
    · exact hcount.trans (alike_wake c)
    · exact hcount
  · exact hcount

theorem alike_addLink (l : Link) : w.Alike (w.addLink l) := by
  cases l with
  | channel c => exact alike_addSender c
  | severed error => exact .refl w

theorem alike_dropLink (l : Link) : w.Alike (w.dropLink l) := by
  cases l with
  | channel c => exact alike_dropSender c
  | severed error => exact .refl w

theorem alike_double? (h : w.double? t = some v) : w.Alike v := by
  cases t with
  | hold hold =>
    obtain rfl := Option.some.inj h
    exact alike_acquire hold
  | handler i c | localSender i c =>
    obtain rfl := Option.some.inj h
    exact alike_addSender c
  | link l =>
    obtain rfl := Option.some.inj h
    exact alike_addLink l
  | _ => cases h

/-! ## Letting go -/

theorem inbox?_dropMailbox (w : World U) (m : Mailbox U) :
    (w.dropMailbox m).inbox? c = if m.channel = c then none else w.inbox? c := by
  rw [dropMailbox, (alike_release _).inbox?, inbox?_modifyChannel, inbox?]
  split
  · cases w.channels[c]? <;> rfl
  · rfl

/-- Letting go of a thing that drains no channel cannot be seen from any queue. -/
theorem alike_dropThing (h : t.drained? = none) : w.Alike (w.dropThing t) := by
  cases t with
  | receiver id => exact alike_release _
  | hold hold => exact alike_release hold
  | handler i c | localSender i c => exact alike_dropSender c
  | messenger i sender => exact alike_dropLink sender.link
  | remoteSender sender => exact alike_dropLink sender.link
  | link l => exact alike_dropLink l
  | mailbox m => cases h
  | task id => exact .refl w

theorem dropThing_names (w : World U) (t : Thing U) :
    (w.dropThing t).things = w.things ∧ (w.dropThing t).tasks = w.tasks := by
  cases hdrained : t.drained? with
  | none =>
    have halike := alike_dropThing (w := w) hdrained
    exact ⟨halike.things, halike.tasks⟩
  | some c =>
    cases t with
    | mailbox m => exact ⟨(alike_release _).things, (alike_release _).tasks⟩
    | _ => cases hdrained

theorem log_dropSender (w : World U) (c : Nat) : (w.dropSender c).log = w.log := by
  unfold dropSender
  dsimp only
  split
  · split
    · exact wake_log _ c
    · rfl
  · rfl

theorem log_dropLink (w : World U) (l : Link) : (w.dropLink l).log = w.log := by
  cases l with
  | channel c => exact log_dropSender w c
  | severed error => rfl

theorem log_release (w : World U) (h : Hold) : (w.release h).log = w.log := by
  unfold release
  split <;> rfl

/-- Letting go of a thing leaves no note. -/
theorem log_dropThing (w : World U) (t : Thing U) : (w.dropThing t).log = w.log := by
  cases t with
  | receiver id => exact log_release w _
  | hold h => exact log_release w h
  | handler i c | localSender i c => exact log_dropSender w c
  | messenger i s => exact log_dropLink w s.link
  | remoteSender s => exact log_dropLink w s.link
  | link l => exact log_dropLink w l
  | mailbox m => exact log_release _ _
  | task id => rfl

theorem inbox?_dropThing (w : World U) (t : Thing U) :
    (w.dropThing t).inbox? c = if t.drained? = some c then none else w.inbox? c := by
  cases hdrained : t.drained? with
  | none =>
    rw [(alike_dropThing hdrained).inbox?]
    simp
  | some c' =>
    cases t with
    | mailbox m =>
      obtain rfl := Option.some.inj hdrained
      simp only [dropThing, inbox?_dropMailbox, Option.some.injEq]
    | _ => cases hdrained

/-! ## Names -/

theorem lookup_filter_ne {α : Type} {xs : List (String × α)} {other : String}
    (h : other ≠ name) : (xs.filter fun e => e.1 != name).lookup other = xs.lookup other := by
  induction xs with
  | nil => rfl
  | cons e rest ih =>
    obtain ⟨key, value⟩ := e
    by_cases hkey : key = name
    · subst hkey
      rw [List.filter_cons_of_neg (by simp), ih, List.lookup_cons, beq_false_of_ne h]
    · rw [List.filter_cons_of_pos (by simpa using hkey), List.lookup_cons, List.lookup_cons, ih]

theorem lookup_filter_self {α : Type} (xs : List (String × α)) (name : String) :
    (xs.filter fun e => e.1 != name).lookup name = none := by
  rw [List.lookup_eq_none_iff]
  intro e he
  rw [bne_comm]
  exact (List.mem_filter.1 he).2

theorem find?_forget (w : World U) (name other : String) :
    (w.forget name).find? other = if other = name then none else w.find? other := by
  split
  · next h => exact h ▸ lookup_filter_self w.things other
  · next h => exact lookup_filter_ne h

theorem find?_update (w : World U) (name : String) (t : Thing U) (other : String) :
    (w.update name t).find? other = if other = name then some t else w.find? other := by
  have hcons : (w.update name t).find? other =
      if other = name then some t else (w.forget name).find? other := by
    simp only [find?, update, forget, List.lookup_cons]
    by_cases h : other = name
    · simp [h]
    · simp [h, beq_false_of_ne h]
  rw [hcons, find?_forget]
  split <;> rfl

theorem things_bind (w : World U) (name : String) (t : Thing U) :
    (w.bind name t).things = (w.update name t).things := by
  unfold bind
  dsimp only
  split
  · exact (dropThing_names _ _).1
  · rfl

theorem tasks_bind (w : World U) (name : String) (t : Thing U) :
    (w.bind name t).tasks = w.tasks := by
  unfold bind
  dsimp only
  split
  · exact (dropThing_names _ _).2
  · rfl

theorem log_bind (w : World U) (name : String) (t : Thing U) : (w.bind name t).log = w.log := by
  unfold bind
  dsimp only
  split
  · exact log_dropThing _ _
  · rfl

theorem inbox?_bind (w : World U) (name : String) (t : Thing U) :
    (w.bind name t).inbox? c =
      if (w.find? name).bind Thing.drained? = some c then none else w.inbox? c := by
  unfold bind
  dsimp only
  cases w.find? name with
  | none => rfl
  | some old => exact inbox?_dropThing _ old

theorem find?_bind (w : World U) (name : String) (t : Thing U) (other : String) :
    (w.bind name t).find? other = if other = name then some t else w.find? other := by
  rw [← find?_update, find?, things_bind, find?]

theorem things_drop (w : World U) (name : String) :
    (w.drop name).1.things = (w.forget name).things := by
  unfold drop
  split
  · exact (dropThing_names _ _).1
  · next hnone =>
    rw [forget, eq_comm, List.filter_eq_self]
    intro e he
    rw [bne_comm]
    exact List.lookup_eq_none_iff.1 hnone e he

theorem tasks_drop (w : World U) (name : String) : (w.drop name).1.tasks = w.tasks := by
  unfold drop
  split
  · exact (dropThing_names _ _).2
  · rfl

theorem inbox?_drop (w : World U) (name : String) :
    (w.drop name).1.inbox? c =
      if (w.find? name).bind Thing.drained? = some c then none else w.inbox? c := by
  unfold drop
  cases w.find? name with
  | none => rfl
  | some old => exact inbox?_dropThing _ old

theorem find?_drop (w : World U) (name other : String) :
    (w.drop name).1.find? other = if other = name then none else w.find? other := by
  rw [← find?_forget, find?, things_drop, find?]

/-! ## New channels and items -/

theorem inbox?_openChannel (w : World U) :
    w.openChannel.1.inbox? c = if c = w.channels.length then some [] else w.inbox? c := by
  simp only [openChannel, inbox?, List.getElem?_append]
  split
  · next h => rw [if_neg (by omega)]
  · next h =>
    split
    · next heq => simp [heq]
    · next hne =>
      rw [List.getElem?_eq_none (by simp; omega), List.getElem?_eq_none (by omega)]

theorem inbox?_lt {items : List (Item U)} (h : w.inbox? c = some items) :
    c < w.channels.length := by
  obtain ⟨ch, hch, -⟩ := Option.bind_eq_some_iff.1 h
  exact (List.getElem?_eq_some_iff.1 hch).1

theorem inbox?_eq_some {items : List (Item U)} : w.inbox? c = some items ↔
    ∃ ch, w.channels[c]? = some ch ∧ ch.isOpen = true ∧ ch.items = items := by
  simp [inbox?, Option.bind_eq_some_iff]

theorem post_of_some {items : List (Item U)} (item : Item U) (h : w.inbox? c = some items) :
    w.post c item =
      ((w.modifyChannel c fun ch => { ch with items := ch.items ++ [item] }).wake c, true) := by
  obtain ⟨ch, hch, hopen, -⟩ := inbox?_eq_some.1 h
  rw [post, hch]
  exact if_pos hopen

theorem post_of_none (item : Item U) (h : w.inbox? c = none) : w.post c item = (w, false) := by
  unfold post
  cases hch : w.channels[c]? with
  | none => rfl
  | some ch =>
    have hclosed : ¬ ch.isOpen = true := by
      intro hopen
      simp [inbox?, hch, hopen] at h
    exact if_neg hclosed

/-- A posted item goes behind those that wait, if the mailbox is there to take it. -/
theorem inbox?_post (w : World U) (c : Nat) (item : Item U) (c' : Nat) :
    (w.post c item).1.inbox? c' =
      (w.inbox? c').map fun items => if c = c' then items ++ [item] else items := by
  cases hinbox : w.inbox? c with
  | none =>
    rw [post_of_none item hinbox]
    by_cases hc : c = c'
    · subst hc
      rw [hinbox, Option.map_none]
    · simp [hc]
  | some items =>
    rw [post_of_some item hinbox, (alike_wake c).inbox?, inbox?_modifyChannel, inbox?]
    cases w.channels[c']? with
    | none => rfl
    | some ch => by_cases hc : c = c' <;> by_cases hopen : ch.isOpen = true <;> simp [hc, hopen]

theorem post_names (w : World U) (c : Nat) (item : Item U) :
    (w.post c item).1.things = w.things ∧ (w.post c item).1.tasks = w.tasks ∧
      (w.post c item).1.log = w.log := by
  cases hinbox : w.inbox? c with
  | none =>
    rw [post_of_none item hinbox]
    exact ⟨rfl, rfl, rfl⟩
  | some items =>
    rw [post_of_some item hinbox]
    exact ⟨(alike_wake c).things, (alike_wake c).tasks, wake_log _ c⟩

theorem receivers_post (w : World U) (c : Nat) (item : Item U) :
    (w.post c item).1.receivers = w.receivers := by
  cases hinbox : w.inbox? c with
  | none => rw [post_of_none item hinbox]
  | some items =>
    rw [post_of_some item hinbox]
    exact wake_receivers _ c

theorem find?_post (w : World U) (c : Nat) (item : Item U) (name : String) :
    (w.post c item).1.find? name = w.find? name := by
  rw [find?, (post_names w c item).1, find?]

end World

end Relay
