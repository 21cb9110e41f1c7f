import Relay.Proofs.Delivery.Holders

/-!
# Where calls come from

A receiver gets a call when an item is dispatched, and items come to be dispatched in two ways only:
a request brings them along, or they wait in a mailbox that the request drives (`World.atHand`).
All other operations are quiet: no receiver gets a call from them.

Along with the calls goes the number of channels, which never decreases.  So the number of a channel
is never given to another one.
-/

namespace Relay

variable {U : Universe}

namespace World

variable {w v u : World U} {items items' : List (Item U)} {t : Thing U}

/-! ## What dispatches nothing -/

/-- No receiver gets a call, and no channel goes away. -/
structure Quiet (w v : World U) : Prop where
  calls : v.callsOf = w.callsOf
  channels : w.channels.length ≤ v.channels.length

theorem Quiet.refl (w : World U) : w.Quiet w := ⟨rfl, Nat.le_refl _⟩

theorem Quiet.trans (h : w.Quiet v) (h' : v.Quiet u) : w.Quiet u :=
  ⟨h'.calls.trans h.calls, Nat.le_trans h.channels h'.channels⟩

theorem Quiet.congr (hreceivers : v.receivers = w.receivers)
    (hchannels : v.channels.length = w.channels.length) : w.Quiet v := by
  refine ⟨?_, Nat.le_of_eq hchannels.symm⟩
  funext id
  rw [callsOf, callsOf, hreceivers]

theorem quiet_note (w : World U) (e : Event) : w.Quiet (w.note e) := .congr rfl rfl

theorem quiet_modifyReceiver {f : Receiver U → Receiver U} (hf : ∀ r, (f r).calls = r.calls)
    (w : World U) (id : Nat) : w.Quiet (w.modifyReceiver id f) := by
  refine ⟨?_, Nat.le_refl _⟩
  funext id'
  simp only [callsOf, modifyReceiver, List.getElem?_modify]
  cases w.receivers[id']? with
  | none => rfl
  | some r => by_cases h : id = id' <;> simp [h, hf]

theorem quiet_modifyChannel (w : World U) (c : Nat) (f : Channel U → Channel U) :
    w.Quiet (w.modifyChannel c f) :=
  .congr rfl (List.length_modify ..)

theorem quiet_acquire (w : World U) (h : Hold) : w.Quiet (w.acquire h) := by
  unfold acquire
  split
  · exact quiet_modifyReceiver (by intro r; rfl) w h.receiver
  · exact .refl w

theorem quiet_release (w : World U) (h : Hold) : w.Quiet (w.release h) := by
  unfold release
  split
  · exact quiet_modifyReceiver (by intro r; rfl) w h.receiver
  · exact .refl w

theorem quiet_addReceiver (w : World U) : w.Quiet w.addReceiver.1 := by
  refine ⟨?_, Nat.le_refl _⟩
  funext id
  simp only [callsOf, addReceiver, List.getElem?_append]
  split
  · rfl
  · next h =>
    rw [List.getElem?_eq_none (Nat.le_of_not_lt h)]
    cases id - w.receivers.length <;> rfl

theorem quiet_addSender (w : World U) (c : Nat) : w.Quiet (w.addSender c) :=
  quiet_modifyChannel w c _

theorem quiet_wake (w : World U) (c : Nat) : w.Quiet (w.wake c) :=
  .congr (wake_receivers w c) (by rw [wake_channels])

theorem quiet_dropSender (w : World U) (c : Nat) : w.Quiet (w.dropSender c) := by
  have hcount := quiet_modifyChannel w c fun ch => { ch with senders := ch.senders - 1 }
  unfold dropSender
  dsimp only
  split
  · split
    · exact hcount.trans (quiet_wake _ c)
    · exact hcount
  · exact hcount

theorem quiet_addLink (w : World U) (l : Link) : w.Quiet (w.addLink l) := by
  cases l with
  | channel c => exact quiet_addSender w c
  | severed error => exact .refl w

theorem quiet_dropLink (w : World U) (l : Link) : w.Quiet (w.dropLink l) := by
  cases l with
  | channel c => exact quiet_dropSender w c
  | severed error => exact .refl w

theorem quiet_dropMailbox (w : World U) (m : Mailbox U) : w.Quiet (w.dropMailbox m) :=
  (quiet_modifyChannel w m.channel _).trans (quiet_release _ _)

theorem quiet_dropThing (w : World U) (t : Thing U) : w.Quiet (w.dropThing t) := by
  cases t with
  | receiver id => exact quiet_release w _
  | hold h => exact quiet_release w h
  | handler i c | localSender i c => exact quiet_dropSender w c
  | messenger i s => exact quiet_dropLink w s.link
  | remoteSender s => exact quiet_dropLink w s.link
  | link l => exact quiet_dropLink w l
  | mailbox m => exact quiet_dropMailbox w m
  | task id => exact .refl w

theorem quiet_update (w : World U) (name : String) (t : Thing U) : w.Quiet (w.update name t) :=
  .congr rfl rfl

theorem quiet_forget (w : World U) (name : String) : w.Quiet (w.forget name) := .congr rfl rfl

theorem quiet_bind (w : World U) (name : String) (t : Thing U) : w.Quiet (w.bind name t) := by
  have hupdate := quiet_update w name t
  unfold bind
  dsimp only
  split
  · exact hupdate.trans (quiet_dropThing _ _)
  · exact hupdate

theorem quiet_drop (w : World U) (name : String) : w.Quiet (w.drop name).1 := by
  unfold drop
  split
  · exact (quiet_forget w name).trans (quiet_dropThing _ _)
  · exact .refl w

theorem quiet_openMailbox (w : World U) (surface : Surface U) (h : Hold) :
    w.Quiet (w.openMailbox surface h).1 := by
  refine ⟨(quiet_acquire w h).calls, ?_⟩
  have hopen : (w.openMailbox surface h).1.channels.length = w.channels.length + 1 := by
    simp [openMailbox, openChannel, channels_acquire]
  rw [hopen]
  exact Nat.le_succ _

theorem quiet_opened (w : World U) (surface : Surface U) (h : Hold) (name mailbox : String)
    (t : Thing U) : w.Quiet (((w.openMailbox surface h).1.bind name t).bind mailbox
      (.mailbox (w.openMailbox surface h).2)) :=
  (quiet_openMailbox w surface h).trans ((quiet_bind _ _ _).trans (quiet_bind _ _ _))

theorem quiet_spawn (w : World U) (m : Mailbox U) : w.Quiet (w.spawn m).1 := .congr rfl rfl

theorem quiet_openedTask (w : World U) (surface : Surface U) (h : Hold) (name : String)
    (t : Thing U) :
    w.Quiet (((w.openMailbox surface h).1.spawn (w.openMailbox surface h).2).1.bind name t) :=
  (quiet_openMailbox w surface h).trans ((quiet_spawn _ _).trans (quiet_bind _ name t))

theorem quiet_post (w : World U) (c : Nat) (item : Item U) : w.Quiet (w.post c item).1 := by
  cases hinbox : w.inbox? c with
  | none =>
    rw [post_of_none item hinbox]
    exact .refl w
  | some items =>
    rw [post_of_some item hinbox]
    exact (quiet_modifyChannel w c _).trans (quiet_wake _ c)

theorem quiet_sendLocal (w : World U) (interface : String) (c : Nat) (e : Envelope U) :
    w.Quiet (w.sendLocal interface c e) := by
  have hpost := quiet_post w c (.envelope e)
  unfold sendLocal
  cases hinbox : w.inbox? c with
  | none =>
    rw [post_of_none _ hinbox]
    exact quiet_note w _
  | some items =>
    rw [post_of_some _ hinbox] at hpost ⊢
    exact hpost

/-- A sender of frames is replaced by one that may have counted a failure. -/
theorem quiet_carried {s s' : RemoteSender} {attempt : Attempt} (h : w.Carried s attempt v s')
    (name : String) (t : Thing U) : w.Quiet (v.update name t) := by
  cases h with
  | posted hlink hbytes hopen => exact (quiet_post w _ _).trans (quiet_update _ name t)
  | failed hrefusal => exact .congr rfl rfl

theorem quiet_double? (h : w.double? t = some v) : w.Quiet v := by
  cases t with
  | hold hold =>
    obtain rfl := Option.some.inj h
    exact quiet_acquire w hold
  | handler i c | localSender i c =>
    obtain rfl := Option.some.inj h
    exact quiet_addSender w c
  | link l =>
    obtain rfl := Option.some.inj h
    exact quiet_addLink w l
  | _ => cases h

theorem quiet_makes (h : w.Makes t v) : w.Quiet v := by
  cases h with
  | receiver => exact quiet_addReceiver w
  | hold hh => exact quiet_acquire w _
  | severed error => exact .refl w
  | sharing ht hlink hnew => exact quiet_addLink w _
  | double ht hv => exact quiet_double? hv

theorem quiet_posts {c : Nat} {item : Item U} (h : w.Posts c item v) : w.Quiet v := by
  cases h with
  | frame bytes => exact quiet_post w c _
  | message interface e => exact quiet_sendLocal w interface c e

/-! ## Calls that are made of items -/

/-- Each receiver got calls that were made of some of the items, and no others; no channel went
away. -/
structure Dispatched (items : List (Item U)) (w v : World U) : Prop where
  calls : ∀ id, ∃ made : List (Item U × Call U), v.callsOf id = w.callsOf id ++ made.map Prod.snd ∧
    ∀ x ∈ made, x.1 ∈ items ∧ ∃ (s : Surface U) (live : Bool), (s.handle live x.1).call = some x.2
  channels : w.channels.length ≤ v.channels.length

theorem Quiet.dispatched (h : w.Quiet v) : Dispatched items w v := by
  refine ⟨fun id => ⟨[], ?_, List.forall_mem_nil _⟩, h.channels⟩
  rw [h.calls, List.map_nil, List.append_nil]

theorem Dispatched.mono (h : Dispatched items w v) (hsubset : items ⊆ items') :
    Dispatched items' w v := by
  refine ⟨fun id => ?_, h.channels⟩
  obtain ⟨made, hcalls, hmade⟩ := h.calls id
  exact ⟨made, hcalls, fun x hx => ⟨hsubset (hmade x hx).1, (hmade x hx).2⟩⟩

theorem Dispatched.trans (h : Dispatched items w v) (h' : Dispatched items v u) :
    Dispatched items w u := by
  refine ⟨fun id => ?_, Nat.le_trans h.channels h'.channels⟩
  obtain ⟨made, hcalls, hmade⟩ := h.calls id
  obtain ⟨more, hcalls', hmore⟩ := h'.calls id
  refine ⟨made ++ more, ?_, List.forall_mem_append.2 ⟨hmade, hmore⟩⟩
  rw [hcalls', hcalls, List.map_append, List.append_assoc]

theorem callsOf_handled (w : World U) (receiver : Nat) (hs : List (Handling U)) (id : Nat) :
    (w.handled receiver hs).callsOf id = w.callsOf id ∨
      (w.handled receiver hs).callsOf id = w.callsOf id ++ hs.filterMap Handling.call := by
  simp only [callsOf, handled, modifyReceiver, List.getElem?_modify]
  cases w.receivers[id]? with
  | none => exact .inl rfl
  | some r =>
    by_cases h : receiver = id
    · exact .inr (by simp [h])
    · exact .inl (by simp [h])

theorem dispatched_handled (w : World U) (receiver : Nat) (s : Surface U) (live : Bool)
    (items : List (Item U)) :
    Dispatched items w (w.handled receiver (items.map (s.handle live))) := by
  refine ⟨fun id => ?_, Nat.le_refl _⟩
  rcases callsOf_handled w receiver (items.map (s.handle live)) id with h | h
  · exact ⟨[], by rw [h, List.map_nil, List.append_nil], List.forall_mem_nil _⟩
  · refine ⟨items.filterMap fun item => (s.handle live item).call.map (Prod.mk item), ?_, ?_⟩
    · rw [h, List.filterMap_map, List.map_filterMap]
      congr
      funext item
      cases hcall : (s.handle live item).call <;> simp [hcall]
    · intro x hx
      obtain ⟨item, hitem, hx⟩ := List.mem_filterMap.1 hx
      obtain ⟨call, hcall, rfl⟩ := Option.map_eq_some_iff.1 hx
      exact ⟨hitem, s, live, hcall⟩

theorem dispatched_handle (w : World U) (d : Dispatcher U) (item : Item U) :
    Dispatched [item] w (w.handle d item).1 := by
  rw [handle_eq]
  exact dispatched_handled w _ d.surface _ [item]

theorem dispatched_serve (w : World U) (d : Dispatcher U) (ending : SourceEnd)
    (frames : List (List UInt8)) : Dispatched (frames.map .frame) w
      (w.serve d (frames.map .frame ++ ending.receptions)).1 := by
  induction frames generalizing w with
  | nil =>
    refine Quiet.dispatched ?_
    cases ending with
    | closed => exact quiet_note w _
    | pending => exact .refl w
    | failed error => exact quiet_note w _
  | cons bytes rest ih =>
    have hfirst : Dispatched ((bytes :: rest).map .frame) w (w.handle d (.frame bytes)).1 :=
      (dispatched_handle w d (.frame bytes)).mono (by simp)
    exact hfirst.trans ((ih _).mono (List.subset_cons_self _ _))

theorem dispatched_pump (w : World U) (m : Mailbox U) :
    Dispatched (w.queue m.channel) w (w.pump m).1 := by
  have hempty : w.Quiet (w.requeue m.channel []) := quiet_modifyChannel w m.channel _
  rw [pump_eq]
  exact hempty.dispatched.trans (dispatched_handled _ _ m.dispatcher.surface _ _)

theorem dispatched_run (w : World U) (m : Mailbox U) :
    Dispatched (w.queue m.channel) w (w.run m).1 := by
  have hpump := dispatched_pump w m
  rw [run_eq]
  split
  · exact hpump.trans (quiet_note _ _).dispatched
  · exact hpump

/-! ## Tasks -/

/-- The channels that the unfinished tasks drain. -/
def taskDrains (w : World U) : List Nat := w.tasks.filterMap Task.drained?

def waitingIn (w : World U) (cs : List Nat) : List (Item U) := cs.flatMap w.queue

theorem mem_taskDrains {c : Nat} :
    c ∈ w.taskDrains ↔ ∃ t ∈ w.tasks, t.finished = false ∧ t.mailbox.channel = c := by
  simp only [taskDrains, List.mem_filterMap, Task.drained?]
  refine exists_congr fun t => and_congr_right fun _ => ?_
  cases t.finished <;> simp

theorem queue_subset_waitingIn {c : Nat} {cs : List Nat} (hc : c ∈ cs) :
    w.queue c ⊆ w.waitingIn cs :=
  fun _ hitem => List.mem_flatMap.2 ⟨c, hc, hitem⟩

theorem queue_modifyChannel_subset {f : Channel U → Channel U}
    (hf : ∀ ch, (f ch).items ⊆ ch.items) (w : World U) (c c' : Nat) :
    (w.modifyChannel c f).queue c' ⊆ w.queue c' := by
  rw [queue_modifyChannel]
  split
  · rw [queue]
    cases w.channels[c']? with
    | none => exact List.Subset.refl _
    | some ch => exact hf ch
  · exact List.Subset.refl _

theorem queue_run_subset (w : World U) (m : Mailbox U) (c : Nat) :
    (w.run m).1.queue c ⊆ w.queue c := by
  rw [queue_run]
  split
  · exact List.nil_subset _
  · exact List.Subset.refl _

theorem channels_release (w : World U) (h : Hold) : (w.release h).channels = w.channels := by
  unfold release
  split <;> rfl

theorem queue_dropMailbox (w : World U) (m : Mailbox U) (c : Nat) :
    (w.dropMailbox m).queue c = if m.channel = c then [] else w.queue c := by
  rw [dropMailbox, queue_congr (channels_release _ _), queue_modifyChannel]
  split
  · cases w.channels[c]? <;> rfl
  · rfl

theorem queue_dropMailbox_subset (w : World U) (m : Mailbox U) (c : Nat) :
    (w.dropMailbox m).queue c ⊆ w.queue c := by
  rw [queue_dropMailbox]
  split
  · exact List.nil_subset _
  · exact List.Subset.refl _

theorem waitingIn_subset {cs cs' : List Nat} (hcs : cs ⊆ cs')
    (hqueue : ∀ c, v.queue c ⊆ w.queue c) : v.waitingIn cs ⊆ w.waitingIn cs' := by
  intro item hitem
  obtain ⟨c, hc, hwaits⟩ := List.mem_flatMap.1 hitem
  exact List.mem_flatMap.2 ⟨c, hcs hc, hqueue c hwaits⟩

theorem taskDrains_finish_subset (w : World U) (id : Nat) :
    (w.finish id).taskDrains ⊆ w.taskDrains := by
  intro c hc
  obtain ⟨t, ht, hunfinished, hchannel⟩ := mem_taskDrains.1 hc
  obtain ⟨i, hi⟩ := List.getElem?_of_mem ht
  simp only [finish, List.getElem?_modify, Option.map_eq_map, Option.map_eq_some_iff] at hi
  obtain ⟨t', ht', h⟩ := hi
  split at h
  · rw [← h] at hunfinished
    cases hunfinished
  · subst h
    exact mem_taskDrains.2 ⟨t', List.mem_of_getElem? ht', hunfinished, hchannel⟩

/-- A task that runs dispatches what waits in its mailbox, and nothing more comes to wait. -/
theorem dispatched_runTask (w : World U) (id : Nat) :
    Dispatched (w.waitingIn w.taskDrains) w (w.runTask id) ∧
      (w.runTask id).waitingIn (w.runTask id).taskDrains ⊆ w.waitingIn w.taskDrains := by
  rcases runTask_cases w id with h | ⟨t, ht, hunfinished, h⟩
  · rw [h]
    exact ⟨(Quiet.refl w).dispatched, List.Subset.refl _⟩
  · have hdrained : t.mailbox.channel ∈ w.taskDrains :=
      mem_taskDrains.2 ⟨t, List.mem_of_getElem? ht, hunfinished, rfl⟩
    have hrun := (dispatched_run w t.mailbox).mono (queue_subset_waitingIn hdrained)
    have hrest : (w.run t.mailbox).1.taskDrains = w.taskDrains :=
      congrArg (List.filterMap Task.drained?) (tasks_run w t.mailbox)
    have hless := queue_run_subset w t.mailbox
    rcases h with h | h
    · rw [h, hrest]
      exact ⟨hrun, waitingIn_subset (List.Subset.refl _) hless⟩
    · rw [h]
      have hfinish : (w.run t.mailbox).1.Quiet ((w.run t.mailbox).1.finish id) := .congr rfl rfl
      have hdrop := hfinish.trans (quiet_dropMailbox _ t.mailbox)
      refine ⟨hrun.trans hdrop.dispatched, waitingIn_subset ?_ fun c => ?_⟩
      · rw [taskDrains, dropMailbox, (alike_release _).tasks, ← hrest]
        exact taskDrains_finish_subset _ id
      · exact List.Subset.trans (queue_dropMailbox_subset _ t.mailbox c) (hless c)

theorem dispatched_settle (w : World U) : Dispatched (w.waitingIn w.taskDrains) w w.settle := by
  have hstep : ∀ (v : World U) id, (Dispatched (w.waitingIn w.taskDrains) w v ∧
      v.waitingIn v.taskDrains ⊆ w.waitingIn w.taskDrains) →
      Dispatched (w.waitingIn w.taskDrains) w (v.runTask id) ∧
        (v.runTask id).waitingIn (v.runTask id).taskDrains ⊆ w.waitingIn w.taskDrains := by
    rintro v id ⟨hdispatched, hsubset⟩
    obtain ⟨hrun, hless⟩ := dispatched_runTask v id
    exact ⟨hdispatched.trans (hrun.mono hsubset), List.Subset.trans hless hsubset⟩
  have hready : w.Quiet { w with ready := [] } := .congr rfl rfl
  exact (foldl_runTask hstep ⟨hready.dispatched, List.Subset.refl _⟩).1

/-! ## Every request -/

/-- The channels of the mailboxes that a request drives. -/
def driven (w : World U) : Request U → List Nat
  | .pump name | .run name => ((w.mailbox? name).map Mailbox.channel).toList
  | .settle => w.taskDrains
  | _ => []

theorem mem_driven {name : String} {m : Mailbox U} (hm : w.mailbox? name = some m) :
    m.channel ∈ ((w.mailbox? name).map Mailbox.channel).toList := by
  rw [hm]
  exact List.mem_singleton_self _

/-- What a request can come to dispatch: the items that it brings, and those that wait in the
mailboxes that it drives. -/
def atHand (w : World U) (r : Request U) : List (Item U) := r.brings ++ w.waitingIn (w.driven r)

theorem Handles.dispatched {r : Request U} (h : w.Handles r v) : Dispatched r.brings w v := by
  cases h with
  | looked => exact (Quiet.refl w).dispatched
  | item hr =>
    rw [hr]
    exact dispatched_handle w _ _
  | frames hr =>
    rw [hr]
    exact dispatched_serve w _ _ _

theorem Move.dispatched {r : Request U} {a : Answer U} (h : w.Move r v a) :
    Dispatched (w.atHand r) w v := by
  cases h with
  | still hr hv => exact hv.dispatched.mono (List.subset_append_left _ _)
  | bound hr hv => exact ((quiet_makes hv).trans (quiet_bind _ _ _)).dispatched
  | opened hr hh ht => exact (quiet_opened w _ _ _ _ _).dispatched
  | openedTask hr hh ht => exact (quiet_openedTask w _ _ _ _).dispatched
  | dropped => exact (quiet_drop w _).dispatched
  | posted hr ht hoffer hattempt hv => exact (quiet_posts hv).dispatched
  | severed hr ht hoffer hattempt => exact (Quiet.refl w).dispatched
  | carried hr ht hs hattempt hv => exact (quiet_carried hv _ _).dispatched
  | @pumped name m hm =>
    have hdriven : m.channel ∈ w.driven (.pump name) := mem_driven hm
    exact (dispatched_pump w m).mono (queue_subset_waitingIn hdriven)
  | @ran name m hm =>
    have hdriven : m.channel ∈ w.driven (.run name) := mem_driven hm
    have hrun := (dispatched_run (w.forget name) m).mono (queue_subset_waitingIn hdriven)
    exact (quiet_forget w name).dispatched.trans (hrun.trans (quiet_dropMailbox _ m).dispatched)
  | @spawned name task m id hm =>
    have hspawned := (quiet_forget w name).trans (quiet_spawn _ m)
    exact (hspawned.trans (quiet_bind _ task _)).dispatched
  | settled => exact dispatched_settle w

end World

end Relay
