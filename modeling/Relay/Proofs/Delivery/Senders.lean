import Relay.Proofs.Delivery.Readiness

/-!
# Who sends into a channel

A channel counts its senders, and its mailbox ends when none is left.  Here the senders are counted
from outside: the names of a world stand for handlers, senders and links, and the count of a channel
is the number of those that post into it (`World.Staffed`).  As with the holds on a receiver, a
sender on its way to a name, or away from one, stands in a list of loose ones.

A channel that loses its last sender wakes its task, so the invariant also says that the tasks with
something to do are ready (`World.Alert`).
-/

namespace Relay

variable {U : Universe}

/-- The channel that a thing posts into. -/
def Thing.feeds? : Thing U → Option Nat
  | .handler _ c | .localSender _ c => some c
  | .messenger _ s | .remoteSender s => s.link.channel?
  | .link l => l.channel?
  | _ => none

namespace World

variable {w v u : World U} {c c' id : Nat} {ids rest loose : List Nat} {name : String} {t : Thing U}
  {task : Task U} {m : Mailbox U} {h : Hold}

/-! ## Senders under names -/

/-- The channels that the named things post into, one entry for each thing. -/
def feeds (w : World U) : List Nat := w.things.filterMap fun e => e.2.feeds?

/-- The channel that the thing under a name posts into. -/
def fedBy (w : World U) (name : String) : List Nat := ((w.find? name).bind Thing.feeds?).toList

/-- Nothing that has a name posts into a channel. -/
def Unfed (w : World U) (c : Nat) : Prop := ∀ name t, w.find? name = some t → t.feeds? ≠ some c

theorem mem_feeds_of_find? (ht : w.find? name = some t) (hfeeds : t.feeds? = some c) :
    c ∈ w.feeds :=
  List.mem_filterMap.2 ⟨_, mem_of_find? ht, hfeeds⟩

theorem unfed_iff (hnames : (w.things.map Prod.fst).Nodup) : w.Unfed c ↔ c ∉ w.feeds := by
  constructor
  · intro hunfed hc
    obtain ⟨⟨name, t⟩, ht, hfeeds⟩ := List.mem_filterMap.1 hc
    exact hunfed name t (find?_of_mem hnames ht) hfeeds
  · intro hc name t ht hfeeds
    exact hc (mem_feeds_of_find? ht hfeeds)

theorem fedBy_of_find? (ht : w.find? name = some t) : w.fedBy name = t.feeds?.toList := by
  rw [fedBy, ht, Option.bind_some]

theorem feeds_update (w : World U) (name : String) (t : Thing U) :
    (w.update name t).feeds = t.feeds?.toList ++ (w.forget name).feeds :=
  filterMap_things_update Thing.feeds? w name t

theorem feeds_perm (hnames : (w.things.map Prod.fst).Nodup) (name : String) :
    w.feeds.Perm (w.fedBy name ++ (w.forget name).feeds) :=
  filterMap_things_perm Thing.feeds? hnames name

/-- Every channel counts the named things that post into it and the loose senders, and the tasks
that have something to do are ready. -/
structure Staffed (w : World U) (loose : List Nat) : Prop where
  names : (w.things.map Prod.fst).Nodup
  senders : ∀ c, w.senders c = (loose ++ w.feeds).count c
  alert : w.Alert w.ready

theorem Staffed.perm {loose' : List Nat} (hw : w.Staffed loose)
    (hnames : (v.things.map Prod.fst).Nodup) (hsteady : w.Steady v)
    (hfeeds : (loose ++ w.feeds).Perm (loose' ++ v.feeds)) : v.Staffed loose' where
  names := hnames
  senders := fun c => by rw [hsteady.senders, hw.senders, hfeeds.count_eq]
  alert := hsteady.ready ▸ hw.alert.steady hsteady

theorem Staffed.steady (hw : w.Staffed loose) (hthings : v.things = w.things)
    (hsteady : w.Steady v) : v.Staffed loose := by
  refine hw.perm (hthings ▸ hw.names) hsteady ?_
  rw [feeds, feeds, hthings]

theorem Staffed.wake (hw : w.Staffed loose) (h : w.Beside v c)
    {loose' : List Nat} (hsenders : ∀ c', v.senders c' = (loose' ++ w.feeds).count c') :
    (v.wake c).Staffed loose' := by
  have hthings : (v.wake c).things = w.things := (alike_wake c).things.trans h.things
  refine ⟨hthings ▸ hw.names, fun c' => ?_, hw.alert.wake h⟩
  rw [senders_congr (wake_channels v c), hsenders, feeds, feeds, hthings]

theorem Staffed.beside (hw : w.Staffed loose) (h : w.Beside v c)
    {loose' : List Nat} (hsenders : ∀ c', v.senders c' = (loose' ++ w.feeds).count c')
    (hc : w.Idle c → v.Idle c) : v.Staffed loose' := by
  refine ⟨h.things ▸ hw.names, fun c' => ?_, hw.alert.beside h hc⟩
  rw [hsenders, feeds, feeds, h.things]

/-! ## Senders that come and go -/

def recount (w : World U) (c : Nat) (f : Nat → Nat) : World U :=
  w.modifyChannel c fun ch => { ch with senders := f ch.senders }

theorem queue_recount (w : World U) (c : Nat) (f : Nat → Nat) (c' : Nat) :
    (w.recount c f).queue c' = w.queue c' := by
  rw [recount, queue_modifyChannel]
  split
  · rfl
  · rfl

theorem Staffed.exists_channel (hw : w.Staffed loose) (hc : c ∈ loose ++ w.feeds) :
    ∃ ch, w.channels[c]? = some ch := by
  apply exists_of_senders
  rw [hw.senders]
  exact Nat.ne_of_gt (List.count_pos_iff.2 hc)

/-- A channel that is counted somewhere is there to be recounted. -/
theorem Staffed.recount (hw : w.Staffed loose) (hc : c ∈ loose ++ w.feeds) (f : Nat → Nat)
    (c' : Nat) : (w.recount c f).senders c' =
      if c = c' then f ((loose ++ w.feeds).count c') else (loose ++ w.feeds).count c' := by
  rw [← hw.senders, World.recount, senders_modifyChannel]
  split
  · next h =>
    subst h
    obtain ⟨ch, hch⟩ := hw.exists_channel hc
    simp [World.senders, hch]
  · rfl

theorem Staffed.addSender (hw : w.Staffed loose) (hc : c ∈ loose ++ w.feeds) :
    (w.addSender c).Staffed (c :: loose) := by
  have hsenders : ∀ c', (w.recount c fun n => n + 1).senders c' =
      (c :: loose ++ w.feeds).count c' := by
    intro c'
    rw [hw.recount hc, List.cons_append, List.count_cons]
    by_cases h : c = c' <;> simp [h]
  have hfed : (w.recount c fun n => n + 1).senders c ≠ 0 := by
    rw [hsenders]
    exact Nat.ne_of_gt (List.count_pos_iff.2 List.mem_cons_self)
  exact hw.beside (beside_modifyChannel w c _) hsenders fun hidle =>
    ⟨(queue_recount w c _ c).trans hidle.empty, hfed⟩

theorem dropSender_eq {ch : Channel U} (hch : w.channels[c]? = some ch) :
    w.dropSender c = if (w.recount c fun n => n - 1).senders c = 0 then
      (w.recount c fun n => n - 1).wake c else w.recount c fun n => n - 1 := by
  have hnew : (w.modifyChannel c fun ch => { ch with senders := ch.senders - 1 }).channels[c]? =
      some { ch with senders := ch.senders - 1 } := by
    simp [modifyChannel, hch]
  simp only [dropSender, recount, World.senders, hnew, Option.map_some, Option.getD_some]

theorem Staffed.dropSender (hw : w.Staffed (c :: loose)) : (w.dropSender c).Staffed loose := by
  have hc : c ∈ (c :: loose) ++ w.feeds := List.mem_cons_self
  have hsenders : ∀ c', (w.recount c fun n => n - 1).senders c' = (loose ++ w.feeds).count c' := by
    intro c'
    rw [hw.recount hc, List.cons_append, List.count_cons]
    by_cases h : c = c' <;> simp [h]
  have hbeside : w.Beside (w.recount c fun n => n - 1) c := beside_modifyChannel w c _
  obtain ⟨ch, hch⟩ := hw.exists_channel hc
  rw [dropSender_eq hch]
  split
  · exact hw.wake hbeside hsenders
  · next hfed =>
    exact hw.beside hbeside hsenders fun hidle => ⟨(queue_recount w c _ c).trans hidle.empty, hfed⟩

theorem Staffed.addLink {l : Link} (hw : w.Staffed loose)
    (hl : ∀ c, l.channel? = some c → c ∈ loose ++ w.feeds) :
    (w.addLink l).Staffed (l.channel?.toList ++ loose) := by
  cases l with
  | channel c => exact hw.addSender (hl c rfl)
  | severed error => exact hw

theorem Staffed.dropLink {l : Link} (hw : w.Staffed (l.channel?.toList ++ loose)) :
    (w.dropLink l).Staffed loose := by
  cases l with
  | channel c => exact Staffed.dropSender hw
  | severed error => exact hw

/-! ## Items and mailboxes that come -/

theorem Staffed.post (hw : w.Staffed loose) (c : Nat) (item : Item U) :
    (w.post c item).1.Staffed loose := by
  cases hinbox : w.inbox? c with
  | none =>
    rw [post_of_none item hinbox]
    exact hw
  | some items =>
    rw [post_of_some item hinbox]
    refine hw.wake (beside_modifyChannel w c _) fun c' => ?_
    rw [← hw.senders, senders_modifyChannel]
    split
    · rfl
    · rfl

theorem Staffed.sendLocal (hw : w.Staffed loose) (interface : String) (c : Nat) (e : Envelope U) :
    (w.sendLocal interface c e).Staffed loose := by
  have hpost := hw.post c (.envelope e)
  unfold World.sendLocal
  cases hinbox : w.inbox? c with
  | none =>
    rw [post_of_none _ hinbox]
    exact hw.steady rfl (.congr rfl rfl rfl)
  | some items =>
    rw [post_of_some _ hinbox] at hpost ⊢
    exact hpost

theorem Staffed.carried {s s' : RemoteSender} {attempt : Attempt} (hw : w.Staffed loose)
    (h : w.Carried s attempt v s') : v.Staffed loose := by
  cases h with
  | posted hlink hbytes hopen => exact hw.post _ _
  | failed hrefusal => exact hw.steady rfl (.congr rfl rfl rfl)

theorem Staffed.openChannel (hw : w.Staffed loose) :
    w.openChannel.1.Staffed (w.channels.length :: loose) := by
  have hnew : w.channels[w.channels.length]? = none := List.getElem?_eq_none (Nat.le_refl _)
  have hold : ∀ c, c ≠ w.channels.length → w.openChannel.1.channels[c]? = w.channels[c]? := by
    intro c hc
    rcases Nat.lt_or_gt_of_ne hc with hlt | hgt
    · exact List.getElem?_append_left hlt
    · rw [List.getElem?_eq_none (Nat.le_of_lt hgt)]
      exact List.getElem?_eq_none (by simp [World.openChannel]; omega)
  have hfirst : w.openChannel.1.channels[w.channels.length]? = some ⟨[], 1, true⟩ :=
    List.getElem?_concat_length
  refine ⟨hw.names, fun c => ?_, hw.alert.lone, hw.alert.once, hw.alert.known,
    fun id task htask hunfinished hid => ?_⟩
  · have hcount := hw.senders c
    have hfeeds : w.openChannel.1.feeds = w.feeds := rfl
    rw [hfeeds, List.cons_append, List.count_cons]
    by_cases hc : c = w.channels.length
    · subst hc
      rw [World.senders, hnew] at hcount
      rw [World.senders, hfirst, ← hcount]
      simp
    · rw [World.senders, hold c hc, ← hcount]
      simp [World.senders, Ne.symm hc]
  · have hidle := hw.alert.idle id task htask hunfinished hid
    have hc : task.mailbox.channel ≠ w.channels.length := by
      intro hc
      apply hidle.fed
      rw [hc, World.senders, hnew]
      rfl
    constructor
    · rw [queue, hold _ hc]
      exact hidle.empty
    · rw [World.senders, hold _ hc]
      exact hidle.fed

theorem Staffed.openMailbox (hw : w.Staffed loose) (surface : Surface U) (h : Hold) :
    (w.openMailbox surface h).1.Staffed ((w.openMailbox surface h).2.channel :: loose) := by
  have hacquire := hw.steady (alike_acquire h).things (steady_acquire w h)
  exact hacquire.openChannel

theorem Staffed.spawn (hw : w.Staffed loose) (hm : m.channel ∉ w.taskDrains) :
    (w.spawn m).1.Staffed loose := by
  have hnew : w.tasks.length ∉ w.ready := fun hid => Nat.lt_irrefl _ (hw.alert.known _ hid)
  refine ⟨hw.names, hw.senders, ?_, ?_, ?_, fun id task htask hunfinished hid => ?_⟩
  · have hdrains : (w.spawn m).1.taskDrains = w.taskDrains ++ [m.channel] := by
      simp [taskDrains, World.spawn, Task.drained?]
    rw [hdrains, ← List.concat_eq_append]
    exact hw.alert.lone.concat hm
  · change (w.ready ++ [w.tasks.length]).Nodup
    rw [← List.concat_eq_append]
    exact hw.alert.once.concat hnew
  · have htasks : (w.spawn m).1.tasks.length = w.tasks.length + 1 := by simp [World.spawn]
    rw [htasks]
    refine List.forall_mem_append.2 ⟨?_, List.forall_mem_singleton.2 (Nat.lt_succ_self _)⟩
    exact fun id hid => Nat.lt_succ_of_lt (hw.alert.known id hid)
  · have hid' : id ∉ w.ready ∧ id ≠ w.tasks.length := by
      simpa [World.spawn] using hid
    have htask' : w.tasks[id]? = some task := by
      have hlt := (List.getElem?_eq_some_iff.1 htask).1
      simp only [World.spawn, List.length_append, List.length_singleton] at hlt
      rwa [World.spawn, List.getElem?_append_left (by omega)] at htask
    have hidle := hw.alert.idle id task htask' hunfinished hid'.1
    exact ⟨hidle.empty, hidle.fed⟩

/-! ## Names -/

theorem Staffed.forget (hw : w.Staffed loose) (name : String) :
    (w.forget name).Staffed (w.fedBy name ++ loose) := by
  have hfeeds := perm_loosen (feeds_perm hw.names name) loose
  exact hw.perm (nodup_forget hw.names name) (.congr rfl rfl rfl) hfeeds

/-- A loose sender is put under a name, and the one that was there becomes loose. -/
theorem Staffed.update (hw : w.Staffed (t.feeds?.toList ++ loose)) (name : String) :
    (w.update name t).Staffed (w.fedBy name ++ loose) := by
  refine hw.perm (nodup_update hw.names name t) (.congr rfl rfl rfl) ?_
  rw [feeds_update]
  exact perm_exchange (feeds_perm hw.names name) _ loose

theorem Staffed.dropThing (hw : w.Staffed (t.feeds?.toList ++ loose)) :
    (w.dropThing t).Staffed loose := by
  cases t with
  | receiver id => exact Staffed.steady hw (alike_release _).things (steady_release _ _)
  | hold h => exact Staffed.steady hw (alike_release _).things (steady_release _ _)
  | handler i c | localSender i c => exact Staffed.dropSender hw
  | messenger i s => exact Staffed.dropLink (l := s.link) hw
  | remoteSender s => exact Staffed.dropLink (l := s.link) hw
  | link l => exact Staffed.dropLink (l := l) hw
  | mailbox m => exact Staffed.steady hw (alike_release _).things (steady_dropMailbox _ _)
  | task id => exact hw

theorem Staffed.bind (hw : w.Staffed (t.feeds?.toList ++ loose)) (name : String) :
    (w.bind name t).Staffed loose :=
  bind_of_update (P := fun loose v => v.Staffed loose) (hw.update name) Staffed.dropThing

theorem Staffed.drop (hw : w.Staffed loose) (name : String) : (w.drop name).1.Staffed loose :=
  drop_of_forget (P := fun loose v => v.Staffed loose) (hw.forget name) Staffed.dropThing hw

/-- A name comes to stand for something that posts into the same channel. -/
theorem Staffed.replace {t' : Thing U} (hw : w.Staffed loose) (ht : w.find? name = some t)
    (hfeeds : t'.feeds? = t.feeds?) : (w.update name t').Staffed loose := by
  refine hw.perm (nodup_update hw.names name t') (.congr rfl rfl rfl) ?_
  rw [feeds_update, hfeeds, ← fedBy_of_find? ht]
  exact (feeds_perm hw.names name).append_left loose

/-! ## Requests -/

theorem feeds?_of_linkOf? {l : Link} (h : linkOf? t = some l) : t.feeds? = l.channel? := by
  cases t with
  | messenger i s | remoteSender s | link l' =>
    obtain rfl := Option.some.inj h
    rfl
  | _ => cases h

/-- Who has a link can pass it on. -/
theorem Staffed.share {l : Link} (hw : w.Staffed loose) (ht : w.find? name = some t)
    (hl : linkOf? t = some l) : (w.addLink l).Staffed (l.channel?.toList ++ loose) := by
  refine hw.addLink fun c hc => List.mem_append_right _ ?_
  exact mem_feeds_of_find? ht ((feeds?_of_linkOf? hl).trans hc)

theorem Staffed.double (hw : w.Staffed loose) (ht : w.find? name = some t)
    (h : w.double? t = some v) : v.Staffed (t.feeds?.toList ++ loose) := by
  cases t with
  | hold h' =>
    obtain rfl := Option.some.inj h
    exact hw.steady (alike_acquire _).things (steady_acquire _ _)
  | handler i c | localSender i c =>
    obtain rfl := Option.some.inj h
    exact hw.addSender (List.mem_append_right _ (mem_feeds_of_find? ht rfl))
  | link l =>
    obtain rfl := Option.some.inj h
    exact hw.share ht rfl
  | _ => cases h

theorem Staffed.opened {mailbox : String} {surface : Surface U} (hw : w.Staffed loose)
    (ht : t.feeds? = some (w.openMailbox surface h).2.channel) :
    (((w.openMailbox surface h).1.bind name t).bind mailbox
      (.mailbox (w.openMailbox surface h).2)).Staffed loose := by
  have hbound : ((w.openMailbox surface h).1.bind name t).Staffed loose := by
    apply Staffed.bind
    rw [ht]
    exact hw.openMailbox surface h
  exact Staffed.bind (t := .mailbox (w.openMailbox surface h).2) hbound mailbox

theorem feeds?_of_sender? {s : RemoteSender} (h : t.sender? = some s) :
    t.feeds? = s.link.channel? := by
  cases t with
  | messenger i s' | remoteSender s' =>
    obtain rfl := Option.some.inj h
    rfl
  | _ => cases h

theorem feeds?_of_enters (h : t.Enters c) : t.feeds? = some c := by
  cases h <;> rfl

/-- A new sender is loose until it is under a name. -/
theorem Staffed.makes (hw : w.Staffed loose) (h : w.Makes t v) :
    v.Staffed (t.feeds?.toList ++ loose) := by
  cases h with
  | receiver => exact hw.steady rfl (.congr rfl rfl rfl)
  | hold hh => exact hw.steady (alike_acquire _).things (steady_acquire w _)
  | severed error => exact hw
  | sharing ht hlink hnew =>
    rw [feeds?_of_sender? hnew]
    exact hw.share ht hlink
  | double ht hv => exact hw.double ht hv

theorem Staffed.handles {r : Request U} (hw : w.Staffed loose) (h : w.Handles r v) :
    v.Staffed loose := by
  cases h with
  | looked => exact hw
  | item hr =>
    rw [handle_eq]
    exact hw.steady rfl (steady_handled _ _ _)
  | frames hr => exact hw.steady (alike_serve _ _).things (steady_serve _ _ _)

theorem Staffed.posts {item : Item U} (hw : w.Staffed loose) (h : w.Posts c item v) :
    v.Staffed loose := by
  cases h with
  | frame bytes => exact hw.post c _
  | message interface e => exact hw.sendLocal interface c e

/-- A sender keeps its link, whatever comes of what it sends. -/
theorem Staffed.sent {s s' : RemoteSender} {attempt : Attempt} (hw : w.Staffed loose)
    (ht : w.find? name = some t) (hs : t.sender? = some s) (h : w.Carried s attempt v s') :
    (v.update name (t.withSender s')).Staffed loose := by
  have hlink : s'.link = s.link := by cases h <;> rfl
  refine (hw.carried h).replace ((find?_carried h name).trans ht) ?_
  rw [feeds?_of_sender? (sender?_withSender hs s'), feeds?_of_sender? hs, hlink]

theorem ready_settle (w : World U) : w.settle.ready = [] := by
  refine foldl_runTask (P := fun v => v.ready = []) (fun v id hv => ?_) rfl
  rcases runTask_cases v id with h | ⟨task, -, -, h | h⟩
  · rw [h, hv]
  · rw [h, (steady_run v _).ready, hv]
  · rw [h, (steady_dropMailbox _ _).ready]
    exact (steady_run v _).ready.trans hv

theorem Staffed.start (hw : w.Staffed loose) :
    ({ w with ready := [] } : World U).Alert w.ready where
  lone := hw.alert.lone
  once := hw.alert.once
  known := hw.alert.known
  idle := fun id task htask hunfinished hid =>
    (hw.alert.idle id task htask hunfinished hid).mono rfl (List.Subset.refl _)

theorem Staffed.settle (hw : w.Staffed loose) : w.settle.Staffed loose := by
  have hstart : ({ w with ready := [] } : World U).Alert (w.ready ++ []) := by
    rw [List.append_nil]
    exact hw.start
  have hturns : w.settle.Alert [] := Alert.foldl_runTask hstart
  refine ⟨(things_settle w).symm ▸ hw.names, fun c => ?_, (ready_settle w).symm ▸ hturns⟩
  rw [feeds, things_settle]
  exact (congrFun (senders_foldl_runTask _ _) c).trans (hw.senders c)

theorem Move.staffed {r : Request U} {a : Answer U} (h : w.Move r v a) (hw : w.Staffed [])
    (hsound : w.Sound) : v.Staffed [] := by
  cases h with
  | still hr hv => exact hw.handles hv
  | bound hr hv => exact (hw.makes hv).bind _
  | opened hr hh ht => exact hw.opened (feeds?_of_enters ht)
  | @openedTask r name t surface h a hr hh ht =>
    have hlone := hsound.not_mem_openMailbox surface h
    have hopened := (hw.openMailbox surface h).spawn fun hc => hlone (List.mem_append_right _ hc)
    apply Staffed.bind
    rw [feeds?_of_enters ht]
    exact hopened
  | dropped => exact hw.drop _
  | posted hr ht hoffer hattempt hv => exact hw.posts hv
  | severed hr ht hoffer hattempt => exact hw
  | carried hr ht hs hattempt hv => exact hw.sent ht hs hv
  | pumped hm => exact hw.steady (things_pump w _) (steady_pump w _)
  | @ran name m hm =>
    have hforget := hw.forget name
    rw [fedBy_of_find? (mailbox?_eq_some.1 hm)] at hforget
    have hrun := Staffed.steady hforget (things_run _ m) (steady_run _ m)
    exact hrun.steady (alike_release _).things (steady_dropMailbox _ m)
  | @spawned name task m id hm =>
    have hforget := hw.forget name
    rw [fedBy_of_find? (mailbox?_eq_some.1 hm)] at hforget
    have hlone := hsound.not_mem_forget (mailbox?_eq_some.1 hm)
    have hspawned := Staffed.spawn hforget fun hc => hlone (List.mem_append_right _ hc)
    exact Staffed.bind (t := .task id) hspawned task
  | settled => exact hw.settle

theorem staffed_empty : (empty : World U).Staffed [] where
  names := .nil
  senders := fun _ => rfl
  alert := ⟨.nil, .nil, nofun, nofun⟩

theorem Run.staffed {xs : List (Exchange U)} (hrun : Run w xs v) (hw : w.Staffed [])
    (hsound : w.Sound) : v.Staffed [] := by
  induction hrun with
  | nil w => exact hw
  | cons hanswer hrun ih =>
    have hmove := move_of_answer hanswer
    exact ih (hmove.staffed hw hsound) (hmove.sound hsound)

theorem Reachable.staffed (hw : w.Reachable) : w.Staffed [] := by
  obtain ⟨xs, hrun⟩ := hw
  exact hrun.staffed staffed_empty sound_empty

/-- A channel has no sender exactly when nothing that has a name posts into it. -/
theorem Staffed.senders_eq_zero (hw : w.Staffed []) : w.senders c = 0 ↔ w.Unfed c := by
  rw [unfed_iff hw.names, hw.senders, List.nil_append, List.count_eq_zero]

end World

end Relay
