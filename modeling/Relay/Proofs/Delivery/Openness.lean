import Relay.Proofs.Delivery.Attribution
import Relay.Proofs.Delivery.Lifetimes

/-!
# Which channels are open

Over the worlds that requests lead to, a channel is open exactly while one party drains it, a name
or an unfinished task (`World.Tidy.gone_iff`).  That what is drained is open has been shown along
with the owners of mailboxes; here is the other half.  In the middle of a request a mailbox can be
on its way to a name or a task, with nobody draining its channel yet, so this half is kept for all
open channels but those of a list of loose mailboxes (`World.Attended`).

A closed channel stays closed: nothing opens a channel again, and a new one gets a new number.
-/

namespace Relay

variable {U : Universe}

namespace World

variable {w v : World U} {c : Nat} {name : String} {t : Thing U} {m : Mailbox U} {r : Request U}
  {a : Answer U} {loose : List Nat}

/-! ## Channels that nobody drains -/

/-- The mailbox of a channel is gone: no name stands for it, and no unfinished task has it. -/
structure Gone (w : World U) (c : Nat) : Prop where
  known : c < w.channels.length
  unnamed : ∀ name m, w.mailbox? name = some m → m.channel ≠ c
  untasked : ∀ t ∈ w.tasks, t.finished = false → t.mailbox.channel ≠ c

theorem mem_drains_iff (hnames : (w.things.map Prod.fst).Nodup) : c ∈ w.drains ↔
    (∃ name m, w.mailbox? name = some m ∧ m.channel = c) ∨
      ∃ t ∈ w.tasks, t.finished = false ∧ t.mailbox.channel = c := by
  rw [drains, List.mem_append]
  refine or_congr ⟨fun hc => ?_, ?_⟩ mem_taskDrains
  · obtain ⟨⟨name, t⟩, ht, hdrained⟩ := List.mem_filterMap.1 hc
    cases t with
    | mailbox m =>
      exact ⟨name, m, mailbox?_eq_some.2 (find?_of_mem hnames ht), Option.some.inj hdrained⟩
    | _ => cases hdrained
  · rintro ⟨name, m, hm, rfl⟩
    exact List.mem_filterMap.2 ⟨_, mem_of_find? (mailbox?_eq_some.1 hm), rfl⟩

theorem gone_iff (hnames : (w.things.map Prod.fst).Nodup) :
    w.Gone c ↔ c < w.channels.length ∧ c ∉ w.drains := by
  rw [mem_drains_iff hnames]
  constructor
  · rintro ⟨hknown, hunnamed, huntasked⟩
    refine ⟨hknown, ?_⟩
    rintro (⟨name, m, hm, hchannel⟩ | ⟨t, ht, hunfinished, hchannel⟩)
    · exact hunnamed name m hm hchannel
    · exact huntasked t ht hunfinished hchannel
  · rintro ⟨hknown, hother⟩
    refine ⟨hknown, fun name m hm hchannel => ?_, fun t ht hunfinished hchannel => ?_⟩
    · exact hother (.inl ⟨name, m, hm, hchannel⟩)
    · exact hother (.inr ⟨t, ht, hunfinished, hchannel⟩)

/-- A channel that was opened and is closed. -/
structure Shut (w : World U) (c : Nat) : Prop where
  known : c < w.channels.length
  inbox : w.inbox? c = none

/-! ## Closed channels stay closed -/

theorem inbox?_runTask_of_none (h : w.inbox? c = none) (id : Nat) :
    (w.runTask id).inbox? c = none := by
  have hrun : ∀ m : Mailbox U, (w.run m).1.inbox? c = none := by
    intro m
    rw [inbox?_run, h, Option.map_none]
  rcases runTask_cases w id with h' | ⟨t, -, -, h' | h'⟩
  · rw [h', h]
  · rw [h', hrun]
  · rw [h', inbox?_dropMailbox]
    split
    · rfl
    · exact hrun t.mailbox

theorem Carried.inbox?_of_none {s s' : RemoteSender} {attempt : Attempt}
    (hv : w.Carried s attempt v s') (h : w.inbox? c = none) : v.inbox? c = none := by
  cases hv with
  | posted hlink hbytes hopen => rw [inbox?_post, h, Option.map_none]
  | failed hrefusal => exact h

theorem inbox?_bind_of_none (h : w.inbox? c = none) (name : String) (t : Thing U) :
    (w.bind name t).inbox? c = none := by
  rw [inbox?_bind]
  split
  · rfl
  · exact h

theorem inbox?_openMailbox_of_shut (h : w.Shut c) (surface : Surface U) (hold : Hold) :
    (w.openMailbox surface hold).1.inbox? c = none := by
  have hne : c ≠ (w.openMailbox surface hold).2.channel := by
    rw [openMailbox_channel]
    exact Nat.ne_of_lt h.known
  rw [inbox?_openMailbox, if_neg hne, h.inbox]

theorem Move.inbox?_of_shut (hmove : w.Move r v a) (h : w.Shut c) : v.inbox? c = none := by
  have hnone := h.inbox
  cases hmove with
  | still hr hv => rw [hv.alike.inbox?, hnone]
  | bound hr hv =>
    apply inbox?_bind_of_none
    rw [hv.alike.inbox?, hnone]
  | opened hr hh ht =>
    exact inbox?_bind_of_none (inbox?_bind_of_none (inbox?_openMailbox_of_shut h _ _) _ _) _ _
  | @openedTask r name t surface hold a hr hh ht =>
    have hspawned : ((w.openMailbox surface hold).1.spawn
        (w.openMailbox surface hold).2).1.inbox? c = none :=
      inbox?_openMailbox_of_shut h surface hold
    exact inbox?_bind_of_none hspawned name t
  | dropped =>
    rw [inbox?_drop]
    split
    · rfl
    · exact hnone
  | posted hr ht hoffer hattempt hv => rw [hv.alike.inbox?, inbox?_post, hnone, Option.map_none]
  | severed hr ht hoffer hattempt => exact hnone
  | carried hr ht hs hattempt hv => exact hv.inbox?_of_none hnone
  | pumped hm => rw [inbox?_pump, hnone, Option.map_none]
  | @ran name m hm =>
    rw [inbox?_dropMailbox, inbox?_run]
    split
    · rfl
    · exact congrArg (Option.map _) hnone
  | @spawned name task m id hm =>
    have hspawned : ((w.forget name).spawn m).1.inbox? c = none := hnone
    exact inbox?_bind_of_none hspawned task _
  | settled =>
    exact foldl_runTask (P := fun v => v.inbox? c = none)
      (fun v id hv => inbox?_runTask_of_none hv id) hnone

theorem Shut.answer (h : w.Shut c) (hanswer : w.answer r = some (v, a)) : v.Shut c where
  known := Nat.lt_of_lt_of_le h.known (move_of_answer hanswer).dispatched.channels
  inbox := (move_of_answer hanswer).inbox?_of_shut h

theorem Run.shut {xs : List (Exchange U)} (hrun : Run w xs v) (h : w.Shut c) : v.Shut c := by
  induction hrun with
  | nil w => exact h
  | cons hanswer hrun ih => exact ih (h.answer hanswer)

/-! ## Open channels are drained -/

/-- Every open channel is drained, except for those of the mailboxes that are on their way to a name
or a task. -/
def Attended (w : World U) (loose : List Nat) : Prop :=
  ∀ c, (w.inbox? c).isSome → c ∈ loose ++ w.drains

theorem Attended.congr (hw : w.Attended loose) (hdrains : v.drains = w.drains)
    (hopen : ∀ c, (v.inbox? c).isSome → (w.inbox? c).isSome) : v.Attended loose := by
  intro c hc
  rw [hdrains]
  exact hw c (hopen c hc)

theorem drains_congr (hthings : v.things = w.things) (htasks : v.tasks = w.tasks) :
    v.drains = w.drains := by
  rw [drains, drains, hthings, htasks]

theorem Attended.alike (hw : w.Attended loose) (h : w.Alike v) : v.Attended loose :=
  hw.congr (drains_congr h.things h.tasks) fun _ hc => h.inbox? ▸ hc

theorem Attended.post (hw : w.Attended loose) (c : Nat) (item : Item U) :
    (w.post c item).1.Attended loose := by
  obtain ⟨hthings, htasks, -⟩ := post_names w c item
  refine hw.congr (drains_congr hthings htasks) fun c' hc' => ?_
  rwa [inbox?_post, Option.isSome_map] at hc'

theorem Attended.pump (hw : w.Attended loose) (m : Mailbox U) : (w.pump m).1.Attended loose := by
  refine hw.congr (drains_congr (things_pump w m) (tasks_pump w m)) fun c hc => ?_
  rwa [inbox?_pump, Option.isSome_map] at hc

theorem Attended.run (hw : w.Attended loose) (m : Mailbox U) : (w.run m).1.Attended loose :=
  (hw.pump m).alike (alike_pump_run w m)

/-- What is drained besides the thing under a name is drained without the name. -/
theorem mem_drains_forget (hw : w.Sound) (hc : c ∈ w.drains)
    (hother : (w.find? name).bind Thing.drained? ≠ some c) : c ∈ (w.forget name).drains := by
  cases hfind : w.find? name with
  | none =>
    have hsame : (w.forget name).things = w.things := by
      rw [← things_drop, World.drop, hfind]
    rwa [drains_congr hsame rfl]
  | some t =>
    rw [(drains_perm hw hfind).mem_iff, List.mem_append] at hc
    refine hc.resolve_left fun hmem => hother ?_
    rw [hfind, Option.bind_some]
    exact Option.mem_toList.1 hmem

theorem Attended.bind (hsound : w.Sound) (hw : w.Attended (t.drained?.toList ++ loose))
    (name : String) : (w.bind name t).Attended loose := by
  intro c hc
  have hdrains : (w.bind name t).drains = t.drained?.toList ++ (w.forget name).drains := by
    rw [drains_congr (things_bind w name t) (tasks_bind w name t)]
    exact drains_update w name t
  rw [inbox?_bind] at hc
  split at hc
  · cases hc
  · next hother =>
    rw [hdrains, List.mem_append, List.mem_append]
    have hmem := hw c hc
    rw [List.append_assoc, List.mem_append, List.mem_append] at hmem
    rcases hmem with hnew | hloose | hold
    · exact .inr (.inl hnew)
    · exact .inl hloose
    · exact .inr (.inr (mem_drains_forget hsound hold hother))

/-- A name keeps standing for something that drains nothing. -/
theorem Attended.replace {t' : Thing U} (hsound : w.Sound) (hw : w.Attended loose)
    (ht : w.find? name = some t) (hold : t.drained? = none) (hnew : t'.drained? = none) :
    (w.update name t').Attended loose := by
  intro c hc
  have hother : (w.find? name).bind Thing.drained? ≠ some c := by
    rw [ht, Option.bind_some, hold]
    nofun
  rw [drains_update, hnew]
  rcases List.mem_append.1 (hw c hc) with hloose | hmem
  · exact List.mem_append_left _ hloose
  · exact List.mem_append_right _ (mem_drains_forget hsound hmem hother)

theorem Attended.carried {s s' : RemoteSender} {attempt : Attempt} (hw : w.Attended loose)
    (h : w.Carried s attempt v s') : v.Attended loose := by
  cases h with
  | posted hlink hbytes hopen => exact hw.post _ _
  | failed hrefusal => exact hw.alike (alike_note _)

theorem Attended.openMailbox (hw : w.Attended []) (surface : Surface U) (h : Hold) :
    (w.openMailbox surface h).1.Attended [(w.openMailbox surface h).2.channel] := by
  intro c hc
  rw [inbox?_openMailbox] at hc
  rw [drains_openMailbox, List.singleton_append, List.mem_cons]
  split at hc
  · next hnew => exact .inl hnew
  · exact .inr (hw c hc)

theorem drains_spawn (w : World U) (m : Mailbox U) :
    (w.spawn m).1.drains = w.drains ++ [m.channel] := by
  simp [drains, spawn, Task.drained?]

theorem Attended.spawn (hw : w.Attended (m.channel :: loose)) : (w.spawn m).1.Attended loose := by
  intro c hc
  have hmem : c ∈ m.channel :: (loose ++ w.drains) := hw c hc
  rw [drains_spawn, ← List.append_assoc, List.mem_append, List.mem_singleton]
  rcases List.mem_cons.1 hmem with hnew | hold
  · exact .inr hnew
  · exact .inl hold

theorem Attended.forget (hsound : w.Sound) (hw : w.Attended loose)
    (hm : w.find? name = some (.mailbox m)) :
    (w.forget name).Attended (m.channel :: loose) := by
  intro c hc
  by_cases hchannel : c = m.channel
  · rw [hchannel]
    exact List.mem_cons_self
  · rcases List.mem_append.1 (hw c hc) with hloose | hold
    · exact List.mem_cons_of_mem _ (List.mem_append_left _ hloose)
    · have hother : (w.find? name).bind Thing.drained? ≠ some c := by
        rw [hm]
        rintro ⟨⟩
        exact hchannel rfl
      exact List.mem_cons_of_mem _ (List.mem_append_right _ (mem_drains_forget hsound hold hother))

theorem Attended.dropMailbox (hw : w.Attended (m.channel :: loose)) :
    (w.dropMailbox m).Attended loose := by
  intro c hc
  rw [inbox?_dropMailbox] at hc
  split at hc
  · cases hc
  · next hother =>
    have hdrains : (w.dropMailbox m).drains = w.drains :=
      drains_congr (alike_release _).things (alike_release _).tasks
    rw [hdrains]
    exact (List.mem_cons.1 (hw c hc)).resolve_left (Ne.symm hother)

theorem Attended.drop (hsound : w.Sound) (hw : w.Attended []) (name : String) :
    (w.drop name).1.Attended [] := by
  intro c hc
  rw [inbox?_drop] at hc
  split at hc
  · cases hc
  · next hother =>
    rw [drains_congr (v := (w.drop name).1) (w := w.forget name) (things_drop w name)
      (tasks_drop w name)]
    exact mem_drains_forget hsound (hw c hc) hother

theorem Attended.finish (hw : w.Attended []) {task : Task U} {id : Nat}
    (htask : w.tasks[id]? = some task) (hunfinished : task.finished = false) :
    (w.finish id).Attended [task.mailbox.channel] := by
  intro c hc
  exact (drains_finish htask hunfinished).mem_iff.1 (hw c hc)

theorem Attended.runTask (hw : w.Attended []) (id : Nat) : (w.runTask id).Attended [] := by
  rcases runTask_cases w id with h | ⟨task, htask, hunfinished, h | h⟩
  · rw [h]
    exact hw
  · rw [h]
    exact hw.run task.mailbox
  · rw [h]
    exact Attended.dropMailbox
      ((hw.run task.mailbox).finish ((tasks_run w _).symm ▸ htask) hunfinished)

theorem Move.attended (h : w.Move r v a) (hsound : w.Sound) (hw : w.Attended []) :
    v.Attended [] := by
  cases h with
  | still hr hv => exact hw.alike hv.alike
  | bound hr hv =>
    refine Attended.bind (hsound.alike hv.alike) ?_ _
    rw [hv.drained?]
    exact hw.alike hv.alike
  | @opened r name mailbox t surface h a hr hh ht =>
    have hopened := hw.openMailbox surface h
    have hbound : ((w.openMailbox surface h).1.bind name t).Attended
        [(w.openMailbox surface h).2.channel] := by
      refine Attended.bind (hsound.openMailbox surface h) ?_ name
      rw [ht.drained?]
      exact hopened
    exact Attended.bind ((hsound.openMailbox surface h).bind (by simp [ht.drained?]) name) hbound
      mailbox
  | @openedTask r name t surface h a hr hh ht =>
    refine Attended.bind (hsound.openTask surface h) ?_ name
    rw [ht.drained?]
    exact (hw.openMailbox surface h).spawn
  | dropped => exact hw.drop hsound _
  | posted hr ht hoffer hattempt hv => exact (hw.post _ _).alike hv.alike
  | severed hr ht hoffer hattempt => exact hw
  | @carried r name t s s' attempt v hr ht hs hattempt hv =>
    have hdrained := drained?_of_sender? hs
    exact (hw.carried hv).replace (hsound.carried hv) ((find?_carried hv name).trans ht) hdrained
      ((drained?_withSender t s').trans hdrained)
  | pumped hm => exact hw.pump _
  | @ran name m hm =>
    exact ((hw.forget hsound (mailbox?_eq_some.1 hm)).run m).dropMailbox
  | @spawned name task m id hm =>
    have hfind := mailbox?_eq_some.1 hm
    exact Attended.bind (t := .task id) (hsound.handOver hfind) (hw.forget hsound hfind).spawn task
  | settled =>
    exact foldl_runTask (P := fun v => v.Attended []) (fun v id hv => hv.runTask id) hw

/-! ## Finished tasks -/

/-- The channels of finished tasks are closed. -/
def Retired (w : World U) : Prop :=
  ∀ t ∈ w.tasks, t.finished = true → w.Shut t.mailbox.channel

/-- A request leaves the tasks as they are, except that it may add one, or run them. -/
theorem Move.tasks (h : w.Move r v a) :
    v.tasks = w.tasks ∨ (∃ m, v.tasks = w.tasks ++ [⟨m, false⟩]) ∨ r = .settle := by
  cases h with
  | still hr hv => exact .inl hv.alike.tasks
  | bound hr hv => exact .inl ((tasks_bind _ _ _).trans hv.alike.tasks)
  | opened hr hh ht =>
    rw [tasks_bind, tasks_bind]
    exact .inl (alike_acquire _).tasks
  | @openedTask r name t surface h a hr hh ht =>
    refine .inr (.inl ⟨(w.openMailbox surface h).2, ?_⟩)
    rw [tasks_bind]
    exact congrArg (· ++ _) (alike_acquire h).tasks
  | dropped => exact .inl (tasks_drop _ _)
  | posted hr ht hoffer hattempt hv => exact .inl (hv.alike.tasks.trans (post_names _ _ _).2.1)
  | severed hr ht hoffer hattempt => exact .inl rfl
  | carried hr ht hs hattempt hv =>
    cases hv with
    | posted hlink hbytes hopen => exact .inl (post_names _ _ _).2.1
    | failed hrefusal => exact .inl rfl
  | pumped hm => exact .inl (tasks_pump _ _)
  | @ran name m hm => exact .inl ((alike_release _).tasks.trans (tasks_run (w.forget name) m))
  | @spawned name task m id hm =>
    refine .inr (.inl ⟨m, ?_⟩)
    rw [tasks_bind]
    rfl
  | settled => exact .inr (.inr rfl)

theorem Shut.runTask (h : w.Shut c) (id : Nat) : (w.runTask id).Shut c where
  known := Nat.lt_of_lt_of_le h.known (dispatched_runTask w id).1.channels
  inbox := inbox?_runTask_of_none h.inbox id

theorem Retired.runTask (hsound : w.Sound) (hw : w.Retired) (id : Nat) :
    (w.runTask id).Retired := by
  intro t ht hfinished
  have hold : t ∈ w.tasks → (w.runTask id).Shut t.mailbox.channel :=
    fun hmem => (hw t hmem hfinished).runTask id
  rcases runTask_cases w id with h | ⟨task, htask, hunfinished, h | h⟩
  · rw [h] at ht
    exact hold ht
  · rw [h, tasks_run] at ht
    exact hold ht
  · have htasks : (w.runTask id).tasks = (w.finish id).tasks := by
      rw [h, World.dropMailbox, (alike_release _).tasks]
      exact congrArg (List.modify · id _) (tasks_run w task.mailbox)
    obtain ⟨i, hi⟩ := List.getElem?_of_mem (htasks ▸ ht)
    simp only [finish, List.getElem?_modify, Option.map_eq_map, Option.map_eq_some_iff] at hi
    obtain ⟨t', ht', hi⟩ := hi
    split at hi
    · next heq =>
      -- The task that has just finished closes its channel.
      obtain rfl : task = t' := Option.some.inj (htask.symm.trans (heq ▸ ht'))
      subst hi
      have hdrained : task.mailbox.channel ∈ w.drains :=
        List.mem_append_right _ (mem_taskDrains.2 ⟨task, List.mem_of_getElem? htask, hunfinished, rfl⟩)
      refine ⟨Nat.lt_of_lt_of_le (hsound.lt_of_mem hdrained) (dispatched_runTask w id).1.channels, ?_⟩
      rw [h, inbox?_dropMailbox, if_pos rfl]
    · subst hi
      exact hold (List.mem_of_getElem? ht')

theorem Retired.settle (hsound : w.Sound) (hw : w.Retired) : w.settle.Retired := by
  have hstep : ∀ (v : World U) id, v.Sound ∧ v.Retired → (v.runTask id).Sound ∧
      (v.runTask id).Retired :=
    fun v id hv => ⟨hv.1.runTask id, hv.2.runTask hv.1 id⟩
  have hsound' : ({ w with ready := [] } : World U).Sound := hsound.congr rfl rfl hsound.isOpen
  have hretired' : ({ w with ready := [] } : World U).Retired :=
    fun t ht hfinished => ⟨(hw t ht hfinished).known, (hw t ht hfinished).inbox⟩
  exact (foldl_runTask hstep ⟨hsound', hretired'⟩).2

theorem Retired.answer (hsound : w.Sound) (hw : w.Retired) (h : w.answer r = some (v, a)) :
    v.Retired := by
  intro t ht hfinished
  rcases (move_of_answer h).tasks with htasks | ⟨m, htasks⟩ | rfl
  · exact (hw t (htasks ▸ ht) hfinished).answer h
  · rw [htasks, List.mem_append, List.mem_singleton] at ht
    rcases ht with ht | rfl
    · exact (hw t ht hfinished).answer h
    · cases hfinished
  · cases h
    exact hw.settle hsound t ht hfinished

/-! ## Worlds that requests lead to -/

/-- A channel is open exactly while one party drains it, and finished tasks drain nothing. -/
structure Tidy (w : World U) : Prop where
  sound : w.Sound
  attended : w.Attended []
  retired : w.Retired

theorem tidy_empty : (empty : World U).Tidy where
  sound := sound_empty
  attended := by
    intro c hc
    cases hc
  retired := by
    intro t ht
    cases ht

theorem Tidy.answer (hw : w.Tidy) (h : w.answer r = some (v, a)) : v.Tidy where
  sound := (move_of_answer h).sound hw.sound
  attended := (move_of_answer h).attended hw.sound hw.attended
  retired := hw.retired.answer hw.sound h

theorem Run.tidy {xs : List (Exchange U)} (hrun : Run w xs v) (hw : w.Tidy) : v.Tidy := by
  induction hrun with
  | nil w => exact hw
  | cons hanswer hrun ih => exact ih (hw.answer hanswer)

theorem Reachable.tidy (hw : w.Reachable) : w.Tidy := by
  obtain ⟨xs, hrun⟩ := hw
  exact hrun.tidy tidy_empty

/-- A mailbox is gone exactly when its channel is closed. -/
theorem Tidy.gone_iff (hw : w.Tidy) : w.Gone c ↔ w.Shut c := by
  rw [World.gone_iff hw.sound.names]
  constructor
  · rintro ⟨hknown, hother⟩
    refine ⟨hknown, ?_⟩
    rw [← Option.not_isSome_iff_eq_none]
    exact fun hopen => hother (hw.attended c hopen)
  · rintro ⟨hknown, hclosed⟩
    refine ⟨hknown, fun hc => ?_⟩
    have hopen := hw.sound.isOpen c hc
    rw [hclosed] at hopen
    cases hopen

end World

end Relay
