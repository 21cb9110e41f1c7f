import Relay.Proofs.Delivery.Openness

/-!
# Tasks that have something to do

A task that is not ready is not looked at, so it must have nothing to do: no item waits in its
mailbox, and a sender is left (`World.Alert`).  Whatever gives it something to do, an item that is
posted or the last sender that goes, wakes it; that the right task is woken depends on no two tasks
draining one channel.

When the ready tasks have their turns, each finds its mailbox as it was at the start, since the
others drain other channels, and leaves it empty.
-/

namespace Relay

variable {U : Universe}

namespace World

variable {w v u : World U} {c c' id id' : Nat} {ids rest : List Nat} {task : Task U} {m : Mailbox U}

/-! ## Counts -/

/-- The number of senders of a channel, as the channel counts them. -/
def senders (w : World U) (c : Nat) : Nat := (w.channels[c]?.map Channel.senders).getD 0

theorem abandoned_eq (w : World U) (c : Nat) : w.abandoned c = decide (w.senders c = 0) := by
  unfold abandoned senders
  cases w.channels[c]? with
  | none => rfl
  | some ch => rfl

theorem exists_of_senders (h : w.senders c ≠ 0) : ∃ ch, w.channels[c]? = some ch := by
  cases hch : w.channels[c]? with
  | none => simp [senders, hch] at h
  | some ch => exact ⟨ch, rfl⟩

theorem senders_modifyChannel (w : World U) (c : Nat) (f : Channel U → Channel U) (c' : Nat) :
    (w.modifyChannel c f).senders c' =
      if c = c' then (w.channels[c']?.map fun ch => (f ch).senders).getD 0 else w.senders c' := by
  simp only [senders, modifyChannel, List.getElem?_modify]
  by_cases h : c = c' <;> cases w.channels[c']? <;> simp [h]

theorem senders_congr (h : v.channels = w.channels) : v.senders = w.senders := by
  funext c
  rw [senders, senders, h]

/-! ## Tasks with nothing to do -/

/-- A mailbox has nothing to do: no item waits, and a sender is left. -/
structure Idle (w : World U) (c : Nat) : Prop where
  empty : w.queue c = []
  fed : w.senders c ≠ 0

/-- No two tasks drain one channel, and all but those with the given numbers have nothing to do. -/
structure Alert (w : World U) (ids : List Nat) : Prop where
  lone : w.taskDrains.Nodup
  once : ids.Nodup
  known : ∀ id ∈ ids, id < w.tasks.length
  idle : ∀ (id : Nat) (task : Task U), w.tasks[id]? = some task → task.finished = false →
    id ∉ ids → w.Idle task.mailbox.channel

/-- No task gets something to do, and no count of senders changes. -/
structure Steady (w v : World U) : Prop where
  tasks : v.tasks = w.tasks
  ready : v.ready = w.ready
  senders : v.senders = w.senders
  queue : ∀ c, v.queue c ⊆ w.queue c

theorem Steady.refl (w : World U) : w.Steady w := ⟨rfl, rfl, rfl, fun _ => List.Subset.refl _⟩

theorem Steady.trans (h : w.Steady v) (h' : v.Steady u) : w.Steady u where
  tasks := h'.tasks.trans h.tasks
  ready := h'.ready.trans h.ready
  senders := h'.senders.trans h.senders
  queue := fun c => List.Subset.trans (h'.queue c) (h.queue c)

theorem Steady.congr (htasks : v.tasks = w.tasks) (hready : v.ready = w.ready)
    (hchannels : v.channels = w.channels) : w.Steady v := by
  refine ⟨htasks, hready, senders_congr hchannels, fun c => ?_⟩
  rw [queue_congr hchannels]
  exact List.Subset.refl _

theorem Idle.mono (hc : w.Idle c) (hsenders : v.senders = w.senders)
    (hqueue : v.queue c ⊆ w.queue c) : v.Idle c where
  empty := List.subset_nil.1 (hc.empty ▸ hqueue)
  fed := hsenders ▸ hc.fed

theorem Alert.steady (hw : w.Alert ids) (h : w.Steady v) : v.Alert ids where
  lone := by
    rw [taskDrains, h.tasks]
    exact hw.lone
  once := hw.once
  known := h.tasks ▸ hw.known
  idle := fun id task htask hunfinished hid =>
    (hw.idle id task (h.tasks ▸ htask) hunfinished hid).mono h.senders (h.queue _)

/-! ## What leaves the tasks alone -/

theorem steady_modifyChannel {f : Channel U → Channel U}
    (hsenders : ∀ ch, (f ch).senders = ch.senders) (hitems : ∀ ch, (f ch).items ⊆ ch.items)
    (w : World U) (c : Nat) : w.Steady (w.modifyChannel c f) := by
  refine ⟨rfl, rfl, ?_, queue_modifyChannel_subset hitems w c⟩
  funext c'
  rw [senders_modifyChannel]
  split
  · simp only [hsenders]
    rfl
  · rfl

theorem steady_acquire (w : World U) (h : Hold) : w.Steady (w.acquire h) := by
  unfold acquire
  split
  · exact .congr rfl rfl rfl
  · exact .refl w

theorem steady_release (w : World U) (h : Hold) : w.Steady (w.release h) := by
  unfold release
  split
  · exact .congr rfl rfl rfl
  · exact .refl w

theorem steady_dropMailbox (w : World U) (m : Mailbox U) : w.Steady (w.dropMailbox m) := by
  have hclosed := steady_modifyChannel (f := fun ch => { ch with items := [], isOpen := false })
    (fun _ => rfl) (fun _ => List.nil_subset _) w m.channel
  exact hclosed.trans (steady_release _ _)

theorem steady_handled (w : World U) (receiver : Nat) (hs : List (Handling U)) :
    w.Steady (w.handled receiver hs) := .congr rfl rfl rfl

theorem steady_pump (w : World U) (m : Mailbox U) : w.Steady (w.pump m).1 := by
  have hqueue := steady_modifyChannel (f := fun ch => { ch with items := [] }) (fun _ => rfl)
    (fun _ => List.nil_subset _) w m.channel
  rw [pump_eq]
  exact hqueue.trans (steady_handled _ _ _)

theorem steady_run (w : World U) (m : Mailbox U) : w.Steady (w.run m).1 := by
  rw [run_eq]
  split
  · exact (steady_pump w m).trans (.congr rfl rfl rfl)
  · exact steady_pump w m

theorem steady_serve (w : World U) (d : Dispatcher U) (rs : List Reception) :
    w.Steady (w.serve d rs).1 := by
  induction rs generalizing w with
  | nil => exact .refl w
  | cons r rest ih =>
    cases r with
    | frame bytes =>
      have hfirst : w.Steady (w.handle d (.frame bytes)).1 := by
        rw [handle_eq]
        exact steady_handled _ _ _
      exact hfirst.trans (ih _)
    | closed | failed error => exact .congr rfl rfl rfl

/-! ## Waking -/

/-- The task that drains a channel is the one that is woken for it. -/
theorem taskOf?_eq {tasks : List (Task U)} (hlone : (tasks.filterMap Task.drained?).Nodup)
    (htask : tasks[id]? = some task) (hunfinished : task.finished = false) (first : Nat) :
    taskOf? task.mailbox.channel first tasks = some (first + id) := by
  induction tasks generalizing id first with
  | nil => cases htask
  | cons head rest ih =>
    have hdrained : task.drained? = some task.mailbox.channel := by
      rw [Task.drained?, hunfinished]
      rfl
    cases id with
    | zero =>
      obtain rfl : head = task := by simpa using htask
      rw [taskOf?, if_pos (by simp [hunfinished])]
      rfl
    | succ id =>
      have hrest : rest[id]? = some task := by simpa using htask
      have hmem : task.mailbox.channel ∈ rest.filterMap Task.drained? :=
        List.mem_filterMap.2 ⟨task, List.mem_of_getElem? hrest, hdrained⟩
      have hother : ¬ (head.mailbox.channel = task.mailbox.channel ∧ head.finished = false) := by
        rintro ⟨hchannel, hhead⟩
        have hfirst : head.drained? = some task.mailbox.channel := by
          rw [Task.drained?, hhead, hchannel]
          rfl
        rw [List.filterMap_cons_some hfirst] at hlone
        exact (List.nodup_cons.1 hlone).1 hmem
      have hlone' : (rest.filterMap Task.drained?).Nodup :=
        hlone.sublist ((List.sublist_cons_self head rest).filterMap _)
      rw [taskOf?, if_neg (by simpa using hother), ih hlone' hrest, Nat.add_assoc,
        Nat.add_comm 1 id]

theorem Alert.channel_ne {other : Task U} {id' : Nat} (hw : w.Alert ids)
    (htask : w.tasks[id]? = some task) (hunfinished : task.finished = false)
    (hother : w.tasks[id']? = some other) (hunfinished' : other.finished = false) (hne : id ≠ id') :
    task.mailbox.channel ≠ other.mailbox.channel := by
  intro hchannel
  have hfirst := taskOf?_eq hw.lone htask hunfinished 0
  rw [hchannel, taskOf?_eq hw.lone hother hunfinished' 0] at hfirst
  exact hne (by simpa using hfirst.symm)

theorem taskOf?_lt {tasks : List (Task U)} {first : Nat}
    (h : taskOf? c first tasks = some id) : id < first + tasks.length := by
  induction tasks generalizing first with
  | nil => cases h
  | cons head rest ih =>
    rw [taskOf?] at h
    rw [List.length_cons]
    split at h
    · obtain rfl := Option.some.inj h
      omega
    · have hlt := ih h
      omega

theorem ready_wake (w : World U) (c : Nat) : (w.wake c).ready = w.ready ∨
    ∃ id, taskOf? c 0 w.tasks = some id ∧ id ∉ w.ready ∧ (w.wake c).ready = w.ready ++ [id] := by
  unfold wake
  cases htask : taskOf? c 0 w.tasks with
  | none => exact .inl rfl
  | some id =>
    by_cases hold : id ∈ w.ready
    · simp [hold]
    · simp [hold]

theorem mem_ready_wake (h : taskOf? c 0 w.tasks = some id) : id ∈ (w.wake c).ready := by
  by_cases hold : id ∈ w.ready <;> simp [wake, h, hold]

theorem ready_subset_wake (w : World U) (c : Nat) : w.ready ⊆ (w.wake c).ready := by
  rcases ready_wake w c with h | ⟨id, -, -, h⟩
  · rw [h]
    exact List.Subset.refl _
  · rw [h]
    exact List.subset_append_left _ _

/-- The worlds differ in one channel only. -/
structure Beside (w v : World U) (c : Nat) : Prop where
  things : v.things = w.things
  tasks : v.tasks = w.tasks
  ready : v.ready = w.ready
  senders : ∀ c', c ≠ c' → v.senders c' = w.senders c'
  queue : ∀ c', c ≠ c' → v.queue c' = w.queue c'

theorem beside_modifyChannel (w : World U) (c : Nat) (f : Channel U → Channel U) :
    w.Beside (w.modifyChannel c f) c :=
  ⟨rfl, rfl, rfl, fun c' hc => by rw [senders_modifyChannel, if_neg hc],
    fun c' hc => by rw [queue_modifyChannel, if_neg hc]⟩

theorem Beside.idle (h : w.Beside v c) (hc : c ≠ c') (hidle : w.Idle c') : v.Idle c' :=
  ⟨(h.queue c' hc).trans hidle.empty, h.senders c' hc ▸ hidle.fed⟩

theorem Alert.beside (hw : w.Alert w.ready) (h : w.Beside v c) (hc : w.Idle c → v.Idle c) :
    v.Alert v.ready := by
  rw [h.ready]
  refine ⟨?_, hw.once, h.tasks ▸ hw.known, fun id task htask hunfinished hid => ?_⟩
  · rw [taskDrains, h.tasks]
    exact hw.lone
  · have hidle := hw.idle id task (h.tasks ▸ htask) hunfinished hid
    by_cases heq : c = task.mailbox.channel
    · subst heq
      exact hc hidle
    · exact h.idle heq hidle

/-- A channel may change in any way if it is woken. -/
theorem Alert.wake (hw : w.Alert w.ready) (h : w.Beside v c) :
    (v.wake c).Alert (v.wake c).ready := by
  have htasks : (v.wake c).tasks = w.tasks := (alike_wake c).tasks.trans h.tasks
  have hchannels := wake_channels v c
  constructor
  case lone =>
    rw [taskDrains, htasks]
    exact hw.lone
  case once =>
    rcases ready_wake v c with hready | ⟨id, -, hnew, hready⟩
    · rw [hready, h.ready]
      exact hw.once
    · rw [h.ready] at hready hnew
      rw [hready, ← List.concat_eq_append]
      exact hw.once.concat hnew
  case known =>
    rw [htasks]
    rcases ready_wake v c with hready | ⟨woken, hwoken, -, hready⟩
    · rw [hready, h.ready]
      exact hw.known
    · rw [hready, h.ready, List.forall_mem_append, List.forall_mem_singleton]
      rw [h.tasks] at hwoken
      exact ⟨hw.known, by simpa using taskOf?_lt hwoken⟩
  case idle =>
    intro id task htask hunfinished hid
    rw [htasks] at htask
    have hother : c ≠ task.mailbox.channel := by
      rintro rfl
      have hwoken := taskOf?_eq hw.lone htask hunfinished 0
      rw [Nat.zero_add, ← h.tasks] at hwoken
      exact hid (mem_ready_wake hwoken)
    have hnot : id ∉ w.ready := by
      rw [← h.ready]
      exact fun hold => hid (ready_subset_wake v c hold)
    have hidle := h.idle hother (hw.idle id task htask hunfinished hnot)
    refine hidle.mono (senders_congr hchannels) ?_
    rw [queue_congr hchannels]
    exact List.Subset.refl _

/-! ## Turns -/

theorem runTask_eq (htask : w.tasks[id]? = some task) (hunfinished : task.finished = false) :
    w.runTask id =
      if w.senders task.mailbox.channel = 0 then
        ((w.run task.mailbox).1.finish id).dropMailbox task.mailbox
      else (w.run task.mailbox).1 := by
  rw [runTask, htask]
  dsimp only
  rw [hunfinished, if_neg Bool.false_ne_true, run_eq, abandoned_eq]
  by_cases h : w.senders task.mailbox.channel = 0
  · simp only [h, decide_true, if_true]
    rfl
  · simp only [h, decide_false, if_false]
    rfl

theorem runTask_of_finished (h : ¬ ∃ task, w.tasks[id]? = some task ∧ task.finished = false) :
    w.runTask id = w := by
  unfold runTask
  cases htask : w.tasks[id]? with
  | none => rfl
  | some task =>
    have hfinished : task.finished = true := by
      rw [← Bool.not_eq_false]
      exact fun hunfinished => h ⟨task, htask, hunfinished⟩
    exact if_pos hfinished

theorem tasks_finished (w : World U) (m : Mailbox U) (id : Nat) :
    (((w.run m).1.finish id).dropMailbox m).tasks =
      w.tasks.modify id fun task => { task with finished := true } := by
  rw [dropMailbox, (alike_release _).tasks]
  exact congrArg (List.modify · id _) (tasks_run w m)

theorem queue_runTask (htask : w.tasks[id]? = some task) (hunfinished : task.finished = false)
    (c : Nat) :
    (w.runTask id).queue c = if task.mailbox.channel = c then [] else w.queue c := by
  have hfinish : ((w.run task.mailbox).1.finish id).queue = (w.run task.mailbox).1.queue := rfl
  rw [runTask_eq htask hunfinished]
  split
  · rw [queue_dropMailbox, hfinish, queue_run]
    split <;> rfl
  · exact queue_run w _ c

theorem queue_runTask_subset (w : World U) (id c : Nat) : (w.runTask id).queue c ⊆ w.queue c := by
  by_cases hturn : ∃ task, w.tasks[id]? = some task ∧ task.finished = false
  · obtain ⟨task, htask, hunfinished⟩ := hturn
    rw [queue_runTask htask hunfinished]
    split
    · exact List.nil_subset _
    · exact List.Subset.refl _
  · rw [runTask_of_finished hturn]
    exact List.Subset.refl _

theorem senders_runTask (w : World U) (id : Nat) : (w.runTask id).senders = w.senders := by
  rcases runTask_cases w id with h | ⟨task, -, -, h | h⟩
  · rw [h]
  · rw [h, (steady_run w _).senders]
  · rw [h, (steady_dropMailbox _ _).senders]
    exact (steady_run w _).senders

/-- A task is finished by its turn exactly when no sender of its mailbox is left. -/
theorem task_runTask (htask : w.tasks[id]? = some task) (hunfinished : task.finished = false) :
    (w.runTask id).tasks[id]? =
      some { task with finished := decide (w.senders task.mailbox.channel = 0) } := by
  rw [runTask_eq htask hunfinished]
  split
  · next h => simp [tasks_finished, htask, h]
  · next h =>
    obtain ⟨mailbox, finished⟩ := task
    obtain rfl : finished = false := hunfinished
    rw [tasks_run, htask, decide_eq_false h]

theorem tasks_runTask_other (hne : id ≠ id') : (w.runTask id).tasks[id']? = w.tasks[id']? := by
  rcases runTask_cases w id with h | ⟨task, -, -, h | h⟩
  · rw [h]
  · rw [h, tasks_run]
  · rw [h, tasks_finished, List.getElem?_modify_ne _ _ hne]

theorem length_tasks_runTask (w : World U) (id : Nat) :
    (w.runTask id).tasks.length = w.tasks.length := by
  rcases runTask_cases w id with h | ⟨task, -, -, h | h⟩
  · rw [h]
  · rw [h, tasks_run]
  · rw [h, tasks_finished, List.length_modify]

theorem lone_runTask (hlone : w.taskDrains.Nodup) (id : Nat) : (w.runTask id).taskDrains.Nodup := by
  rcases runTask_cases w id with h | ⟨task, htask, hunfinished, h | h⟩
  · rw [h]
    exact hlone
  · rw [h, taskDrains, tasks_run]
    exact hlone
  · have hdrained : task.drained? = some task.mailbox.channel := by
      rw [Task.drained?, hunfinished]
      rfl
    have hperm := perm_filterMap_modify (g := fun task => { task with finished := true }) hdrained
      rfl htask
    rw [h, taskDrains, tasks_finished]
    exact (List.nodup_cons.1 (hperm.nodup_iff.1 hlone)).2

/-- A turn leaves a task with nothing to do. -/
theorem Alert.runTask (hw : w.Alert (id :: ids)) : (w.runTask id).Alert ids := by
  have hknown := (List.forall_mem_cons.1 hw.known).2
  refine ⟨lone_runTask hw.lone id, (List.nodup_cons.1 hw.once).2, ?_,
    fun id' task' htask' hunfinished' hid' => ?_⟩
  · rw [length_tasks_runTask]
    exact hknown
  · by_cases hturn : ∃ task, w.tasks[id]? = some task ∧ task.finished = false
    · obtain ⟨task, htask, hunfinished⟩ := hturn
      by_cases hne : id = id'
      · subst hne
        rw [task_runTask htask hunfinished] at htask'
        obtain rfl := Option.some.inj htask'
        constructor
        · rw [queue_runTask htask hunfinished, if_pos rfl]
        · rw [senders_runTask]
          simpa using hunfinished'
      · rw [tasks_runTask_other hne] at htask'
        have hidle := hw.idle id' task' htask' hunfinished' (by simp [Ne.symm hne, hid'])
        exact hidle.mono (senders_runTask w id) (queue_runTask_subset w id _)
    · rw [runTask_of_finished hturn] at htask' ⊢
      refine hw.idle id' task' htask' hunfinished' fun hmem => ?_
      rcases List.mem_cons.1 hmem with rfl | hmem
      · exact hturn ⟨task', htask', hunfinished'⟩
      · exact hid' hmem

/-! ## All turns -/

theorem tasks_foldl_runTask (hid : id ∉ ids) :
    (ids.foldl World.runTask w).tasks[id]? = w.tasks[id]? := by
  induction ids generalizing w with
  | nil => rfl
  | cons first rest ih =>
    rw [List.mem_cons, not_or] at hid
    rw [List.foldl_cons, ih hid.2, tasks_runTask_other (Ne.symm hid.1)]

theorem senders_foldl_runTask (w : World U) (ids : List Nat) :
    (ids.foldl World.runTask w).senders = w.senders :=
  foldl_runTask (P := fun v => v.senders = w.senders)
    (fun v id hv => (senders_runTask v id).trans hv) rfl

theorem queue_foldl_runTask_subset (w : World U) (ids : List Nat) (c : Nat) :
    (ids.foldl World.runTask w).queue c ⊆ w.queue c :=
  foldl_runTask (P := fun v => v.queue c ⊆ w.queue c)
    (fun v id hv => List.Subset.trans (queue_runTask_subset v id c) hv) (List.Subset.refl _)

theorem Alert.foldl_runTask (hw : w.Alert (ids ++ rest)) :
    (ids.foldl World.runTask w).Alert rest := by
  induction ids generalizing w with
  | nil => exact hw
  | cons id ids ih => exact ih (Alert.runTask hw)

/-- A task that waits for its turn finds its queue as it was. -/
theorem Alert.queue_foldl_runTask (hw : w.Alert (ids ++ rest)) (htask : w.tasks[id]? = some task)
    (hunfinished : task.finished = false) (hid : id ∉ ids) :
    (ids.foldl World.runTask w).queue task.mailbox.channel = w.queue task.mailbox.channel := by
  induction ids generalizing w with
  | nil => rfl
  | cons first ids ih =>
    rw [List.mem_cons, not_or] at hid
    have hnext : (w.runTask first).tasks[id]? = some task := by
      rw [tasks_runTask_other (Ne.symm hid.1), htask]
    rw [List.foldl_cons, ih (Alert.runTask hw) hnext hid.2]
    by_cases hturn : ∃ task, w.tasks[first]? = some task ∧ task.finished = false
    · obtain ⟨other, hother, hunfinished'⟩ := hturn
      rw [queue_runTask hother hunfinished', if_neg]
      exact hw.channel_ne hother hunfinished' htask hunfinished (Ne.symm hid.1)
    · rw [runTask_of_finished hturn]

end World

end Relay
