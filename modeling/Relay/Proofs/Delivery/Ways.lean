import Relay.Proofs.Delivery.Senders

/-!
# Ways of draining

Items come to be handled in four ways: a mailbox is pumped, it is driven once, a task that has it
gets a turn, or frames come out of a source that is served.  All four handle every item that is
there, in order, the bad ones like the good ones, and what comes of the items does not depend on the
way (`World.Drained`).

The ways differ in how they end.  A pump ends when nothing waits, and says nothing.  A mailbox that
is driven, by hand or in a task, ends with one event when no sender is left, and waits otherwise.
Serving ends with one event when the source closes or fails, and tells which.
-/

namespace Relay

variable {U : Universe}

namespace World

variable {w v u : World U} {id : Nat} {name : String} {d : Dispatcher U}
  {items items' : List (Item U)} {closing : List Event} {task : Task U} {m : Mailbox U}

/-! ## One way -/

/-- Between two worlds a dispatcher handles items, all in order and with its receiver as live as at
the start: what comes of them is noted, the closing events follow, and the receiver gets the calls.
No other receiver gets any. -/
structure Drained (w v : World U) (d : Dispatcher U) (items : List (Item U))
    (closing : List Event) : Prop where
  log : v.log = w.log ++
    (items.map (d.surface.handle (w.resolves d.hold))).flatMap Handling.events ++ closing
  calls : ∀ id, v.callsOf id = w.callsOf id ++
    if id = d.hold.receiver then
      (items.map (d.surface.handle (w.resolves d.hold))).filterMap Handling.call
    else []

theorem drained_handled (w : World U) (d : Dispatcher U) (items : List (Item U)) :
    w.Drained (w.handled d.hold.receiver (items.map (d.surface.handle (w.resolves d.hold)))) d items
      [] := by
  refine ⟨(List.append_nil _).symm, fun id => ?_⟩
  simp only [callsOf, handled, modifyReceiver, List.getElem?_modify]
  by_cases hid : id = d.hold.receiver
  · subst hid
    cases hreceiver : w.receivers[d.hold.receiver]? with
    | some r => simp
    | none =>
      -- A receiver that is not there is not live, so there are no calls.
      have hgone : w.resolves d.hold = false := by
        simp [resolves, isLive, hreceiver]
      have hcalls : (items.map (d.surface.handle false)).filterMap Handling.call = [] := by
        rw [List.filterMap_map, List.filterMap_eq_nil_iff]
        exact fun item _ => Surface.handle_gone _ item
      simp [hgone, hcalls]
  · rw [if_neg hid, List.append_nil]
    cases w.receivers[id]? <;> simp [Ne.symm hid]

theorem Drained.nil (w : World U) (d : Dispatcher U) : w.Drained w d [] [] := by
  have hhandled := drained_handled w d []
  rw [List.map_nil, handled_nil] at hhandled
  exact hhandled

theorem Drained.close (h : w.Drained v d items []) (hlog : u.log = v.log ++ closing)
    (hcalls : u.callsOf = v.callsOf) : w.Drained u d items closing := by
  refine ⟨?_, fun id => ?_⟩
  · rw [hlog, h.log, List.append_nil]
  · rw [hcalls, h.calls]

theorem Drained.append (h : w.Drained v d items [])
    (hlive : v.resolves d.hold = w.resolves d.hold) (h' : v.Drained u d items' closing) :
    w.Drained u d (items ++ items') closing := by
  refine ⟨?_, fun id => ?_⟩
  · rw [h'.log, h.log, hlive, List.map_append, List.flatMap_append, List.append_nil]
    simp only [List.append_assoc]
  · rw [h'.calls, h.calls, hlive, List.map_append, List.filterMap_append]
    split
    · rw [List.append_assoc]
    · rw [List.append_nil]

/-! ## Mailboxes -/

theorem drained_pump (w : World U) (m : Mailbox U) :
    w.Drained (w.pump m).1 m.dispatcher (w.queue m.channel) [] := by
  have hdrained := drained_handled (w.requeue m.channel []) m.dispatcher (w.queue m.channel)
  rw [pump_eq]
  exact ⟨hdrained.log, hdrained.calls⟩

/-- What a mailbox notes when it is driven and comes to its end, or does not. -/
def farewell (ended : Bool) : List Event := if ended then [.mailboxClosed] else []

theorem run_ended (w : World U) (m : Mailbox U) :
    (w.run m).2 = decide (w.senders m.channel = 0) := by
  rw [run_eq, ← abandoned_eq]
  cases w.abandoned m.channel <;> rfl

theorem drained_run (w : World U) (m : Mailbox U) :
    w.Drained (w.run m).1 m.dispatcher (w.queue m.channel) (farewell (w.run m).2) := by
  have hpump := drained_pump w m
  rw [run_eq]
  split
  · exact hpump.close rfl rfl
  · exact hpump

/-- A mailbox that goes takes nothing along that was noted or called. -/
theorem Drained.dropMailbox (h : w.Drained v d items closing) (m : Mailbox U) :
    w.Drained (v.dropMailbox m) d items closing := by
  refine ⟨?_, fun id => ?_⟩
  · rw [World.dropMailbox, log_release]
    exact h.log
  · rw [(quiet_dropMailbox v m).calls]
    exact h.calls id

theorem drained_runTask (htask : w.tasks[id]? = some task) (hunfinished : task.finished = false) :
    w.Drained (w.runTask id) task.mailbox.dispatcher (w.queue task.mailbox.channel)
      (farewell (decide (w.senders task.mailbox.channel = 0))) := by
  have hrun := drained_run w task.mailbox
  rw [← run_ended, runTask_eq htask hunfinished]
  split
  · have hfinish : w.Drained ((w.run task.mailbox).1.finish id) task.mailbox.dispatcher
        (w.queue task.mailbox.channel) (farewell (w.run task.mailbox).2) := ⟨hrun.log, hrun.calls⟩
    exact hfinish.dropMailbox _
  · exact hrun

/-! ## Sources -/

/-- What serving a source notes when it comes to its end. -/
def SourceEnd.events : SourceEnd → List Event
  | closed => [.sourceClosed]
  | pending => []
  | failed error => [.sourceFailed error]

/-- What a source gives is frames, and then that it closed or failed, or nothing more for now. -/
theorem exists_receptions (rs : List Reception) :
    ∃ (frames : List (List UInt8)) (ending : SourceEnd) (rest : List Reception),
      rs = frames.map .frame ++ (ending.receptions ++ rest) ∧ (ending = .pending → rest = []) := by
  induction rs with
  | nil => exact ⟨[], .pending, [], rfl, fun _ => rfl⟩
  | cons r rs ih =>
    cases r with
    | closed => exact ⟨[], .closed, rs, rfl, nofun⟩
    | failed error => exact ⟨[], .failed error, rs, rfl, nofun⟩
    | frame bytes =>
      obtain ⟨frames, ending, rest, rfl, hpending⟩ := ih
      exact ⟨bytes :: frames, ending, rest, rfl, hpending⟩

/-- A source is served up to where it closes or fails, or else as far as it goes. -/
theorem drained_serve {ending : SourceEnd} {rest : List Reception} (w : World U) (d : Dispatcher U)
    (frames : List (List UInt8)) (hpending : ending = .pending → rest = []) :
    (w.serve d (frames.map .frame ++ (ending.receptions ++ rest))).2 = ending ∧
      w.Drained (w.serve d (frames.map .frame ++ (ending.receptions ++ rest))).1 d
        (frames.map .frame) ending.events := by
  induction frames generalizing w with
  | nil =>
    have hnone := Drained.nil w d
    cases ending with
    | closed | failed error => exact ⟨rfl, hnone.close rfl rfl⟩
    | pending =>
      obtain rfl := hpending rfl
      exact ⟨rfl, hnone⟩
  | cons bytes frames ih =>
    obtain ⟨hending, hrest⟩ := ih (w.handle d (.frame bytes)).1
    have hfirst : w.Drained (w.handle d (.frame bytes)).1 d [.frame bytes] [] := by
      rw [handle_eq]
      exact drained_handled w d [.frame bytes]
    have hlive : (w.handle d (.frame bytes)).1.resolves d.hold = w.resolves d.hold := by
      rw [handle_eq, resolves_handled]
    exact ⟨hending, hfirst.append hlive hrest⟩

/-! ## Tasks -/

/-- The worlds before and after the turn of a task, when the ready tasks have their turns. -/
inductive Turn (w : World U) (id : Nat) : World U → World U → Prop
  | intro {before after : List Nat} (hready : w.ready = before ++ id :: after)
    (honce : id ∉ before ++ after) :
    Turn w id (before.foldl runTask { w with ready := [] })
      ((before.foldl runTask { w with ready := [] }).runTask id)

/-- A ready task finds its mailbox as it is now and leaves it empty; it finishes if no sender is
left. -/
theorem Staffed.turn (hw : w.Staffed []) (htask : w.tasks[id]? = some task)
    (hunfinished : task.finished = false) (hid : id ∈ w.ready) :
    (∃ u v, w.Turn id u v ∧
      u.Drained v task.mailbox.dispatcher (w.queue task.mailbox.channel)
        (farewell (decide (w.senders task.mailbox.channel = 0)))) ∧
    w.settle.tasks[id]? =
      some { task with finished := decide (w.senders task.mailbox.channel = 0) } ∧
    w.settle.queue task.mailbox.channel = [] := by
  obtain ⟨before, after, hready⟩ := List.append_of_mem hid
  have honce := hw.alert.once
  rw [hready, List.nodup_middle, List.nodup_cons] at honce
  have hnot := honce.1
  rw [List.mem_append, not_or] at hnot
  have hstart := hw.start
  rw [hready] at hstart
  have htask' := (tasks_foldl_runTask (w := { w with ready := [] }) hnot.1).trans htask
  have hqueue := hstart.queue_foldl_runTask htask hunfinished hnot.1
  have hsenders := senders_foldl_runTask { w with ready := [] } before
  have hturn := drained_runTask htask' hunfinished
  have hdone := task_runTask htask' hunfinished
  have hempty := queue_runTask htask' hunfinished task.mailbox.channel
  have hsettle : w.settle = after.foldl World.runTask
      ((before.foldl World.runTask { w with ready := [] }).runTask id) := by
    rw [World.settle, hready, List.foldl_append, List.foldl_cons]
  rw [hqueue, hsenders] at hturn
  rw [hsenders] at hdone
  rw [if_pos rfl] at hempty
  refine ⟨⟨_, _, .intro hready honce.1, hturn⟩, ?_, ?_⟩
  · rw [hsettle, tasks_foldl_runTask hnot.2]
    exact hdone
  · have hless := queue_foldl_runTask_subset
      ((before.foldl World.runTask { w with ready := [] }).runTask id) after task.mailbox.channel
    rw [hempty] at hless
    rw [hsettle]
    exact List.subset_nil.1 hless

/-- A task that is not ready has nothing to do, and stays as it is. -/
theorem Staffed.rest (hw : w.Staffed []) (htask : w.tasks[id]? = some task)
    (hunfinished : task.finished = false) (hid : id ∉ w.ready) :
    w.Idle task.mailbox.channel ∧ w.settle.tasks[id]? = some task ∧
      w.settle.queue task.mailbox.channel = [] := by
  have hidle := hw.alert.idle id task htask hunfinished hid
  refine ⟨hidle, (tasks_foldl_runTask hid).trans htask, ?_⟩
  have hless := queue_foldl_runTask_subset { w with ready := [] } w.ready task.mailbox.channel
  have hempty : ({ w with ready := [] } : World U).queue task.mailbox.channel = [] := hidle.empty
  rw [hempty] at hless
  exact List.subset_nil.1 hless

/-! ## Spawning -/

/-- A mailbox that is handed to a new task keeps what waits in it. -/
theorem Sound.queue_spawned (hw : w.Sound) (hm : w.mailbox? name = some m) (other : String)
    (t : Thing U) :
    (((w.forget name).spawn m).1.bind other t).queue m.channel = w.queue m.channel := by
  have hfind := mailbox?_eq_some.1 hm
  obtain ⟨items, hitems⟩ := Option.isSome_iff_exists.1 (hw.isOpen _ (mem_drains_of_mailbox hfind))
  have hspawned :
      (((w.forget name).spawn m).1.find? other).bind Thing.drained? ≠ some m.channel := by
    -- What gives way to the new name is not the mailbox, which is with its task.
    intro hdrained
    refine not_mem_drains_forget (hw.handOver hfind) hdrained (List.mem_append_right _ ?_)
    simp [World.forget, World.spawn, Task.drained?]
  have hkept : (((w.forget name).spawn m).1.bind other t).inbox? m.channel = some items := by
    rw [inbox?_bind, if_neg hspawned]
    exact hitems
  rw [queue_of_inbox? hkept, queue_of_inbox? hitems]

/-- When no other task is ready, a spawned mailbox has the only turn. -/
theorem settle_spawned {other : String} (hready : w.ready = []) (hnew : w.find? other = none)
    (name : String) (m : Mailbox U) :
    (((w.forget name).spawn m).1.bind other (.task id)).settle =
      ({ ((w.forget name).spawn m).1.update other (.task id) with ready := [] } : World U).runTask
        w.tasks.length := by
  have hfree : ((w.forget name).spawn m).1.find? other = none := by
    rw [find?_spawned, hnew]
    split <;> rfl
  have hbind : ((w.forget name).spawn m).1.bind other (.task id) =
      ((w.forget name).spawn m).1.update other (.task id) := by
    rw [bind, hfree]
  have hturns : (((w.forget name).spawn m).1.update other (.task id)).ready = [w.tasks.length] :=
    congrArg (· ++ [w.tasks.length]) hready
  rw [hbind, World.settle, hturns]
  rfl

theorem drained_spawned {other : String} (hready : w.ready = []) (hnew : w.find? other = none)
    (name : String) (m : Mailbox U) {v : World U}
    (hv : v = (((w.forget name).spawn m).1.bind other (.task w.tasks.length)).settle) :
    v.find? other = some (.task w.tasks.length) ∧
      v.tasks[w.tasks.length]? = some ⟨m, decide (w.senders m.channel = 0)⟩ ∧
      w.Drained v m.dispatcher (w.queue m.channel)
        (farewell (decide (w.senders m.channel = 0))) ∧
      v.queue m.channel = [] := by
  rw [settle_spawned hready hnew] at hv
  generalize hstart : ({ ((w.forget name).spawn m).1.update other (.task w.tasks.length) with
    ready := [] } : World U) = start at hv
  have htask : start.tasks[w.tasks.length]? = some ⟨m, false⟩ := by
    rw [← hstart]
    exact List.getElem?_concat_length
  have hfind : start.find? other = some (.task w.tasks.length) := by
    rw [← hstart]
    exact (find?_update _ _ _ _).trans (if_pos rfl)
  have hsenders : start.senders = w.senders := by
    rw [← hstart]
    rfl
  have hdone := task_runTask htask rfl
  have hturn := drained_runTask htask rfl
  have hempty := queue_runTask htask rfl m.channel
  rw [hsenders] at hdone hturn
  rw [if_pos rfl] at hempty
  rw [hv]
  refine ⟨?_, hdone, ?_, hempty⟩
  · rw [World.find?, things_runTask]
    exact hfind
  · -- Handing the mailbox over changes neither what waits in it nor the receivers.
    rw [← hstart] at hturn ⊢
    exact ⟨hturn.log, hturn.calls⟩

/-! ## All ways -/

/-- However a mailbox or a source is drained, every item is handled; and when which way ends. -/
structure DrainsAlike (w : World U) : Prop where
  pump : ∀ {name : String} {m : Mailbox U}, w.mailbox? name = some m →
    ∃ v, w.answer (.pump name) = some (v, .outcomes ((w.queue m.channel).map fun item =>
        (m.dispatcher.surface.handle (w.resolves m.dispatcher.hold) item).outcome)) ∧
      w.Drained v m.dispatcher (w.queue m.channel) [] ∧ v.queue m.channel = []
  run : ∀ {name : String} {m : Mailbox U}, w.mailbox? name = some m →
    ∃ v ended, w.answer (.run name) = some (v, .flag ended) ∧
      w.Drained v m.dispatcher (w.queue m.channel) (farewell ended) ∧
      (ended = true ↔ w.Unfed m.channel)
  /-- A task that is the only one with something to do. -/
  spawned : ∀ {name other : String} {m : Mailbox U}, w.mailbox? name = some m →
    w.find? other = none → w.ready = [] →
    ∃ u v id ended, w.answer (.spawn name other) = some (u, .done) ∧
      u.answer .settle = some (v, .done) ∧ v.find? other = some (.task id) ∧
      v.tasks[id]? = some ⟨m, ended⟩ ∧
      w.Drained v m.dispatcher (w.queue m.channel) (farewell ended) ∧
      (ended = true ↔ w.Unfed m.channel) ∧ v.queue m.channel = []
  /-- A mailbox that is handed to a task keeps what waits in it. -/
  spawn : ∀ {name : String} {m : Mailbox U}, w.mailbox? name = some m → ∀ other,
    ∃ v id, w.answer (.spawn name other) = some (v, .done) ∧ v.find? other = some (.task id) ∧
      v.tasks[id]? = some ⟨m, false⟩ ∧ w.Drained v m.dispatcher [] [] ∧
      v.queue m.channel = w.queue m.channel
  /-- Tasks that are run until none has anything to do: one that has nothing to do at the start gets
  no turn. -/
  settle : ∀ {id : Nat} {task : Task U}, w.tasks[id]? = some task → task.finished = false →
    ∃ v ended, w.answer .settle = some (v, .done) ∧
      v.tasks[id]? = some { task with finished := ended } ∧ v.queue task.mailbox.channel = [] ∧
      (ended = true ↔ w.Unfed task.mailbox.channel) ∧
      ((∃ u u', w.Turn id u u' ∧ u.Drained u' task.mailbox.dispatcher
          (w.queue task.mailbox.channel) (farewell ended)) ∨
        id ∉ w.ready ∧ w.queue task.mailbox.channel = [] ∧ ended = false)
  /-- What a source gives after it closed or failed is not looked at. -/
  source : ∀ (d : Dispatcher U) (rs : List Reception),
    ∃ (frames : List (List UInt8)) (ending : SourceEnd) (rest : List Reception),
      rs = frames.map .frame ++ (ending.receptions ++ rest) ∧ (ending = .pending → rest = []) ∧
      (w.serve d rs).2 = ending ∧
      w.Drained (w.serve d rs).1 d (frames.map .frame) ending.events
  serve : ∀ {hold : String} {h : Hold}, w.hold? hold = some h →
    ∀ (surface : Surface U) (frames : List (List UInt8)) (ending : SourceEnd),
      ∃ v refusal, w.answer (.serve surface hold frames ending) =
          some (v, .served ending refusal) ∧
        w.Drained v ⟨surface, h⟩ (frames.map .frame) ending.events

/-- All ways of draining handle the same items alike. -/
theorem Reachable.drains_alike (hw : w.Reachable) : w.DrainsAlike := by
  have hstaffed := hw.staffed
  have hsenders : ∀ c, decide (w.senders c = 0) = true ↔ w.Unfed c := by
    intro c
    rw [decide_eq_true_eq]
    exact hstaffed.senders_eq_zero
  constructor
  case pump =>
    intro name m hm
    refine ⟨(w.pump m).1, ?_, drained_pump w m, ?_⟩
    · simp only [answer, hm, Option.bind_eq_bind, Option.bind_some, pump_eq, handlings,
        List.map_map]
      rfl
    · rw [queue_pump_eq, if_pos rfl]
  case run =>
    intro name m hm
    have hforget := drained_run (w.forget name) m
    have hrun : w.Drained ((w.forget name).run m).1 m.dispatcher (w.queue m.channel)
        (farewell ((w.forget name).run m).2) := ⟨hforget.log, hforget.calls⟩
    refine ⟨((w.forget name).run m).1.dropMailbox m, ((w.forget name).run m).2, ?_, ?_, ?_⟩
    · simp only [answer, hm, Option.bind_eq_bind, Option.bind_some]
      rfl
    · exact hrun.dropMailbox m
    · rw [run_ended]
      exact hsenders m.channel
  case spawned =>
    intro name other m hm hnew hready
    obtain ⟨hfind, hdone, hdrained, hempty⟩ := drained_spawned hready hnew name m rfl
    refine ⟨_, _, w.tasks.length, _, ?_, rfl, hfind, hdone, hdrained, hsenders m.channel, hempty⟩
    simp only [answer, hm, Option.bind_eq_bind, Option.bind_some]
    rfl
  case spawn =>
    intro name m hm other
    refine ⟨((w.forget name).spawn m).1.bind other (.task w.tasks.length), w.tasks.length, ?_, ?_,
      ?_, ?_, hw.sound.queue_spawned hm other _⟩
    · simp only [answer, hm, Option.bind_eq_bind, Option.bind_some]
      rfl
    · rw [find?_bind, if_pos rfl]
    · rw [tasks_bind]
      exact List.getElem?_concat_length
    · refine (Drained.nil w m.dispatcher).close ?_ ?_
      · rw [log_bind, List.append_nil]
        rfl
      · exact (quiet_bind _ other _).calls
  case settle =>
    intro id task htask hunfinished
    refine ⟨w.settle, decide (w.senders task.mailbox.channel = 0), rfl, ?_⟩
    by_cases hid : id ∈ w.ready
    · obtain ⟨hturn, hdone, hempty⟩ := hstaffed.turn htask hunfinished hid
      exact ⟨hdone, hempty, hsenders _, .inl hturn⟩
    · obtain ⟨hidle, hdone, hempty⟩ := hstaffed.rest htask hunfinished hid
      have hwaits := decide_eq_false hidle.fed
      refine ⟨?_, hempty, hsenders _, .inr ⟨hid, hidle.empty, hwaits⟩⟩
      rw [hwaits, ← hunfinished]
      exact hdone
  case source =>
    intro d rs
    obtain ⟨frames, ending, rest, rfl, hpending⟩ := exists_receptions rs
    exact ⟨frames, ending, rest, rfl, hpending, drained_serve w d frames hpending⟩
  case serve =>
    intro hold h hh surface frames ending
    obtain ⟨hending, hdrained⟩ := drained_serve w ⟨surface, h⟩ frames (fun _ => rfl)
    rw [List.append_nil] at hending hdrained
    refine ⟨_, if ending = .pending then some channelClosed else none, ?_, hdrained⟩
    simp only [answer, hh, Option.bind_eq_bind, Option.bind_some, hending]
    rfl

end World

/-- A good item comes between two bad ones, and then the only sender goes. -/
def Sample.mixture : List (Request Sample.types) :=
  [.receiver "host", .hold "keep" "host" true,
    .localMailbox (.within Sample.greeter) "keep" "out" "box", .send "out" (.bare 99),
    .send "out" (.withArgs 2 (Sample.words "Ada")), .send "out" (.bare 2), .drop "out"]

open Sample in
theorem World.Reachable.drains_alike_mixture :
    ∃ (w v u : World types) (xs : List (Exchange types)), empty.perform mixture = some (w, xs) ∧
      w.answer (.pump "box") = some (v, .outcomes [.discarded (.unknownMethod 99), .delivered,
        .discarded (.malformed 2 (.argumentMismatch "(String,)"))]) ∧
      w.answer (.run "box") = some (u, .flag true) ∧ u.callsOf = v.callsOf ∧
      u.log = v.log ++ [.mailboxClosed] := by
  obtain ⟨⟨w, xs⟩, hperform⟩ : ∃ p, (empty : World types).perform mixture = some p :=
    Option.isSome_iff_exists.1 rfl
  have hm : w.mailbox? "box" = some ⟨0, .within greeter, ⟨0, true⟩⟩ := by
    cases hperform
    rfl
  have hways := World.Reachable.drains_alike ⟨xs, (Run.of_perform hperform).1⟩
  obtain ⟨v, hpump, hdrained, -⟩ := hways.pump hm
  obtain ⟨u, ended, hrun, hdrained', -⟩ := hways.run hm
  have hended : ended = true := by
    cases hperform
    cases hrun
    rfl
  subst hended
  refine ⟨w, v, u, xs, hperform, hpump.trans ?_, hrun, ?_, ?_⟩
  · cases hperform
    rfl
  · funext id
    rw [hdrained.calls, hdrained'.calls]
  · rw [hdrained.log, hdrained'.log, List.append_nil]
    rfl

end Relay
