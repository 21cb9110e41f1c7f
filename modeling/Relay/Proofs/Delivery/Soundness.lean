import Mathlib.Data.List.Nodup
import Relay.Proofs.Delivery.Requests

/-!
# Mailboxes have one owner

A channel is drained by at most one party, a name or an unfinished task, and as long as there is one
the channel is open.  A mailbox that is under a name therefore loses nothing to anyone else.

Each way of changing a world keeps this (one lemma for each, the requests by `Move`), so it holds of
every world that requests lead to.
-/

namespace Relay

variable {U : Universe}

namespace World

variable {w v : World U} {c : Nat} {name : String} {t : Thing U} {m : Mailbox U}

/-- The channels that the named mailboxes and the unfinished tasks drain. -/
def drains (w : World U) : List Nat :=
  (w.things.filterMap fun e => e.2.drained?) ++ w.tasks.filterMap Task.drained?

/-- A name stands for one thing, and a drained channel is open and has one party that drains it. -/
structure Sound (w : World U) : Prop where
  names : (w.things.map Prod.fst).Nodup
  drains : w.drains.Nodup
  isOpen : ∀ c ∈ w.drains, (w.inbox? c).isSome

theorem sound_empty : (empty : World U).Sound := ⟨.nil, .nil, nofun⟩

/-! ## Names that are taken away -/

theorem perm_of_lookup {α : Type} {xs : List (String × α)} {x : α}
    (hnames : (xs.map Prod.fst).Nodup) (h : xs.lookup name = some x) :
    xs.Perm ((name, x) :: xs.filter fun e => e.1 != name) := by
  induction xs with
  | nil => cases h
  | cons e rest ih =>
    obtain ⟨key, value⟩ := e
    rw [List.map_cons, List.nodup_cons] at hnames
    by_cases hkey : name = key
    · subst hkey
      obtain rfl : value = x := by simpa using h
      have hrest : (rest.filter fun e => e.1 != name) = rest := by
        rw [List.filter_eq_self]
        intro e he
        have hne : e.1 ≠ name := by
          intro heq
          exact hnames.1 (List.mem_map.2 ⟨e, he, heq⟩)
        simpa using hne
      rw [List.filter_cons_of_neg (by simp), hrest]
    · rw [List.lookup_cons, beq_false_of_ne hkey] at h
      rw [List.filter_cons_of_pos (by simpa using Ne.symm hkey)]
      exact ((ih hnames.2 h).cons _).trans (.swap _ _ _)

/-- What is read off the names comes from the thing under one of them and from the others. -/
theorem filterMap_things_perm {α : Type} (f : Thing U → Option α)
    (hnames : (w.things.map Prod.fst).Nodup) (name : String) :
    (w.things.filterMap fun e => f e.2).Perm
      (((w.find? name).bind f).toList ++ (w.forget name).things.filterMap fun e => f e.2) := by
  cases hfind : w.find? name with
  | none =>
    have hsame : (w.forget name).things = w.things := by
      rw [← things_drop, drop, hfind]
    rw [hsame]
    exact .refl _
  | some t =>
    refine ((perm_of_lookup hnames hfind).filterMap fun e => f e.2).trans ?_
    rw [List.filterMap_cons, Option.bind_some]
    cases f t <;> exact .refl _

theorem filterMap_things_update {α : Type} (f : Thing U → Option α) (w : World U) (name : String)
    (t : Thing U) : ((w.update name t).things.filterMap fun e => f e.2) =
      (f t).toList ++ (w.forget name).things.filterMap fun e => f e.2 := by
  simp only [update, forget, List.filterMap_cons]
  cases f t <;> rfl

/-- A name that is bound anew: what its old thing leaves loose goes when the thing is dropped. -/
theorem bind_of_update {α : Type} {P : List α → World U → Prop} {f : Thing U → Option α}
    {loose : List α} (hupdate : P (((w.find? name).bind f).toList ++ loose) (w.update name t))
    (hdrop : ∀ {t : Thing U} {v : World U}, P ((f t).toList ++ loose) v → P loose (v.dropThing t)) :
    P loose (w.bind name t) := by
  unfold bind
  dsimp only
  cases hold : w.find? name with
  | none =>
    rw [hold] at hupdate
    exact hupdate
  | some old =>
    rw [hold] at hupdate
    exact hdrop hupdate

theorem drop_of_forget {α : Type} {P : List α → World U → Prop} {f : Thing U → Option α}
    {loose : List α} (hforget : P (((w.find? name).bind f).toList ++ loose) (w.forget name))
    (hdrop : ∀ {t : Thing U} {v : World U}, P ((f t).toList ++ loose) v → P loose (v.dropThing t))
    (hw : P loose w) : P loose (w.drop name).1 := by
  unfold drop
  cases hold : w.find? name with
  | none => exact hw
  | some old =>
    rw [hold] at hforget
    exact hdrop hforget

theorem drains_update (w : World U) (name : String) (t : Thing U) :
    (w.update name t).drains = t.drained?.toList ++ (w.forget name).drains := by
  rw [World.drains, filterMap_things_update, List.append_assoc]
  rfl

theorem drains_forget_sublist (w : World U) (name : String) :
    (w.forget name).drains.Sublist w.drains :=
  (List.filter_sublist.filterMap _).append_right _

/-- A named mailbox accounts for one drained channel, the other names and tasks for the others. -/
theorem drains_perm (hw : w.Sound) (h : w.find? name = some t) :
    w.drains.Perm (t.drained?.toList ++ (w.forget name).drains) := by
  have hthings := filterMap_things_perm Thing.drained? hw.names name
  rw [h, Option.bind_some] at hthings
  rw [World.drains, World.drains, ← List.append_assoc]
  exact hthings.append_right _

theorem not_mem_drains_forget (hw : w.Sound) (h : (w.find? name).bind Thing.drained? = some c) :
    c ∉ (w.forget name).drains := by
  obtain ⟨t, ht, hdrained⟩ := Option.bind_eq_some_iff.1 h
  have hnodup := (drains_perm hw ht).nodup_iff.1 hw.drains
  rw [hdrained] at hnodup
  exact (List.nodup_cons.1 hnodup).1

theorem Sound.not_mem_forget (hw : w.Sound) (hm : w.find? name = some (.mailbox m)) :
    m.channel ∉ (w.forget name).drains := by
  apply not_mem_drains_forget hw
  rw [hm]
  rfl

theorem mem_drains_of_mailbox (hm : w.find? name = some (.mailbox m)) : m.channel ∈ w.drains := by
  obtain ⟨before, after, hthings, -⟩ := List.lookup_eq_some_iff.1 hm
  have hmem : (name, Thing.mailbox m) ∈ w.things := by
    rw [hthings]
    exact List.mem_append_right _ List.mem_cons_self
  exact List.mem_append_left _ (List.mem_filterMap.2 ⟨_, hmem, rfl⟩)

/-! ## One lemma for each change -/

namespace Sound

/-- Soundness depends on names, tasks and which drained channels are open. -/
theorem congr (hw : w.Sound) (hthings : v.things = w.things) (htasks : v.tasks = w.tasks)
    (hopen : ∀ c ∈ w.drains, (v.inbox? c).isSome) : v.Sound := by
  have hdrains : v.drains = w.drains := by rw [World.drains, World.drains, hthings, htasks]
  exact ⟨hthings ▸ hw.names, hdrains ▸ hw.drains, hdrains ▸ hopen⟩

theorem alike (hw : w.Sound) (h : w.Alike v) : v.Sound :=
  hw.congr h.things h.tasks (h.inbox? ▸ hw.isOpen)

theorem forget (hw : w.Sound) (name : String) : (w.forget name).Sound where
  names := hw.names.sublist (List.filter_sublist.map _)
  drains := hw.drains.sublist (drains_forget_sublist w name)
  isOpen := fun c hc => hw.isOpen c ((drains_forget_sublist w name).subset hc)

/-- A name can be given to a thing that drains nothing, or a channel that nobody drains yet. -/
theorem update (hw : w.Sound) (ht : ∀ c, t.drained? = some c → c ∉ w.drains ∧ (w.inbox? c).isSome)
    (name : String) : (w.update name t).Sound := by
  have hforget := hw.forget name
  have hsubset := (drains_forget_sublist w name).subset
  constructor
  · have hnew : name ∉ (w.forget name).things.map Prod.fst := by
      simp [World.forget]
    exact List.nodup_cons.2 ⟨hnew, hforget.names⟩
  · rw [drains_update]
    cases hdrained : t.drained? with
    | none => exact hforget.drains
    | some c => exact List.nodup_cons.2 ⟨fun hc => (ht c hdrained).1 (hsubset hc), hforget.drains⟩
  · rw [drains_update]
    intro c hc
    rcases List.mem_append.1 hc with hc | hc
    · exact (ht c (by simpa using hc)).2
    · exact hw.isOpen c (hsubset hc)

/-- Letting go of what a name stood for closes no channel that is still drained. -/
theorem bind (hw : w.Sound) (ht : ∀ c, t.drained? = some c → c ∉ w.drains ∧ (w.inbox? c).isSome)
    (name : String) : (w.bind name t).Sound := by
  have hupdate := hw.update ht name
  refine hupdate.congr (things_bind w name t) (tasks_bind w name t) fun c hc => ?_
  rw [inbox?_bind]
  split
  · next hold =>
    -- The channel closes, and the thing that is let go of was the only one to drain it.
    have hother := not_mem_drains_forget hw hold
    rw [drains_update] at hc
    obtain ⟨old, hfind, hdrained⟩ := Option.bind_eq_some_iff.1 hold
    have hmem : c ∈ w.drains := by
      rw [(drains_perm hw hfind).mem_iff, hdrained]
      exact List.mem_cons_self
    rcases List.mem_append.1 hc with hc | hc
    · exact absurd hmem (ht c (by simpa using hc)).1
    · exact absurd hc hother
  · exact hupdate.isOpen c hc

theorem drop (hw : w.Sound) (name : String) : (w.drop name).1.Sound := by
  refine (hw.forget name).congr (things_drop w name) (tasks_drop w name) fun c hc => ?_
  rw [inbox?_drop]
  split
  · next hold => exact absurd hc (not_mem_drains_forget hw hold)
  · exact (hw.forget name).isOpen c hc

theorem dropMailbox (hw : w.Sound) (hm : m.channel ∉ w.drains) : (w.dropMailbox m).Sound := by
  refine hw.congr (alike_release _).things (alike_release _).tasks fun c hc => ?_
  rw [inbox?_dropMailbox, if_neg (by rintro rfl; exact hm hc)]
  exact hw.isOpen c hc

theorem post (hw : w.Sound) (c : Nat) (item : Item U) : (w.post c item).1.Sound := by
  obtain ⟨hthings, htasks, -⟩ := post_names w c item
  refine hw.congr hthings htasks fun c' hc' => ?_
  rw [inbox?_post, Option.isSome_map]
  exact hw.isOpen c' hc'

theorem pump (hw : w.Sound) (m : Mailbox U) : (w.pump m).1.Sound := by
  refine hw.congr (things_pump w m) (tasks_pump w m) fun c hc => ?_
  rw [inbox?_pump, Option.isSome_map]
  exact hw.isOpen c hc

theorem run (hw : w.Sound) (m : Mailbox U) : (w.run m).1.Sound :=
  (hw.pump m).alike (alike_pump_run w m)

theorem spawn (hw : w.Sound) (hm : m.channel ∉ w.drains) (hopen : (w.inbox? m.channel).isSome) :
    (w.spawn m).1.Sound := by
  have hdrains : (w.spawn m).1.drains = w.drains ++ [m.channel] := by
    simp [World.drains, World.spawn, Task.drained?]
  refine ⟨hw.names, ?_, ?_⟩
  · rw [hdrains, List.nodup_append]
    refine ⟨hw.drains, List.nodup_singleton _, fun c hc c' hc' => ?_⟩
    rintro rfl
    exact hm (List.mem_singleton.1 hc' ▸ hc)
  · rw [hdrains]
    intro c hc
    rcases List.mem_append.1 hc with hc | hc
    · exact hw.isOpen c hc
    · exact List.mem_singleton.1 hc ▸ hopen

end Sound

/-! ## New mailboxes -/

theorem channels_acquire (w : World U) (h : Hold) : (w.acquire h).channels = w.channels := by
  unfold acquire
  split <;> rfl

theorem inbox?_openMailbox (w : World U) (surface : Surface U) (h : Hold) (c : Nat) :
    (w.openMailbox surface h).1.inbox? c =
      if c = (w.openMailbox surface h).2.channel then some [] else w.inbox? c := by
  simp only [openMailbox, inbox?_openChannel, (alike_acquire h).inbox?]
  rfl

theorem openMailbox_channel (w : World U) (surface : Surface U) (h : Hold) :
    (w.openMailbox surface h).2.channel = w.channels.length := by
  simp only [openMailbox, openChannel, channels_acquire]

theorem drains_openMailbox (w : World U) (surface : Surface U) (h : Hold) :
    (w.openMailbox surface h).1.drains = w.drains := by
  have hacquire : w.Alike (w.acquire h) := alike_acquire h
  rw [World.drains, World.drains, ← hacquire.things, ← hacquire.tasks]
  rfl

theorem Sound.lt_of_mem (hw : w.Sound) (hc : c ∈ w.drains) : c < w.channels.length := by
  obtain ⟨items, hitems⟩ := Option.isSome_iff_exists.1 (hw.isOpen c hc)
  exact inbox?_lt hitems

theorem Sound.not_mem_openMailbox (hw : w.Sound) (surface : Surface U) (h : Hold) :
    (w.openMailbox surface h).2.channel ∉ (w.openMailbox surface h).1.drains := by
  rw [drains_openMailbox, openMailbox_channel]
  intro hc
  exact Nat.lt_irrefl _ (hw.lt_of_mem hc)

theorem Sound.openMailbox (hw : w.Sound) (surface : Surface U) (h : Hold) :
    (w.openMailbox surface h).1.Sound := by
  have hacquire := hw.alike (alike_acquire h)
  refine hacquire.congr rfl rfl fun c hc => ?_
  rw [inbox?_openMailbox]
  split
  · rfl
  · exact hw.isOpen c ((drains_openMailbox w surface h) ▸ hc)

/-! ## Tasks -/

def finish (w : World U) (id : Nat) : World U :=
  { w with tasks := w.tasks.modify id fun t => { t with finished := true } }

theorem runTask_cases (w : World U) (id : Nat) :
    w.runTask id = w ∨ ∃ t, w.tasks[id]? = some t ∧ t.finished = false ∧
      (w.runTask id = (w.run t.mailbox).1 ∨
        w.runTask id = ((w.run t.mailbox).1.finish id).dropMailbox t.mailbox) := by
  unfold runTask
  cases htask : w.tasks[id]? with
  | none => exact .inl rfl
  | some t =>
    dsimp only
    by_cases hfinished : t.finished = true
    · rw [if_pos hfinished]
      exact .inl rfl
    · right
      refine ⟨t, rfl, by simpa using hfinished, ?_⟩
      rw [if_neg hfinished]
      cases hrun : w.run t.mailbox with
      | mk u ended =>
        cases ended with
        | true => exact .inr rfl
        | false => exact .inl rfl

theorem perm_filterMap_modify {α β : Type} {f : α → Option β} {g : α → α} {x : α} {y : β}
    (hx : f x = some y) (hg : f (g x) = none) {xs : List α} {i : Nat} (hi : xs[i]? = some x) :
    (xs.filterMap f).Perm (y :: (xs.modify i g).filterMap f) := by
  induction xs generalizing i with
  | nil => cases hi
  | cons x' rest ih =>
    cases i with
    | zero =>
      obtain rfl : x' = x := by simpa using hi
      simp [hx, hg]
    | succ i =>
      have hrest := ih (i := i) (by simpa using hi)
      simp only [List.modify_succ_cons, List.filterMap_cons]
      cases f x' with
      | none => exact hrest
      | some y' => exact (hrest.cons y').trans (.swap _ _ _)

theorem drains_finish {task : Task U} {id : Nat} (htask : w.tasks[id]? = some task)
    (hfinished : task.finished = false) :
    w.drains.Perm (task.mailbox.channel :: (w.finish id).drains) := by
  have hdrained : task.drained? = some task.mailbox.channel := by
    rw [Task.drained?, hfinished]
    rfl
  have htasks := perm_filterMap_modify (g := fun t => { t with finished := true }) hdrained rfl
    htask
  exact (htasks.append_left _).trans List.perm_middle

theorem Sound.finish (hw : w.Sound) {task : Task U} {id : Nat}
    (htask : w.tasks[id]? = some task) (hfinished : task.finished = false) :
    (w.finish id).Sound ∧ task.mailbox.channel ∉ (w.finish id).drains := by
  have hperm := drains_finish htask hfinished
  have hnodup := List.nodup_cons.1 (hperm.nodup_iff.1 hw.drains)
  refine ⟨⟨hw.names, hnodup.2, fun c hc => ?_⟩, hnodup.1⟩
  exact hw.isOpen c (hperm.mem_iff.2 (List.mem_cons_of_mem _ hc))

theorem Sound.runTask (hw : w.Sound) (id : Nat) : (w.runTask id).Sound := by
  rcases runTask_cases w id with h | ⟨task, htask, hfinished, h | h⟩
  · rw [h]
    exact hw
  · rw [h]
    exact hw.run task.mailbox
  · rw [h]
    obtain ⟨hsound, hother⟩ := (hw.run task.mailbox).finish ((tasks_run w _).symm ▸ htask) hfinished
    exact hsound.dropMailbox hother

theorem things_runTask (w : World U) (id : Nat) : (w.runTask id).things = w.things := by
  rcases runTask_cases w id with h | ⟨task, -, -, h | h⟩
  · rw [h]
  · rw [h, things_run]
  · rw [h, dropMailbox, (alike_release _).things]
    exact things_run w task.mailbox

/-- A task touches no channel that a name drains. -/
theorem inbox?_runTask (hw : w.Sound) (hm : w.find? name = some (.mailbox m)) (id : Nat) :
    (w.runTask id).inbox? m.channel = w.inbox? m.channel := by
  rcases runTask_cases w id with h | ⟨task, htask, hfinished, h⟩
  · rw [h]
  · have hother : task.mailbox.channel ≠ m.channel := by
      intro heq
      have hfinish := (hw.finish htask hfinished).2
      exact hfinish (heq ▸ mem_drains_of_mailbox (w := w.finish id) hm)
    rcases h with h | h
    · rw [h, inbox?_run]
      simp [hother]
    · rw [h, inbox?_dropMailbox, if_neg hother]
      change (w.run task.mailbox).1.inbox? m.channel = _
      rw [inbox?_run]
      simp [hother]

theorem foldl_runTask {P : World U → Prop} (hstep : ∀ w id, P w → P (w.runTask id))
    {ids : List Nat} (hw : P w) : P (ids.foldl World.runTask w) := by
  induction ids generalizing w with
  | nil => exact hw
  | cons id rest ih => exact ih (hstep w id hw)

theorem things_settle (w : World U) : w.settle.things = w.things :=
  foldl_runTask (P := fun v => v.things = w.things)
    (fun v id hv => (things_runTask v id).trans hv) rfl

theorem Sound.settle (hw : w.Sound) : w.settle.Sound :=
  foldl_runTask (fun _ id hv => hv.runTask id) (hw.congr rfl rfl hw.isOpen)

theorem inbox?_settle (hw : w.Sound) (hm : w.find? name = some (.mailbox m)) :
    w.settle.inbox? m.channel = w.inbox? m.channel := by
  have hstep : ∀ (v : World U) id,
      (v.Sound ∧ v.find? name = some (.mailbox m) ∧ v.inbox? m.channel = w.inbox? m.channel) →
      (v.runTask id).Sound ∧ (v.runTask id).find? name = some (.mailbox m) ∧
        (v.runTask id).inbox? m.channel = w.inbox? m.channel := by
    rintro v id ⟨hsound, hfind, hinbox⟩
    refine ⟨hsound.runTask id, ?_, (inbox?_runTask hsound hfind id).trans hinbox⟩
    rw [find?, things_runTask]
    exact hfind
  have hstart : ({ w with ready := [] } : World U).Sound := hw.congr rfl rfl hw.isOpen
  exact (foldl_runTask hstep ⟨hstart, hm, rfl⟩).2.2

/-! ## Every request -/

theorem Sound.carried {s s' : RemoteSender} {attempt : Attempt} (hw : w.Sound)
    (h : w.Carried s attempt v s') : v.Sound := by
  cases h with
  | posted hlink hbytes hopen => exact hw.post _ _
  | failed hrefusal => exact hw.alike (alike_note _)

theorem drained?_withSender (t : Thing U) (s : RemoteSender) :
    (t.withSender s).drained? = t.drained? := by
  cases t <;> rfl

/-- A new mailbox can be given to a task right after it was opened. -/
theorem Sound.openTask (hw : w.Sound) (surface : Surface U) (h : Hold) :
    ((w.openMailbox surface h).1.spawn (w.openMailbox surface h).2).1.Sound := by
  apply (hw.openMailbox surface h).spawn (hw.not_mem_openMailbox surface h)
  rw [inbox?_openMailbox, if_pos rfl]
  rfl

theorem Sound.handOver (hw : w.Sound) (hm : w.find? name = some (.mailbox m)) :
    ((w.forget name).spawn m).1.Sound :=
  (hw.forget name).spawn (hw.not_mem_forget hm) (hw.isOpen _ (mem_drains_of_mailbox hm))

/-- A new mailbox can be given to a name right after it was opened. -/
theorem Sound.opened (hw : w.Sound) {name mailbox : String} {surface : Surface U} {h : Hold}
    (ht : t.drained? = none) :
    (((w.openMailbox surface h).1.bind name t).bind mailbox
      (.mailbox (w.openMailbox surface h).2)).Sound := by
  have hopened := hw.openMailbox surface h
  have hnew := hw.not_mem_openMailbox surface h
  have hbound := hopened.bind (t := t) (by simp [ht]) name
  refine hbound.bind ?_ mailbox
  rintro c ⟨⟩
  have hdrains : ((w.openMailbox surface h).1.bind name t).drains =
      ((w.openMailbox surface h).1.forget name).drains := by
    rw [World.drains, things_bind, tasks_bind]
    exact (drains_update _ _ _).trans (by rw [ht]; rfl)
  constructor
  · rw [hdrains]
    exact fun hc => hnew ((drains_forget_sublist _ _).subset hc)
  · rw [inbox?_bind, inbox?_openMailbox]
    split
    · next hold =>
      obtain ⟨old, hfind, hdrained⟩ := Option.bind_eq_some_iff.1 hold
      have hmem := (drains_perm hopened hfind).mem_iff.2
        (List.mem_append_left _ (by rw [hdrained]; exact List.mem_cons_self))
      exact absurd hmem hnew
    · simp

theorem Move.sound {r : Request U} {a : Answer U} (h : w.Move r v a) (hw : w.Sound) :
    v.Sound := by
  cases h with
  | still hr hv => exact hw.alike hv.alike
  | bound hr hv => exact (hw.alike hv.alike).bind (by simp [hv.drained?]) _
  | opened hr hh ht => exact hw.opened ht.drained?
  | openedTask hr hh ht => exact (hw.openTask _ _).bind (by simp [ht.drained?]) _
  | dropped => exact hw.drop _
  | posted hr ht hoffer hattempt hv => exact (hw.post _ _).alike hv.alike
  | severed hr ht hoffer hattempt => exact hw
  | carried hr ht hs hattempt hv =>
    refine (hw.carried hv).update ?_ _
    simp [drained?_withSender, drained?_of_sender? hs]
  | pumped hm => exact hw.pump _
  | @ran name m hm =>
    have hother := hw.not_mem_forget (mailbox?_eq_some.1 hm)
    have hdrains : ((w.forget name).run m).1.drains = (w.forget name).drains := by
      rw [World.drains, things_run, tasks_run, World.drains]
    exact ((hw.forget name).run m).dropMailbox (hdrains ▸ hother)
  | spawned hm =>
    refine (hw.handOver (mailbox?_eq_some.1 hm)).bind ?_ _
    intro c hc
    cases hc
  | settled => exact hw.settle

end World

end Relay
