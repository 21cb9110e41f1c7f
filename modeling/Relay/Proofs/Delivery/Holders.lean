import Mathlib.Data.List.Count
import Relay.Proofs.Delivery.Mailboxes

/-!
# What holds a receiver

A receiver counts the parties that keep it alive.  Here the parties are counted from outside: the
names and the unfinished tasks of a world stand for holds, and the count of a receiver is the number
of owning holds on it among them.

In the middle of a request a hold can be on its way, taken but not yet put under a name, or taken
from a name but not yet let go of.  So the equation is kept for the holds of the world together with
a list of loose ones (`World.Tallied`), and each operation either moves a hold into or out of that
list or leaves both sides alone.  A receiver that nobody keeps alive can be acquired by nobody
either, so the same lemmas say that it stays as it is.
-/

namespace Relay

variable {U : Universe}

/-! ## Holds -/

/-- The hold on a receiver that a thing comes with. -/
def Thing.hold? : Thing U → Option Hold
  | .receiver id => some ⟨id, true⟩
  | .hold h => some h
  | .mailbox m => some m.dispatcher.hold
  | _ => none

/-- The hold of a task as long as it is not finished. -/
def Task.hold? (t : Task U) : Option Hold :=
  if t.finished then none else some t.mailbox.dispatcher.hold

namespace World

variable {w v o : World U} {loose : List Hold} {h : Hold} {name : String} {t : Thing U}
  {m : Mailbox U} {id : Nat}

/-- The holds of the names and of the unfinished tasks. -/
def holds (w : World U) : List Hold :=
  (w.things.filterMap fun e => e.2.hold?) ++ w.tasks.filterMap Task.hold?

/-- The hold that comes with the thing under a name. -/
def heldBy (w : World U) (name : String) : List Hold := ((w.find? name).bind Thing.hold?).toList

def strength (w : World U) (id : Nat) : Nat := (w.receivers[id]?.map Receiver.strong).getD 0

theorem isLive_eq (w : World U) (id : Nat) : w.isLive id = decide (0 < w.strength id) := by
  unfold isLive strength
  cases w.receivers[id]? with
  | none => rfl
  | some r => rfl

theorem strength_of_gone {r : Receiver U} (hr : w.receivers[id]? = some r) (hgone : r.strong = 0) :
    w.strength id = 0 := by
  rw [strength, hr]
  exact hgone

/-- Every receiver counts the owning holds on it, those of the world and the loose ones; holds are
on receivers that are there; and what nobody kept alive in an earlier world is as it was. -/
structure Tallied (o w : World U) (loose : List Hold) : Prop where
  names : (w.things.map Prod.fst).Nodup
  strength : ∀ id, w.strength id = (loose ++ w.holds).count ⟨id, true⟩
  known : ∀ h ∈ loose ++ w.holds, h.receiver < w.receivers.length
  gone : ∀ (id : Nat) (r : Receiver U), o.receivers[id]? = some r → r.strong = 0 →
    w.receivers[id]? = some r

theorem Tallied.congr (hw : Tallied o w loose) (hthings : v.things = w.things)
    (htasks : v.tasks = w.tasks) (hreceivers : v.receivers = w.receivers) :
    Tallied o v loose := by
  have hholds : v.holds = w.holds := by rw [holds, holds, hthings, htasks]
  have hstrength : v.strength = w.strength := by
    funext id
    rw [World.strength, World.strength, hreceivers]
  constructor
  · rw [hthings]
    exact hw.names
  · rw [hholds, hstrength]
    exact hw.strength
  · rw [hholds, hreceivers]
    exact hw.known
  · rw [hreceivers]
    exact hw.gone

theorem Tallied.perm {loose' : List Hold} (hw : Tallied o w loose)
    (hthings : (v.things.map Prod.fst).Nodup) (hreceivers : v.receivers = w.receivers)
    (hholds : (loose ++ w.holds).Perm (loose' ++ v.holds)) : Tallied o v loose' := by
  refine ⟨hthings, fun id => ?_, fun h hh => ?_, ?_⟩
  · rw [← hholds.count_eq, ← hw.strength, World.strength, World.strength, hreceivers]
  · rw [hreceivers]
    exact hw.known h (hholds.mem_iff.2 hh)
  · rw [hreceivers]
    exact hw.gone

theorem Tallied.isLive_iff (hw : Tallied o w loose) :
    w.isLive id ↔ (⟨id, true⟩ : Hold) ∈ loose ++ w.holds := by
  rw [isLive_eq, decide_eq_true_eq, hw.strength, List.count_pos_iff]

/-! ## Receivers -/

theorem exists_of_isLive (h : w.isLive id) : ∃ r, w.receivers[id]? = some r := by
  cases hr : w.receivers[id]? with
  | none => simp [isLive, hr] at h
  | some r => exact ⟨r, rfl⟩

/-- The count of a live receiver changes, and the holds that are loose with it. -/
theorem Tallied.modifyStrong {loose' : List Hold} {f : Nat → Nat} (hw : Tallied o w loose)
    (hlive : w.isLive id) (hknown : ∀ h ∈ loose' ++ w.holds, h.receiver < w.receivers.length)
    (hcount : ∀ id', (loose' ++ w.holds).count ⟨id', true⟩ =
      if id = id' then f ((loose ++ w.holds).count ⟨id', true⟩)
      else (loose ++ w.holds).count ⟨id', true⟩) :
    Tallied o (w.modifyReceiver id fun r => { r with strong := f r.strong }) loose' := by
  obtain ⟨r, hr⟩ := exists_of_isLive hlive
  refine ⟨hw.names, fun id' => ?_, ?_, fun id' r' hr' hgone => ?_⟩
  · change _ = (loose' ++ w.holds).count _
    rw [hcount, ← hw.strength]
    simp only [World.strength, modifyReceiver, List.getElem?_modify]
    by_cases heq : id = id'
    · subst heq
      simp [hr]
    · simp [heq]
  · simp only [modifyReceiver, List.length_modify]
    exact hknown
  · -- The receiver is live, so it is none of those that are gone.
    have hsame := hw.gone id' r' hr' hgone
    have hne : id ≠ id' := by
      rintro rfl
      rw [isLive_eq, strength_of_gone hsame hgone] at hlive
      cases hlive
    simp only [modifyReceiver, List.getElem?_modify, hsame, if_neg hne]
    rfl

theorem Tallied.acquire (hw : Tallied o w loose) (hknown : h.receiver < w.receivers.length)
    (hlive : h.owned = true → w.isLive h.receiver) : Tallied o (w.acquire h) (h :: loose) := by
  have hall : ∀ h' ∈ (h :: loose) ++ w.holds, h'.receiver < w.receivers.length := by
    rw [List.cons_append, List.forall_mem_cons]
    exact ⟨hknown, hw.known⟩
  obtain ⟨id, owned⟩ := h
  cases owned with
  | false =>
    have hsame : w.acquire ⟨id, false⟩ = w := rfl
    rw [hsame]
    refine ⟨hw.names, fun id' => ?_, hall, hw.gone⟩
    rw [hw.strength, List.cons_append, List.count_cons_of_ne (by simp)]
  | true =>
    refine hw.modifyStrong (f := fun n => n + 1) (hlive rfl) hall fun id' => ?_
    rw [List.cons_append, List.count_cons]
    by_cases heq : id = id' <;> simp [heq]

theorem Tallied.release (hw : Tallied o w (h :: loose)) : Tallied o (w.release h) loose := by
  have hknown : ∀ h' ∈ loose ++ w.holds, h'.receiver < w.receivers.length := by
    intro h' hh'
    exact hw.known h' (List.mem_cons_of_mem _ hh')
  obtain ⟨id, owned⟩ := h
  cases owned with
  | false =>
    have hsame : w.release ⟨id, false⟩ = w := rfl
    rw [hsame]
    refine ⟨hw.names, fun id' => ?_, hknown, hw.gone⟩
    rw [hw.strength, List.cons_append, List.count_cons_of_ne (by simp)]
  | true =>
    have hlive : w.isLive id := hw.isLive_iff.2 List.mem_cons_self
    refine hw.modifyStrong (f := fun n => n - 1) hlive hknown fun id' => ?_
    rw [List.cons_append, List.count_cons]
    by_cases heq : id = id' <;> simp [heq]

theorem Tallied.addReceiver (hw : Tallied o w loose) :
    Tallied o w.addReceiver.1 (⟨w.addReceiver.2, true⟩ :: loose) := by
  have hholds : w.addReceiver.1.holds = w.holds := rfl
  have hreceivers : w.addReceiver.1.receivers = w.receivers ++ [⟨1, []⟩] := rfl
  have hnew : w.addReceiver.2 = w.receivers.length := rfl
  refine ⟨hw.names, fun id => ?_, ?_, fun id r hr hgone => ?_⟩
  · rw [hholds, hnew, List.cons_append, List.count_cons, ← hw.strength]
    simp only [World.strength, hreceivers]
    rcases Nat.lt_trichotomy id w.receivers.length with hlt | rfl | hgt
    · rw [List.getElem?_append_left hlt]
      simp [Nat.ne_of_gt hlt]
    · simp
    · rw [List.getElem?_eq_none (by simp; omega), List.getElem?_eq_none (Nat.le_of_lt hgt)]
      simp [Nat.ne_of_lt hgt]
  · rw [hholds, hreceivers, hnew, List.cons_append, List.forall_mem_cons, List.length_append]
    refine ⟨Nat.lt_succ_self _, fun h hh => ?_⟩
    exact Nat.lt_succ_of_lt (hw.known h hh)
  · have hsame := hw.gone id r hr hgone
    rw [hreceivers, List.getElem?_append_left (List.getElem?_eq_some_iff.1 hsame).1, hsame]

/-- Calls reach only receivers that are live. -/
theorem Tallied.handled {hs : List (Handling U)} (hw : Tallied o w loose)
    (hcalls : w.isLive id = false → hs.filterMap Handling.call = []) :
    Tallied o (w.handled id hs) loose := by
  have hstrength : (w.handled id hs).strength = w.strength := by
    funext id'
    simp only [World.strength, World.handled, modifyReceiver, List.getElem?_modify]
    cases w.receivers[id']? with
    | none => rfl
    | some r => by_cases heq : id = id' <;> simp [heq]
  refine ⟨hw.names, ?_, ?_, fun id' r hr hgone => ?_⟩
  · rw [hstrength]
    exact hw.strength
  · simp only [World.handled, modifyReceiver, List.length_modify]
    exact hw.known
  · have hsame := hw.gone id' r hr hgone
    simp only [World.handled, modifyReceiver, List.getElem?_modify, hsame]
    by_cases heq : id = id'
    · subst heq
      have hdead : w.isLive id = false := by
        rw [isLive_eq, strength_of_gone hsame hgone]
        rfl
      simp [hcalls hdead]
    · simp [heq]

theorem Tallied.handle (hw : Tallied o w loose) (d : Dispatcher U) (item : Item U) :
    Tallied o (w.handle d item).1 loose := by
  rw [handle_eq]
  refine hw.handled fun hdead => ?_
  have hgone : w.resolves d.hold = false := hdead
  rw [hgone, List.filterMap_cons, Surface.handle_gone]
  rfl

theorem Tallied.serve (hw : Tallied o w loose) (d : Dispatcher U) (rs : List Reception) :
    Tallied o (w.serve d rs).1 loose := by
  induction rs generalizing w with
  | nil => exact hw
  | cons r rest ih =>
    cases r with
    | frame bytes => exact ih (hw.handle d (.frame bytes))
    | closed | failed error => exact hw.congr rfl rfl rfl

theorem Tallied.pump (hw : Tallied o w loose) (m : Mailbox U) : Tallied o (w.pump m).1 loose := by
  have hqueue : Tallied o (w.requeue m.channel []) loose := hw.congr rfl rfl rfl
  rw [pump_eq]
  refine hqueue.handled fun hdead => ?_
  have hgone : w.resolves m.dispatcher.hold = false := hdead
  rw [handlings, hgone, List.filterMap_map, List.filterMap_eq_nil_iff]
  intro item hitem
  exact Surface.handle_gone _ item

theorem Tallied.run (hw : Tallied o w loose) (m : Mailbox U) : Tallied o (w.run m).1 loose := by
  rw [run_eq]
  split
  · exact (hw.pump m).congr rfl rfl rfl
  · exact hw.pump m

/-! ## Operations that reach no receiver -/

theorem receivers_dropSender (w : World U) (c : Nat) :
    (w.dropSender c).receivers = w.receivers := by
  unfold dropSender
  dsimp only
  split
  · split
    · exact wake_receivers _ c
    · rfl
  · rfl

theorem Tallied.addSender (hw : Tallied o w loose) (c : Nat) : Tallied o (w.addSender c) loose :=
  hw.congr rfl rfl rfl

theorem Tallied.dropSender (hw : Tallied o w loose) (c : Nat) :
    Tallied o (w.dropSender c) loose :=
  hw.congr (alike_dropSender c).things (alike_dropSender c).tasks (receivers_dropSender w c)

theorem Tallied.addLink (hw : Tallied o w loose) (l : Link) : Tallied o (w.addLink l) loose := by
  cases l with
  | channel c => exact hw.addSender c
  | severed error => exact hw

theorem Tallied.dropLink (hw : Tallied o w loose) (l : Link) : Tallied o (w.dropLink l) loose := by
  cases l with
  | channel c => exact hw.dropSender c
  | severed error => exact hw

theorem Tallied.post (hw : Tallied o w loose) (c : Nat) (item : Item U) :
    Tallied o (w.post c item).1 loose :=
  hw.congr (post_names w c item).1 (post_names w c item).2.1 (receivers_post w c item)

theorem Tallied.sendLocal (hw : Tallied o w loose) (interface : String) (c : Nat)
    (e : Envelope U) : Tallied o (w.sendLocal interface c e) loose := by
  have hpost := hw.post c (.envelope e)
  unfold World.sendLocal
  cases hinbox : w.inbox? c with
  | none =>
    rw [post_of_none _ hinbox]
    exact hw.congr rfl rfl rfl
  | some items =>
    rw [post_of_some _ hinbox] at hpost ⊢
    exact hpost

theorem Tallied.carried {s s' : RemoteSender} {attempt : Attempt} (hw : Tallied o w loose)
    (h : w.Carried s attempt v s') : Tallied o v loose := by
  cases h with
  | posted hlink hbytes hopen => exact hw.post _ _
  | failed hrefusal => exact hw.congr rfl rfl rfl

/-! ## Names and tasks -/

theorem heldBy_of_find? (ht : w.find? name = some t) : w.heldBy name = t.hold?.toList := by
  rw [heldBy, ht, Option.bind_some]

/-- The thing under a name accounts for its hold, the others for the rest. -/
theorem holds_perm (hnames : (w.things.map Prod.fst).Nodup) (name : String) :
    w.holds.Perm (w.heldBy name ++ (w.forget name).holds) := by
  rw [holds, holds, ← List.append_assoc]
  exact (filterMap_things_perm Thing.hold? hnames name).append_right _

theorem holds_update (w : World U) (name : String) (t : Thing U) :
    (w.update name t).holds = t.hold?.toList ++ (w.forget name).holds := by
  rw [holds, filterMap_things_update, List.append_assoc]
  rfl

theorem nodup_forget (hnames : (w.things.map Prod.fst).Nodup) (name : String) :
    ((w.forget name).things.map Prod.fst).Nodup :=
  hnames.sublist (List.filter_sublist.map _)

theorem nodup_update (hnames : (w.things.map Prod.fst).Nodup) (name : String) (t : Thing U) :
    ((w.update name t).things.map Prod.fst).Nodup := by
  have hnew : name ∉ (w.forget name).things.map Prod.fst := by
    simp [forget]
  exact List.nodup_cons.2 ⟨hnew, nodup_forget hnames name⟩

/-- What is taken out of a list joins the loose entries. -/
theorem perm_loosen {α : Type} {xs ys taken : List α} (h : xs.Perm (taken ++ ys))
    (loose : List α) : (loose ++ xs).Perm (taken ++ loose ++ ys) := by
  refine (h.append_left loose).trans ?_
  rw [← List.append_assoc]
  exact List.perm_append_comm.append_right _

/-- Loose entries take the place of what is taken out. -/
theorem perm_exchange {α : Type} [DecidableEq α] {xs ys taken : List α}
    (h : xs.Perm (taken ++ ys)) (new loose : List α) :
    (new ++ loose ++ xs).Perm (taken ++ loose ++ (new ++ ys)) := by
  rw [List.perm_iff_count]
  intro x
  have hcount := h.count_eq x
  simp only [List.count_append] at hcount ⊢
  omega

theorem Tallied.forget (hw : Tallied o w loose) (name : String) :
    Tallied o (w.forget name) (w.heldBy name ++ loose) :=
  hw.perm (nodup_forget hw.names name) rfl (perm_loosen (holds_perm hw.names name) loose)

/-- A loose hold is put under a name, and the one that was there becomes loose. -/
theorem Tallied.update (hw : Tallied o w (t.hold?.toList ++ loose)) (name : String) :
    Tallied o (w.update name t) (w.heldBy name ++ loose) := by
  refine hw.perm (nodup_update hw.names name t) rfl ?_
  rw [holds_update]
  exact perm_exchange (holds_perm hw.names name) _ loose

theorem Tallied.dropMailbox (hw : Tallied o w (m.dispatcher.hold :: loose)) :
    Tallied o (w.dropMailbox m) loose := by
  have hclosed : Tallied o
      (w.modifyChannel m.channel fun c => { c with items := [], isOpen := false })
      (m.dispatcher.hold :: loose) := hw.congr rfl rfl rfl
  exact hclosed.release

theorem Tallied.dropThing (hw : Tallied o w (t.hold?.toList ++ loose)) :
    Tallied o (w.dropThing t) loose := by
  cases t with
  | receiver id => exact Tallied.release hw
  | hold h => exact Tallied.release hw
  | handler i c | localSender i c => exact Tallied.dropSender hw c
  | messenger i s => exact Tallied.dropLink hw s.link
  | remoteSender s => exact Tallied.dropLink hw s.link
  | link l => exact Tallied.dropLink hw l
  | mailbox m => exact Tallied.dropMailbox hw
  | task id => exact hw

theorem Tallied.bind (hw : Tallied o w (t.hold?.toList ++ loose)) (name : String) :
    Tallied o (w.bind name t) loose :=
  bind_of_update (P := fun loose v => Tallied o v loose) (hw.update name) Tallied.dropThing

theorem Tallied.drop (hw : Tallied o w loose) (name : String) :
    Tallied o (w.drop name).1 loose :=
  drop_of_forget (P := fun loose v => Tallied o v loose) (hw.forget name) Tallied.dropThing hw

theorem Tallied.openMailbox (hw : Tallied o w loose) (surface : Surface U)
    (hknown : h.receiver < w.receivers.length) (hlive : h.owned = true → w.isLive h.receiver) :
    Tallied o (w.openMailbox surface h).1 (h :: loose) :=
  (hw.acquire hknown hlive).congr rfl rfl rfl

theorem Tallied.spawn (hw : Tallied o w (m.dispatcher.hold :: loose)) :
    Tallied o (w.spawn m).1 loose := by
  refine hw.perm hw.names rfl ?_
  have hholds : (w.spawn m).1.holds = w.holds ++ [m.dispatcher.hold] := by
    simp [holds, World.spawn, Task.hold?]
  rw [hholds, ← List.append_assoc]
  exact (List.perm_append_singleton _ _).symm

theorem Tallied.finish (hw : Tallied o w loose) {task : Task U} (htask : w.tasks[id]? = some task)
    (hfinished : task.finished = false) :
    Tallied o (w.finish id) (task.mailbox.dispatcher.hold :: loose) := by
  have hhold : task.hold? = some task.mailbox.dispatcher.hold := by
    rw [Task.hold?, hfinished]
    rfl
  have htasks := perm_filterMap_modify (g := fun t => { t with finished := true }) hhold rfl htask
  refine hw.perm hw.names rfl ?_
  have hholds := (htasks.append_left (w.things.filterMap fun e => e.2.hold?)).trans List.perm_middle
  exact (hholds.append_left loose).trans List.perm_middle

theorem Tallied.runTask (hw : Tallied o w loose) (id : Nat) : Tallied o (w.runTask id) loose := by
  rcases runTask_cases w id with h | ⟨task, htask, hfinished, h | h⟩
  · rw [h]
    exact hw
  · rw [h]
    exact hw.run task.mailbox
  · rw [h]
    have htask' : (w.run task.mailbox).1.tasks[id]? = some task := by
      rw [tasks_run]
      exact htask
    exact ((hw.run task.mailbox).finish htask' hfinished).dropMailbox

theorem Tallied.settle (hw : Tallied o w loose) : Tallied o w.settle loose :=
  foldl_runTask (P := fun v => Tallied o v loose) (fun _ id hv => hv.runTask id)
    (hw.congr rfl rfl rfl)

end World

end Relay
