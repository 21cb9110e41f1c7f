import Relay.Proofs.Delivery.Runs
import Relay.Sample.Interfaces

/-!
# Mailboxes handle what they accept

Over any run, whoever posts and whoever is dropped, a mailbox that keeps its name handles every item
it has accepted exactly once, in the order in which the items were accepted.

The induction is on the run.  It carries a split of all items, those that waited at first and those
accepted since, into the items that pumps have handled and those that still wait
(`Run.split_items`).  Pumps move the border to the end, other requests append to what waits.
-/

namespace Relay

variable {U : Universe}

theorem Surface.handle_gone (s : Surface U) (item : Item U) :
    (s.handle false item).call = none := by
  cases item with
  | envelope e => rfl
  | frame bytes =>
    simp only [handle, deliver]
    split <;> rfl

namespace World

def callsOf (w : World U) (id : Nat) : List (Call U) :=
  (w.receivers[id]?.map Receiver.calls).getD []

variable {w v : World U} {name : String} {m : Mailbox U}

theorem callsOf_pump (w : World U) (m : Mailbox U) :
    (w.pump m).1.callsOf m.dispatcher.hold.receiver =
      w.callsOf m.dispatcher.hold.receiver ++
        (w.handlings m (w.queue m.channel)).filterMap Handling.call := by
  rw [pump_eq]
  simp only [callsOf, handled, modifyReceiver, requeue, modifyChannel, List.getElem?_modify_eq]
  cases hreceiver : w.receivers[m.dispatcher.hold.receiver]? with
  | some r => rfl
  | none =>
    have hgone : w.resolves m.dispatcher.hold = false := by
      simp [resolves, isLive, hreceiver]
    have hcalls : (w.handlings m (w.queue m.channel)).filterMap Handling.call = [] := by
      rw [handlings, hgone, List.filterMap_map, List.filterMap_eq_nil_iff]
      intro item hitem
      exact Surface.handle_gone _ item
    simp [hcalls]

theorem answer_pump (hm : w.find? name = some (.mailbox m)) :
    w.answer (.pump name) = some ((w.pump m).1, .outcomes (w.pump m).2) := by
  have hmailbox := mailbox?_eq_some.2 hm
  simp [answer, hmailbox]

end World

/-! ## What can be seen of a mailbox -/

namespace Exchange

variable (name : String) (m : Mailbox U)

def outcomes (x : Exchange U) : List Outcome :=
  if x.request.pumps? = some name then
    match x.answer with
    | .outcomes values => values
    | _ => []
  else []

/-- Whether the receiver was there, for each item that pumping the mailbox has handled. -/
def liveness (x : Exchange U) : List Bool :=
  (x.outcomes name).map fun _ => x.before.resolves m.dispatcher.hold

/-- The calls that the receiver got while the mailbox was pumped. -/
def calls (x : Exchange U) : List (Call U) :=
  if x.request.pumps? = some name then
    (x.after.callsOf m.dispatcher.hold.receiver).drop
      (x.before.callsOf m.dispatcher.hold.receiver).length
  else []

def accepted (x : Exchange U) : List (Item U) := x.before.accepted x.request m.channel

end Exchange

/-- What the mailbox makes of the items, given for each whether the receiver is there. -/
def Mailbox.handleAll (m : Mailbox U) (live : List Bool) (items : List (Item U)) :
    List (Handling U) :=
  List.zipWith m.dispatcher.surface.handle live items

theorem Mailbox.handleAll_append (m : Mailbox U) {live live' : List Bool}
    {items items' : List (Item U)} (h : live.length = items.length) :
    m.handleAll (live ++ live') (items ++ items') =
      m.handleAll live items ++ m.handleAll live' items' :=
  List.zipWith_append h

theorem Mailbox.exists_of_mem_handleAll {m : Mailbox U} {live : List Bool} {items : List (Item U)}
    {h : Handling U} (hh : h ∈ m.handleAll live items) :
    ∃ l item, h = m.dispatcher.surface.handle l item := by
  rw [handleAll, ← List.map_uncurry_zip_eq_zipWith] at hh
  obtain ⟨⟨l, item⟩, -, rfl⟩ := List.mem_map.1 hh
  exact ⟨l, item, rfl⟩

namespace World

variable {w v : World U} {name : String} {m : Mailbox U} {xs : List (Exchange U)}

theorem handlings_eq (w : World U) (m : Mailbox U) (items : List (Item U)) :
    w.handlings m items =
      m.handleAll (items.map fun _ => w.resolves m.dispatcher.hold) items := by
  rw [Mailbox.handleAll, List.zipWith_map_left, List.zipWith_self, handlings]

section Pumping

variable {r : Request U} {a : Answer U} (hm : w.find? name = some (.mailbox m))
  (hpumps : r.pumps? = some name) (hanswer : w.answer r = some (v, a))

include hm hpumps hanswer

theorem pump_of_answer : r = .pump name ∧ v = (w.pump m).1 ∧ a = .outcomes (w.pump m).2 := by
  have hr : r = .pump name := by
    cases r <;> cases hpumps
    rfl
  subst hr
  have h := hanswer.symm.trans (answer_pump hm)
  simp only [Option.some.injEq, Prod.mk.injEq] at h
  exact ⟨rfl, h.1, h.2⟩

/-- What can be seen of a pump are the handlings of the items that waited. -/
theorem seen_of_pump {items : List (Item U)} (hitems : w.inbox? m.channel = some items) :
    v.inbox? m.channel = some [] ∧
      Exchange.accepted m ⟨w, r, a, v⟩ = [] ∧
      Exchange.outcomes name ⟨w, r, a, v⟩ = (w.handlings m items).map Handling.outcome ∧
      Exchange.liveness name m ⟨w, r, a, v⟩ = items.map (fun _ => w.resolves m.dispatcher.hold) ∧
      Exchange.calls name m ⟨w, r, a, v⟩ = (w.handlings m items).filterMap Handling.call := by
  obtain ⟨rfl, rfl, rfl⟩ := pump_of_answer hm hpumps hanswer
  have houtcomes : Exchange.outcomes name ⟨w, .pump name, .outcomes (w.pump m).2, (w.pump m).1⟩ =
      (w.handlings m items).map Handling.outcome := by
    rw [Exchange.outcomes, if_pos hpumps, pump_eq, queue_of_inbox? hitems]
  refine ⟨?_, accepted_of_not_through rfl, houtcomes, ?_, ?_⟩
  · rw [inbox?_pump, hitems]
    simp
  · rw [Exchange.liveness, houtcomes, handlings, List.map_map, List.map_map]
    rfl
  · rw [Exchange.calls, if_pos hpumps]
    simp only [callsOf_pump, queue_of_inbox? hitems, List.drop_left]

end Pumping

/-- The items of a mailbox, those that waited and those accepted during a run, are split into those
that were handled in the run and those that wait at its end. -/
theorem Run.split_items (hrun : Run w xs v) (hw : w.Sound) (hm : w.find? name = some (.mailbox m))
    (hname : ∀ x ∈ xs, name ∉ x.request.takes) {items : List (Item U)}
    (hitems : w.inbox? m.channel = some items) :
    ∃ done rest, items ++ xs.flatMap (Exchange.accepted m) = done ++ rest ∧
      v.inbox? m.channel = some rest ∧
      (xs.flatMap (Exchange.liveness name m)).length = done.length ∧
      xs.flatMap (Exchange.outcomes name) =
        (m.handleAll (xs.flatMap (Exchange.liveness name m)) done).map Handling.outcome ∧
      xs.flatMap (Exchange.calls name m) =
        (m.handleAll (xs.flatMap (Exchange.liveness name m)) done).filterMap Handling.call := by
  induction hrun generalizing items with
  | nil w => exact ⟨[], items, by simp, hitems, rfl, rfl, rfl⟩
  | @cons w v u r a xs hanswer hrun ih =>
    rw [List.forall_mem_cons] at hname
    have hmove := move_of_answer hanswer
    have hsound := hmove.sound hw
    have hm' := hmove.mailbox hm hname.1
    by_cases hpumps : r.pumps? = some name
    · -- All that waited is handled now, so it comes in front of what the rest of the run handles.
      obtain ⟨hempty, haccepted, houtcomes, hliveness, hcalls⟩ :=
        seen_of_pump hm hpumps hanswer hitems
      obtain ⟨done, rest, hsplit, hrest, hlength, houtcomes', hcalls'⟩ :=
        ih hsound hm' hname.2 hempty
      have hall : m.handleAll ((items.map fun _ => w.resolves m.dispatcher.hold) ++
          xs.flatMap (Exchange.liveness name m)) (items ++ done) =
            w.handlings m items ++ m.handleAll (xs.flatMap (Exchange.liveness name m)) done := by
        rw [Mailbox.handleAll_append m (by simp), handlings_eq]
      refine ⟨items ++ done, rest, ?_, hrest, ?_, ?_, ?_⟩
      · rw [List.flatMap_cons, haccepted, List.nil_append, List.append_assoc, ← hsplit,
          List.nil_append]
      · rw [List.flatMap_cons, hliveness, List.length_append, List.length_append, hlength,
          List.length_map]
      · rw [List.flatMap_cons, List.flatMap_cons, houtcomes, hliveness, houtcomes', hall,
          List.map_append]
      · rw [List.flatMap_cons, List.flatMap_cons, hcalls, hliveness, hcalls', hall,
          List.filterMap_append]
    · -- What is accepted waits behind the others, and the rest of the run takes it from there.
      have hqueue := hmove.inbox? hw hm hname.1 hpumps
      rw [hitems, Option.map_some] at hqueue
      obtain ⟨done, rest, hsplit, hrest, hlength, houtcomes', hcalls'⟩ :=
        ih hsound hm' hname.2 hqueue
      have hnone : Exchange.outcomes name ⟨w, r, a, v⟩ = [] := if_neg hpumps
      have hlive : Exchange.liveness name m ⟨w, r, a, v⟩ = [] := by
        rw [Exchange.liveness, hnone, List.map_nil]
      have hcalls : Exchange.calls name m ⟨w, r, a, v⟩ = [] := if_neg hpumps
      refine ⟨done, rest, ?_, hrest, ?_, ?_, ?_⟩
      · rw [List.flatMap_cons, ← List.append_assoc]
        exact hsplit
      · rw [List.flatMap_cons, hlive, List.nil_append, hlength]
      · rw [List.flatMap_cons, List.flatMap_cons, hnone, hlive, List.nil_append, List.nil_append,
          houtcomes']
      · rw [List.flatMap_cons, List.flatMap_cons, hcalls, hlive, List.nil_append, List.nil_append,
          hcalls']

end World

/-- Every item was handled once and in its turn: the outcomes that pumps answered, the calls that
the receiver got in them, and the queue after each request. -/
structure Mailbox.HandlesAll (m : Mailbox U) (name : String) (items : List (Item U))
    (xs : List (Exchange U)) : Prop where
  live : (xs.flatMap (Exchange.liveness name m)).length = items.length
  length : (xs.flatMap (Exchange.outcomes name)).length = items.length
  outcomes : xs.flatMap (Exchange.outcomes name) =
    (m.handleAll (xs.flatMap (Exchange.liveness name m)) items).map Handling.outcome
  calls : xs.flatMap (Exchange.calls name m) =
    (m.handleAll (xs.flatMap (Exchange.liveness name m)) items).filterMap Handling.call
  delivered : ∀ h ∈ m.handleAll (xs.flatMap (Exchange.liveness name m)) items,
    h.call.isSome ↔ h.outcome = .delivered
  got : ∀ x ∈ xs, x.request.pumps? = some name →
    x.after.callsOf m.dispatcher.hold.receiver =
      x.before.callsOf m.dispatcher.hold.receiver ++ x.calls name m
  queues : ∀ x ∈ xs, x.after.inbox? m.channel =
    some (if x.request.pumps? = some name then []
      else x.before.queue m.channel ++ x.accepted m)

namespace World

variable {w v : World U} {name : String} {m : Mailbox U} {xs : List (Exchange U)}

theorem Run.queues (hrun : Run w xs v) (hw : w.Sound) (hm : w.find? name = some (.mailbox m))
    (hname : ∀ x ∈ xs, name ∉ x.request.takes) :
    ∀ x ∈ xs, x.after.inbox? m.channel =
      some (if x.request.pumps? = some name then []
        else x.before.queue m.channel ++ x.accepted m) := by
  intro x hx
  obtain ⟨⟨hsound, hfind⟩, hanswer⟩ := hrun.forall_mem (P := fun w =>
    w.Sound ∧ w.find? name = some (.mailbox m)) ⟨hw, hm⟩ (fun hmove hkeeps hP =>
      ⟨hmove.sound hP.1, hmove.mailbox hP.2 hkeeps⟩) hname x hx
  obtain ⟨items, hitems⟩ :=
    Option.isSome_iff_exists.1 (hsound.isOpen _ (mem_drains_of_mailbox hfind))
  split
  · next hpumps => exact (seen_of_pump hfind hpumps hanswer hitems).1
  · next hpumps =>
    rw [(move_of_answer hanswer).inbox? hsound hfind (hname x hx) hpumps, hitems,
      queue_of_inbox? hitems]
    rfl

theorem Run.got (hrun : Run w xs v) (hm : w.find? name = some (.mailbox m))
    (hname : ∀ x ∈ xs, name ∉ x.request.takes) :
    ∀ x ∈ xs, x.request.pumps? = some name →
      x.after.callsOf m.dispatcher.hold.receiver =
        x.before.callsOf m.dispatcher.hold.receiver ++ x.calls name m := by
  intro x hx hpumps
  obtain ⟨hfind, hanswer⟩ := hrun.forall_mem (P := fun w => w.find? name = some (.mailbox m)) hm
    (fun hmove hkeeps hP => hmove.mailbox hP hkeeps) hname x hx
  obtain ⟨-, hafter, -⟩ := pump_of_answer hfind hpumps hanswer
  rw [Exchange.calls, if_pos hpumps, hafter, callsOf_pump, List.drop_left]

/-- When nothing waits at the end of a run, every item was handled in it. -/
theorem Run.handlesAll_of_empty (hrun : Run w xs v) (hw : w.Sound)
    (hm : w.find? name = some (.mailbox m)) (hname : ∀ x ∈ xs, name ∉ x.request.takes)
    (hempty : v.inbox? m.channel = some []) :
    m.HandlesAll name (w.queue m.channel ++ xs.flatMap (Exchange.accepted m)) xs := by
  obtain ⟨items, hitems⟩ :=
    Option.isSome_iff_exists.1 (hw.isOpen _ (mem_drains_of_mailbox hm))
  obtain ⟨done, rest, hsplit, hrest, hlength, houtcomes, hcalls⟩ :=
    hrun.split_items hw hm hname hitems
  obtain rfl : rest = [] := Option.some.inj (hrest.symm.trans hempty)
  rw [queue_of_inbox? hitems, hsplit, List.append_nil]
  refine ⟨hlength, ?_, houtcomes, hcalls, ?_, hrun.got hm hname, hrun.queues hw hm hname⟩
  · rw [houtcomes, List.length_map, Mailbox.handleAll, List.length_zipWith, hlength, Nat.min_self]
  · intro h hh
    obtain ⟨live, item, rfl⟩ := Mailbox.exists_of_mem_handleAll hh
    exact Surface.handle_call_isSome _ live item

/-- A run completed by one pump handles every item that waited in the mailbox at first and every
item that it has accepted since, whatever else the requests of the run do. -/
theorem Run.handles_all (hrun : Run w xs v) (hw : w.Reachable) (hm : w.mailbox? name = some m)
    (hname : ∀ x ∈ xs, name ∉ x.request.takes) :
    ∃ u values, v.answer (.pump name) = some (u, .outcomes values) ∧
      m.HandlesAll name (w.queue m.channel ++ xs.flatMap (Exchange.accepted m))
        (xs ++ [⟨v, .pump name, .outcomes values, u⟩]) := by
  have hfind := mailbox?_eq_some.1 hm
  have hend := hrun.mailbox hfind hname
  have hpump := answer_pump hend
  obtain ⟨items, hitems⟩ :=
    Option.isSome_iff_exists.1 ((hrun.sound hw.sound).isOpen _ (mem_drains_of_mailbox hend))
  obtain ⟨hempty, hnone, -⟩ := seen_of_pump hend rfl hpump hitems
  have hlast : ∀ x ∈ [(⟨v, .pump name, .outcomes (v.pump m).2, (v.pump m).1⟩ : Exchange U)],
      name ∉ x.request.takes := by
    intro x hx
    rw [List.mem_singleton.1 hx]
    exact List.not_mem_nil
  have hhandles := (hrun.append (.cons hpump (.nil _))).handlesAll_of_empty hw.sound hfind
    (List.forall_mem_append.2 ⟨hname, hlast⟩) hempty
  rw [List.flatMap_append, List.flatMap_singleton, hnone, List.append_nil] at hhandles
  exact ⟨_, _, hpump, hhandles⟩

end World

namespace Sample

def words (text : String) : LiveArgs types := ⟨[.text], (text, ())⟩

/-- A receiver with a mailbox and a proxy. -/
def foyer : World types where
  things := [("box", .mailbox ⟨0, ⟨.within greeter, ⟨0, false⟩⟩⟩), ("one", .handler greeter 0),
    ("host", .receiver 0)]
  receivers := [⟨1, []⟩]
  channels := [⟨[], 1, true⟩]
  tasks := []
  ready := []
  log := []

/-- Two proxies share the mailbox, and both are dropped before its last pump. -/
def visits : List (Request types) :=
  [.call "one" "send" (words "Ada"), .clone "one" "two", .drop "one", .pump "box",
    .call "two" "send" (words "Bob"), .drop "two"]

end Sample

open Sample in
theorem World.Run.handles_all_foyer :
    ∃ v xs u values, foyer.perform visits = some (v, xs) ∧
      v.answer (.pump "box") = some (u, .outcomes values) ∧
      (xs.flatMap (Exchange.outcomes "box") ++ values).length = 2 := by
  have hreachable : foyer.Reachable :=
    ⟨_, .cons (r := .receiver "host") rfl
      (.cons (r := .attach greeter "host" "one" "box") (a := .done) rfl (.nil _))⟩
  have hm : foyer.mailbox? "box" = some ⟨0, .within greeter, ⟨0, false⟩⟩ := rfl
  obtain ⟨⟨v, xs⟩, hperform⟩ : ∃ p, foyer.perform visits = some p :=
    Option.isSome_iff_exists.1 rfl
  obtain ⟨hrun, hrequests⟩ := Run.of_perform hperform
  have hname : ∀ r ∈ visits, "box" ∉ r.takes := by
    simp [visits, Request.takes]
  obtain ⟨u, values, hpump, hhandles⟩ := hrun.handles_all hreachable hm
    fun x hx => hname x.request (hrequests ▸ List.mem_map_of_mem hx)
  have haccepted : (foyer.perform visits).map (fun p =>
      (p.2.flatMap (Exchange.accepted ⟨0, .within greeter, ⟨0, false⟩⟩)).length) = some 2 := rfl
  rw [hperform] at haccepted
  have hlength := hhandles.length
  rw [List.flatMap_append, List.flatMap_singleton] at hlength
  exact ⟨v, xs, u, values, hperform, hpump, hlength.trans (Option.some.inj haccepted)⟩

end Relay
