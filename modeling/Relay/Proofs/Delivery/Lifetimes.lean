import Relay.Proofs.Delivery.Holders

/-!
# Lifetimes of receivers

Over any run, a receiver is live exactly while someone keeps it: the name of its own reference, a
named hold that owns it, or a mailbox over such a hold, under a name or with an unfinished task.
Proxies, senders, links, what waits in a queue and holds that only know the receiver keep nothing.

Every request keeps the count of a receiver at the number of its keepers (`Move.tallied`).  The
invariant says also that a receiver without keepers stays as it is, so that nothing that comes later
brings it back or reaches it.
-/

namespace Relay

variable {U : Universe}

namespace World

variable {w v o : World U} {loose : List Hold} {h : Hold} {name : String} {t : Thing U}
  {m : Mailbox U} {id : Nat}

/-! ## Who keeps a receiver -/

/-- The parties that keep a receiver alive. -/
inductive Kept (w : World U) (id : Nat) : Prop
  | reference {name : String} (h : w.receiver? name = some id)
  | hold {name : String} (h : w.hold? name = some ⟨id, true⟩)
  | mailbox {name : String} {m : Mailbox U} (h : w.mailbox? name = some m)
    (howned : m.dispatcher.hold = ⟨id, true⟩)
  | task {t : Task U} (h : t ∈ w.tasks) (hunfinished : t.finished = false)
    (howned : t.mailbox.dispatcher.hold = ⟨id, true⟩)

theorem receiver?_eq_some : w.receiver? name = some id ↔ w.find? name = some (.receiver id) := by
  unfold receiver?
  split <;> simp_all

theorem hold?_eq_some : w.hold? name = some h ↔ w.find? name = some (.hold h) := by
  unfold hold?
  split <;> simp_all

theorem find?_of_mem (hnames : (w.things.map Prod.fst).Nodup) (ht : (name, t) ∈ w.things) :
    w.find? name = some t := by
  obtain ⟨before, after, hthings⟩ := List.append_of_mem ht
  rw [hthings, List.map_append, List.nodup_append] at hnames
  refine List.lookup_eq_some_iff.2 ⟨before, after, hthings, fun e he => ?_⟩
  have hne := hnames.2.2 e.1 (List.mem_map_of_mem he) name List.mem_cons_self
  simpa using hne.symm

theorem mem_of_find? (ht : w.find? name = some t) : (name, t) ∈ w.things := by
  obtain ⟨before, after, hthings, -⟩ := List.lookup_eq_some_iff.1 ht
  rw [hthings]
  exact List.mem_append_right _ List.mem_cons_self

theorem mem_holds_of_find? (ht : w.find? name = some t) (hh : t.hold? = some h) : h ∈ w.holds :=
  List.mem_append_left _ (List.mem_filterMap.2 ⟨_, mem_of_find? ht, hh⟩)

theorem mem_holds_iff (hnames : (w.things.map Prod.fst).Nodup) :
    (⟨id, true⟩ : Hold) ∈ w.holds ↔ w.Kept id := by
  constructor
  · intro hmem
    rcases List.mem_append.1 hmem with hmem | hmem
    · obtain ⟨⟨name, t⟩, ht, hh⟩ := List.mem_filterMap.1 hmem
      have hfind := find?_of_mem hnames ht
      cases t with
      | receiver id' =>
        cases hh
        exact .reference (receiver?_eq_some.2 hfind)
      | hold h =>
        cases hh
        exact .hold (hold?_eq_some.2 hfind)
      | mailbox m => exact .mailbox (mailbox?_eq_some.2 hfind) (Option.some.inj hh)
      | _ => cases hh
    · obtain ⟨t, ht, hh⟩ := List.mem_filterMap.1 hmem
      unfold Task.hold? at hh
      split at hh
      · cases hh
      · next hunfinished =>
        exact .task ht (Bool.not_eq_true _ ▸ hunfinished) (Option.some.inj hh)
  · intro hkept
    cases hkept with
    | reference h => exact mem_holds_of_find? (receiver?_eq_some.1 h) rfl
    | hold h => exact mem_holds_of_find? (hold?_eq_some.1 h) rfl
    | mailbox h howned =>
      exact mem_holds_of_find? (mailbox?_eq_some.1 h) (congrArg some howned)
    | task h hunfinished howned =>
      refine List.mem_append_right _ (List.mem_filterMap.2 ⟨_, h, ?_⟩)
      rw [Task.hold?, hunfinished, ← howned]
      rfl

/-! ## One request -/

/-- A hold that is at hand can be taken once more. -/
theorem Tallied.graspable (hw : Tallied o w loose) (hh : h ∈ w.holds) :
    h.receiver < w.receivers.length ∧ (h.owned = true → w.isLive h.receiver) := by
  refine ⟨hw.known h (List.mem_append_right _ hh), fun howned => ?_⟩
  obtain ⟨id, owned⟩ := h
  cases howned
  exact hw.isLive_iff.2 (List.mem_append_right _ hh)

/-- Whatever a request comes by is a hold on a receiver that is there. -/
theorem Tallied.grasps (hw : Tallied o w loose) (hh : w.Grasps h) :
    h.receiver < w.receivers.length ∧ (h.owned = true → w.isLive h.receiver) := by
  cases hh with
  | reference hr owned =>
    obtain ⟨hknown, hlive⟩ := hw.graspable (mem_holds_of_find? (receiver?_eq_some.1 hr) rfl)
    exact ⟨hknown, fun _ => hlive rfl⟩
  | hold hh => exact hw.graspable (mem_holds_of_find? (hold?_eq_some.1 hh) rfl)

theorem Tallied.double {source : String} (hw : Tallied o w loose) (ht : w.find? source = some t)
    (h : w.double? t = some v) : Tallied o v (t.hold?.toList ++ loose) := by
  cases t with
  | hold h' =>
    obtain rfl := Option.some.inj h
    obtain ⟨hknown, hlive⟩ := hw.grasps (.hold (hold?_eq_some.2 ht))
    exact hw.acquire hknown hlive
  | handler i c | localSender i c =>
    obtain rfl := Option.some.inj h
    exact hw.addSender c
  | link l =>
    obtain rfl := Option.some.inj h
    exact hw.addLink l
  | _ => cases h

theorem hold?_of_sender? {s : RemoteSender} (h : t.sender? = some s) : t.hold? = none := by
  cases t <;> first | rfl | cases h

theorem hold?_withSender (t : Thing U) (s : RemoteSender) : (t.withSender s).hold? = t.hold? := by
  cases t <;> rfl

theorem hold?_of_enters {c : Nat} (h : t.Enters c) : t.hold? = none := by
  cases h <;> rfl

/-- The hold of a new thing is loose until the thing is under a name. -/
theorem Tallied.makes (hw : Tallied o w loose) (h : w.Makes t v) :
    Tallied o v (t.hold?.toList ++ loose) := by
  cases h with
  | receiver => exact hw.addReceiver
  | hold hh =>
    obtain ⟨hknown, hlive⟩ := hw.grasps hh
    exact hw.acquire hknown hlive
  | severed error => exact hw
  | sharing ht hlink hnew =>
    rw [hold?_of_sender? hnew]
    exact hw.addLink _
  | double ht hv => exact hw.double ht hv

theorem Tallied.handles {r : Request U} (hw : Tallied o w loose) (h : w.Handles r v) :
    Tallied o v loose := by
  cases h with
  | looked => exact hw
  | item hr => exact hw.handle _ _
  | frames hr => exact hw.serve _ _

theorem Tallied.posts {c : Nat} {item : Item U} (hw : Tallied o w loose) (h : w.Posts c item v) :
    Tallied o v loose := by
  cases h with
  | frame bytes => exact hw.post c _
  | message interface e => exact hw.sendLocal interface c e

/-- A name keeps standing for something that comes with no hold. -/
theorem Tallied.replace {t' : Thing U} (hw : Tallied o w loose) (ht : w.find? name = some t)
    (hold : t.hold? = none) (hnew : t'.hold? = none) : Tallied o (w.update name t') loose := by
  have hupdate : Tallied o (w.update name t') (w.heldBy name ++ loose) := by
    apply Tallied.update
    rw [hnew]
    exact hw
  rw [heldBy_of_find? ht, hold] at hupdate
  exact hupdate

/-- A new mailbox is put under a name right after it was opened, with what sends into it. -/
theorem Tallied.opened {mailbox : String} {surface : Surface U} (hw : Tallied o w loose)
    (hh : w.Grasps h) (ht : t.hold? = none) :
    Tallied o (((w.openMailbox surface h).1.bind name t).bind mailbox
      (.mailbox (w.openMailbox surface h).2)) loose := by
  obtain ⟨hknown, hlive⟩ := hw.grasps hh
  have hbound : Tallied o ((w.openMailbox surface h).1.bind name t) (h :: loose) := by
    apply Tallied.bind
    rw [ht]
    exact hw.openMailbox surface hknown hlive
  exact Tallied.bind (t := .mailbox (w.openMailbox surface h).2) hbound mailbox

theorem Move.tallied {r : Request U} {a : Answer U} (h : w.Move r v a) (hw : Tallied o w []) :
    Tallied o v [] := by
  -- What a request takes is loose until it is under a name or with a task.
  cases h with
  | still hr hv => exact hw.handles hv
  | bound hr hv => exact (hw.makes hv).bind _
  | opened hr hh ht => exact hw.opened hh (hold?_of_enters ht)
  | @openedTask r name t surface h a hr hh ht =>
    obtain ⟨hknown, hlive⟩ := hw.grasps hh
    have hopened := hw.openMailbox surface hknown hlive
    have hspawned := Tallied.spawn (m := (w.openMailbox surface h).2) hopened
    apply Tallied.bind
    rw [hold?_of_enters ht]
    exact hspawned
  | dropped => exact hw.drop _
  | posted hr ht hoffer hattempt hv => exact hw.posts hv
  | severed hr ht hoffer hattempt => exact hw
  | carried hr ht hs hattempt hv =>
    have hold := hold?_of_sender? hs
    exact (hw.carried hv).replace ((find?_carried hv _).trans ht) hold
      ((hold?_withSender _ _).trans hold)
  | pumped hm => exact hw.pump _
  | @ran name m hm =>
    have hforget := hw.forget name
    rw [heldBy_of_find? (mailbox?_eq_some.1 hm)] at hforget
    exact (Tallied.run hforget m).dropMailbox
  | @spawned name task m id hm =>
    have hforget := hw.forget name
    rw [heldBy_of_find? (mailbox?_eq_some.1 hm)] at hforget
    exact Tallied.bind (t := .task id) (Tallied.spawn hforget) task
  | settled => exact hw.settle

/-! ## Runs -/

theorem tallied_empty : Tallied (empty : World U) empty [] where
  names := .nil
  strength := fun _ => rfl
  known := by
    intro h hh
    cases hh
  gone := by
    intro id r hr
    cases hr

theorem Run.tallied {xs : List (Exchange U)} (hrun : Run w xs v) (hw : Tallied o w []) :
    Tallied o v [] := by
  induction hrun with
  | nil w => exact hw
  | cons hanswer hrun ih => exact ih ((move_of_answer hanswer).tallied hw)

theorem Reachable.tallied (hw : w.Reachable) : Tallied w w [] := by
  obtain ⟨xs, hrun⟩ := hw
  have hempty := hrun.tallied tallied_empty
  exact ⟨hempty.names, hempty.strength, hempty.known, fun _ _ hr _ => hr⟩

end World

/-- The envelope of an item, which for a frame has to be read first. -/
def Item.read : Item U → Except WireError (Envelope U)
  | .envelope e => .ok e
  | .frame bytes => (Frame.decode bytes).map .ofFrame

theorem Surface.handle_of_read {item : Item U} {e : Envelope U} (h : item.read = .ok e)
    (s : Surface U) (live : Bool) : s.handle live item = s.dispatch live e := by
  cases item with
  | envelope e' =>
    cases h
    rfl
  | frame bytes =>
    rw [Item.read] at h
    simp only [handle, deliver]
    cases hdecode : Frame.decode bytes with
    | error error =>
      rw [hdecode] at h
      cases h
    | ok f =>
      rw [hdecode] at h
      cases h
      rfl

namespace World

variable {w v o : World U} {h : Hold} {name : String} {t : Thing U} {id : Nat}

/-- The receiver of the hold is gone, as it was in an earlier world. -/
structure StaysGone (w v : World U) (h : Hold) : Prop where
  resolves : v.resolves h = false
  /-- It got no further call. -/
  receiver : v.receivers[h.receiver]? = w.receivers[h.receiver]?
  /-- Nothing that is handled through the hold gets to a receiver. -/
  receivers : ∀ surface item, (v.handle ⟨surface, h⟩ item).1.receivers = v.receivers
  /-- All that comes to be dispatched is discarded for this reason. -/
  disposed : ∀ surface (item : Item U) e, item.read = .ok e →
    (v.handle ⟨surface, h⟩ item).2 = .discarded .receiverDisposed
  /-- A mailbox over the hold makes the same of all that waits in it. -/
  pumped : ∀ m : Mailbox U, m.dispatcher.hold = h → (v.pump m).1.receivers = v.receivers ∧
    (v.pump m).2 = (v.queue m.channel).map fun item => (v.handle m.dispatcher item).2

/-- What can be said of receivers in a world that comes after another one. -/
structure Lifetimes (w v : World U) : Prop where
  live : ∀ id, v.isLive id ↔ v.Kept id
  /-- To let go of a thing that owns nothing makes no difference to any receiver. -/
  idle : ∀ name t, v.find? name = some t → (∀ id, t.hold? ≠ some ⟨id, true⟩) →
    (v.drop name).1.receivers = v.receivers
  resolution : ∀ name h, v.hold? name = some h →
    v.answer (.resolve name) = some (v, .resolution (v.resolves h) h.owned (v.resolves h))
  owned : ∀ name id, v.hold? name = some ⟨id, true⟩ → v.resolves ⟨id, true⟩
  gone : ∀ h ∈ w.holds, w.resolves h = false → w.StaysGone v h

theorem receivers_handled (w : World U) (id : Nat) (hs : List (Handling U))
    (hcalls : hs.filterMap Handling.call = []) : (w.handled id hs).receivers = w.receivers := by
  simp only [handled, modifyReceiver, hcalls, List.append_nil]
  exact List.modify_id id w.receivers

theorem Tallied.staysGone (hv : Tallied w v []) (hh : h ∈ w.holds) (hw : w.Reachable)
    (hgone : w.resolves h = false) : w.StaysGone v h := by
  obtain ⟨r, hr⟩ : ∃ r, w.receivers[h.receiver]? = some r :=
    ⟨_, List.getElem?_eq_getElem (hw.tallied.known h hh)⟩
  have hstrong : r.strong = 0 := by
    simpa [World.resolves, isLive, hr] using hgone
  have hsame := hv.gone _ r hr hstrong
  have hresolves : v.resolves h = false := by
    simp [World.resolves, isLive, hsame, hstrong]
  constructor
  · exact hresolves
  · rw [hsame, hr]
  · intro surface item
    rw [handle_eq]
    apply receivers_handled
    simp only [hresolves, List.filterMap_cons, Surface.handle_gone, List.filterMap_nil]
  · intro surface item e he
    rw [handle_eq]
    simp only [hresolves, Surface.handle_of_read he]
    rfl
  · rintro m rfl
    rw [pump_eq]
    refine ⟨?_, ?_⟩
    · apply receivers_handled
      rw [handlings, hresolves, List.filterMap_map, List.filterMap_eq_nil_iff]
      intro item hitem
      exact Surface.handle_gone _ item
    · rw [handlings, List.map_map]
      simp only [handle_eq]
      rfl

theorem receivers_dropThing (w : World U) (ht : ∀ id, t.hold? ≠ some ⟨id, true⟩) :
    (w.dropThing t).receivers = w.receivers := by
  have hrelease : ∀ (u : World U) (h : Hold), (∀ id, some h ≠ some ⟨id, true⟩) →
      (u.release h).receivers = u.receivers := by
    intro u h hne
    obtain ⟨id, owned⟩ := h
    cases owned with
    | false => rfl
    | true => exact absurd rfl (hne id)
  have hlink : ∀ l : Link, (w.dropLink l).receivers = w.receivers := by
    intro l
    cases l with
    | channel c => exact receivers_dropSender w c
    | severed error => rfl
  cases t with
  | receiver id => exact absurd rfl (ht id)
  | hold h => exact hrelease w h ht
  | handler i c | localSender i c => exact receivers_dropSender w c
  | messenger i s => exact hlink s.link
  | remoteSender s => exact hlink s.link
  | link l => exact hlink l
  | mailbox m => exact hrelease _ m.dispatcher.hold ht
  | task id => rfl

/-- A receiver is live exactly while someone keeps it, and once it is gone it stays so, whatever the
requests of the run are. -/
theorem Run.lifetimes {xs : List (Exchange U)} (hrun : Run w xs v) (hw : w.Reachable) :
    w.Lifetimes v := by
  have hv := hrun.tallied hw.tallied
  have hlive : ∀ id, v.isLive id ↔ v.Kept id := by
    intro id
    rw [hv.isLive_iff, List.nil_append, mem_holds_iff hv.names]
  have howned : ∀ name id, v.hold? name = some ⟨id, true⟩ → v.resolves ⟨id, true⟩ := by
    intro name id hhold
    exact (hlive id).2 (.hold hhold)
  constructor
  · exact hlive
  · intro name t ht hidle
    rw [World.drop, ht]
    exact receivers_dropThing (v.forget name) hidle
  · intro name h hhold
    have hflag : (h.owned || v.isLive h.receiver) = v.resolves h := by
      obtain ⟨id, owned⟩ := h
      cases owned with
      | false => rfl
      | true => exact (howned name id hhold).symm
    simp [World.answer, hhold, hflag]
  · exact howned
  · intro h hh hgone
    exact hv.staysGone hh hw hgone

end World

open Sample in
/-- A mailbox that only knows its receiver discards what comes after the receiver has gone. -/
theorem World.Run.lifetimes_foyer :
    ∃ w v xs ys, foyer.perform [.hold "pin" "host" false, .drop "host"] = some (w, xs) ∧
      w.perform [.call "one" "send" (words "Ada"), .receiver "host"] = some (v, ys) ∧
      ¬ v.Kept 0 ∧ v.Kept 1 ∧
      v.answer (.resolve "pin") = some (v, .resolution false false false) ∧
      (v.pump ⟨0, .within greeter, ⟨0, false⟩⟩).2 = [.discarded .receiverDisposed] := by
  have hfoyer : foyer.Reachable :=
    ⟨_, .cons (r := .receiver "host") rfl
      (.cons (r := .attach greeter "host" "one" "box") (a := .done) rfl (.nil _))⟩
  obtain ⟨⟨w, xs⟩, hleave⟩ : ∃ p,
      foyer.perform [.hold "pin" "host" false, .drop "host"] = some p :=
    Option.isSome_iff_exists.1 rfl
  obtain ⟨⟨v, ys⟩, hcome⟩ : ∃ p,
      w.perform [.call "one" "send" (words "Ada"), .receiver "host"] = some p := by
    cases hleave
    exact Option.isSome_iff_exists.1 rfl
  obtain ⟨zs, hzs⟩ := hfoyer
  have hw : w.Reachable := ⟨_, hzs.append (Run.of_perform hleave).1⟩
  have hlifetimes := (Run.of_perform hcome).1.lifetimes hw
  have hgone : w.StaysGone v ⟨0, false⟩ := by
    apply hlifetimes.gone
    · cases hleave
      decide
    · cases hleave
      rfl
  have hpin : v.hold? "pin" = some ⟨0, false⟩ := by
    cases hleave
    cases hcome
    rfl
  obtain ⟨item, e, hqueue, hread⟩ : ∃ item e, v.queue 0 = [item] ∧ item.read = .ok e := by
    cases hleave
    cases hcome
    exact ⟨_, _, rfl, rfl⟩
  refine ⟨w, v, xs, ys, hleave, hcome, ?_, ?_, ?_, ?_⟩
  · rw [← hlifetimes.live]
    cases hleave
    cases hcome
    decide
  · rw [← hlifetimes.live]
    cases hleave
    cases hcome
    decide
  · rw [hlifetimes.resolution "pin" ⟨0, false⟩ hpin, hgone.resolves]
  · rw [(hgone.pumped ⟨0, .within greeter, ⟨0, false⟩⟩ rfl).2, hqueue, List.map_singleton,
      hgone.disposed _ item e hread]

end Relay
