import Relay.Proofs.Delivery.Soundness

/-!
# Runs

A program makes one request after the other.  What a request leaves alone it leaves alone over a
whole run: a name that no request takes keeps its mailbox, and what waits in that mailbox changes
only by what others post and by its own pumps.
-/

namespace Relay

variable {U : Universe}

/-- A request with its answer and the worlds before and after it. -/
structure Exchange (U : Universe) where
  before : World U
  request : Request U
  answer : Answer U
  after : World U

namespace World

variable {w v : World U} {c : Nat} {name other : String} {t : Thing U} {m : Mailbox U}
  {r : Request U} {a : Answer U}

/-- Requests that are answered one after the other. -/
inductive Run : World U → List (Exchange U) → World U → Prop
  | nil (w : World U) : Run w [] w
  | cons {w v u : World U} {r : Request U} {a : Answer U} {xs : List (Exchange U)}
    (hanswer : w.answer r = some (v, a)) (hrun : Run v xs u) : Run w (⟨w, r, a, v⟩ :: xs) u

/-- Makes the requests one after the other; nothing if one has no answer. -/
def perform (w : World U) : List (Request U) → Option (World U × List (Exchange U))
  | [] => some (w, [])
  | r :: rs => do
    let (v, a) ← w.answer r
    let (u, xs) ← v.perform rs
    return (u, ⟨w, r, a, v⟩ :: xs)

theorem Run.of_perform {rs : List (Request U)} {xs : List (Exchange U)}
    (h : w.perform rs = some (v, xs)) : Run w xs v ∧ xs.map Exchange.request = rs := by
  induction rs generalizing w xs with
  | nil =>
    cases h
    exact ⟨.nil _, rfl⟩
  | cons r rs ih =>
    simp only [perform, Option.bind_eq_bind, Option.bind_eq_some_iff] at h
    obtain ⟨⟨v', a⟩, hanswer, ⟨u, ys⟩, hrest, h⟩ := h
    cases h
    obtain ⟨hrun, hrequests⟩ := ih hrest
    exact ⟨.cons hanswer hrun, by rw [List.map_cons, hrequests]⟩

/-- Requests lead to this world. -/
def Reachable (w : World U) : Prop := ∃ xs, Run empty xs w

theorem Run.append {u : World U} {xs ys : List (Exchange U)} (h : Run w xs v) (h' : Run v ys u) :
    Run w (xs ++ ys) u := by
  induction h with
  | nil w => exact h'
  | cons hanswer hrun ih => exact .cons hanswer (ih h')

theorem Run.sound {xs : List (Exchange U)} (h : Run w xs v) (hw : w.Sound) : v.Sound := by
  induction h with
  | nil w => exact hw
  | cons hanswer hrun ih => exact ih ((move_of_answer hanswer).sound hw)

theorem Reachable.sound (h : w.Reachable) : w.Sound := by
  obtain ⟨xs, hrun⟩ := h
  exact hrun.sound sound_empty

/-! ## Names that are left alone -/

theorem find?_openMailbox (w : World U) (surface : Surface U) (h : Hold) :
    (w.openMailbox surface h).1.find? name = w.find? name :=
  (alike_acquire h).find?

theorem find?_ran (w : World U) (name : String) (m : Mailbox U) (other : String) :
    (((w.forget name).run m).1.dropMailbox m).find? other =
      if other = name then none else w.find? other := by
  rw [← find?_forget, find?, dropMailbox, (alike_release _).things]
  exact congrArg (List.lookup other) (things_run (w.forget name) m)

theorem find?_spawned (w : World U) (name : String) (m : Mailbox U) (other : String) :
    ((w.forget name).spawn m).1.find? other = if other = name then none else w.find? other :=
  find?_forget w name other

theorem Move.find? (h : w.Move r v a) (hname : name ∉ r.takes) (hthrough : r.through? ≠ some name) :
    v.find? name = w.find? name := by
  cases h with
  | still hr hv => exact hv.alike.find?
  | bound hr hv =>
    rw [hr.takes, List.mem_singleton] at hname
    rw [find?_bind, if_neg hname, hv.alike.find?]
  | opened hr hh ht =>
    rw [hr.takes, List.mem_cons, List.mem_singleton, not_or] at hname
    rw [find?_bind, if_neg hname.2, find?_bind, if_neg hname.1, find?_openMailbox]
  | @openedTask r first t surface h a hr hh ht =>
    rw [hr.takes, List.mem_singleton] at hname
    rw [find?_bind, if_neg hname]
    exact find?_openMailbox w surface h
  | dropped =>
    rw [find?_drop, if_neg (mt List.mem_singleton.2 hname)]
  | posted hr ht hoffer hattempt hv =>
    rw [hv.alike.find?, find?_post]
  | severed hr ht hoffer hattempt => rfl
  | carried hr ht hs hattempt hv =>
    have hne : name ≠ _ := fun heq => hthrough (heq ▸ hr.through?)
    rw [find?_update, if_neg hne, find?_carried hv]
  | pumped hm => rw [World.find?, things_pump, World.find?]
  | ran hm =>
    rw [find?_ran, if_neg (mt List.mem_singleton.2 hname)]
  | spawned hm =>
    rw [Request.takes, List.mem_cons, List.mem_singleton, not_or] at hname
    rw [find?_bind, if_neg hname.2, find?_spawned, if_neg hname.1]
  | settled => rw [World.find?, things_settle, World.find?]

/-- Nothing can be sent through a mailbox, so only its own name matters to it. -/
theorem Move.mailbox (h : w.Move r v a) (hm : w.find? name = some (.mailbox m))
    (hname : name ∉ r.takes) : v.find? name = some (.mailbox m) := by
  by_cases hthrough : r.through? = some name
  · have hattempt : (Thing.mailbox m).attempt? r = none := by cases r <;> rfl
    have hoffer : (Thing.mailbox m).offer? r = none := by cases r <;> rfl
    cases h with
    | posted hr ht hposted hnone hv =>
      obtain rfl := Option.some.inj (hr.through?.symm.trans hthrough)
      obtain rfl := Option.some.inj (hm.symm.trans ht)
      rw [hoffer] at hposted
      cases hposted
    | severed hr ht hnone hnone' => exact hm
    | carried hr ht hs hsome hv =>
      obtain rfl := Option.some.inj (hr.through?.symm.trans hthrough)
      obtain rfl := Option.some.inj (hm.symm.trans ht)
      cases hs
    | still hr | bound hr | opened hr | openedTask hr =>
      rw [hr.through?] at hthrough
      cases hthrough
    | _ => cases hthrough
  · rw [h.find? hname hthrough, hm]

/-- What every request of a kind preserves holds before each request of a run. -/
theorem Run.forall_mem {P : World U → Prop} {Q : Request U → Prop} {xs : List (Exchange U)}
    (hrun : Run w xs v) (hw : P w)
    (hstep : ∀ {w v : World U} {r a}, w.Move r v a → Q r → P w → P v)
    (hQ : ∀ x ∈ xs, Q x.request) :
    ∀ x ∈ xs, P x.before ∧ x.before.answer x.request = some (x.after, x.answer) := by
  induction hrun with
  | nil w => exact List.forall_mem_nil _
  | cons hanswer hrun ih =>
    rw [List.forall_mem_cons] at hQ ⊢
    exact ⟨⟨hw, hanswer⟩, ih (hstep (move_of_answer hanswer) hQ.1 hw) hQ.2⟩

theorem Run.mailbox {xs : List (Exchange U)} (hrun : Run w xs v)
    (hm : w.find? name = some (.mailbox m)) (hname : ∀ x ∈ xs, name ∉ x.request.takes) :
    v.find? name = some (.mailbox m) := by
  induction hrun with
  | nil w => exact hm
  | cons hanswer hrun ih =>
    rw [List.forall_mem_cons] at hname
    exact ih ((move_of_answer hanswer).mailbox hm hname.1) hname.2

/-! ## Queues that are left alone -/

/-- What a request puts into a channel: the item that its thing offers, if the mailbox is there. -/
def accepted (w : World U) (r : Request U) (c : Nat) : List (Item U) :=
  match (r.through?.bind w.find?).bind fun t => t.offer? r with
  | some (c', item) => if c' = c ∧ (w.inbox? c).isSome then [item] else []
  | none => []

theorem accepted_of_not_through (h : r.through? = none) : w.accepted r c = [] := by
  rw [accepted, h]
  rfl

theorem accepted_of_offer {item : Item U} {c' : Nat} (hr : r.SendsBy name)
    (ht : w.find? name = some t) (hoffer : t.offer? r = some (c', item)) :
    w.accepted r c = if c' = c ∧ (w.inbox? c).isSome then [item] else [] := by
  rw [accepted, hr.through?, Option.bind_some, ht, Option.bind_some, hoffer]

theorem accepted_of_no_offer (hr : r.SendsBy name) (ht : w.find? name = some t)
    (hoffer : t.offer? r = none) : w.accepted r c = [] := by
  rw [accepted, hr.through?, Option.bind_some, ht, Option.bind_some, hoffer]

/-- What a sender of frames offers is the frame of what it is asked for. -/
theorem offer?_of_attempt {s : RemoteSender} {attempt : Attempt} (hs : t.sender? = some s)
    (hattempt : t.attempt? r = some attempt) : t.offer? r = attempt.offer? s.link := by
  have hoffer : t.offer? r = t.sender?.bind fun s =>
      (t.attempt? r).bind fun a => a.offer? s.link := by
    cases t with
    | messenger i s' | remoteSender s' =>
      cases r with
      | frame target bytes => cases hattempt
      | _ => rfl
    | _ => cases hs
  rw [hoffer, hs, Option.bind_some, hattempt, Option.bind_some]

/-- A failed attempt puts nothing anywhere. -/
theorem accepted_of_refusal {s : RemoteSender} {attempt : Attempt} {error : SendError}
    (hr : r.SendsBy name) (ht : w.find? name = some t)
    (hoffer : t.offer? r = attempt.offer? s.link)
    (hrefusal : w.refusal? s.link attempt = some error) : w.accepted r c = [] := by
  obtain ⟨what, bytes⟩ := attempt
  cases bytes with
  | error error' =>
    apply accepted_of_no_offer hr ht
    rw [hoffer]
    cases hchannel : s.link.channel? <;> simp [Attempt.offer?, hchannel, Except.toOption]
  | ok bytes =>
    cases hlink : s.link with
    | severed error' =>
      apply accepted_of_no_offer hr ht
      rw [hoffer, hlink]
      rfl
    | channel c' =>
      rw [hlink] at hoffer hrefusal
      have hsome : t.offer? r = some (c', .frame bytes) := hoffer
      rw [accepted_of_offer hr ht hsome, if_neg]
      rintro ⟨rfl, hopen⟩
      simp [refusal?, hopen] at hrefusal

theorem inbox?_post_accepted (item : Item U) (c' : Nat) :
    (w.post c' item).1.inbox? c = (w.inbox? c).map fun items =>
      items ++ if c' = c ∧ (w.inbox? c).isSome then [item] else [] := by
  rw [inbox?_post]
  cases w.inbox? c with
  | none => rfl
  | some items => by_cases hc : c' = c <;> simp [hc]

theorem inbox?_update (w : World U) (name : String) (t : Thing U) :
    (w.update name t).inbox? = w.inbox? := rfl

section Queues

variable (hw : w.Sound) (hm : w.find? name = some (.mailbox m))

include hw hm

theorem drained?_other (hne : name ≠ other) :
    (w.find? other).bind Thing.drained? ≠ some m.channel := by
  intro hdrained
  have hfind : (w.forget other).find? name = some (.mailbox m) := by
    rw [find?_forget, if_neg hne, hm]
  exact not_mem_drains_forget hw hdrained (mem_drains_of_mailbox hfind)

theorem channel_ne {m' : Mailbox U} (hm' : w.find? other = some (.mailbox m'))
    (hne : name ≠ other) : m'.channel ≠ m.channel := by
  intro heq
  apply drained?_other hw hm hne
  rw [hm', ← heq]
  rfl

theorem inbox?_bind_other (hne : name ≠ other) (t : Thing U) :
    (w.bind other t).inbox? m.channel = w.inbox? m.channel := by
  rw [inbox?_bind, if_neg (drained?_other hw hm hne)]

/-- A request that does not take the name of a mailbox and does not pump it puts into its queue what
it posts there, and nothing else happens to the queue. -/
theorem Move.inbox? (h : w.Move r v a) (hname : name ∉ r.takes) (hpumps : r.pumps? ≠ some name) :
    v.inbox? m.channel =
      (w.inbox? m.channel).map fun items => items ++ w.accepted r m.channel := by
  have hkept : w.accepted r m.channel = [] →
      (w.inbox? m.channel).map (fun items => items ++ w.accepted r m.channel) =
        w.inbox? m.channel := by
    intro hnone
    simp [hnone]
  cases h with
  | still hr hv => rw [hv.alike.inbox?, hkept (accepted_of_not_through hr.through?)]
  | bound hr hv =>
    rw [hr.takes, List.mem_singleton] at hname
    rw [inbox?_bind_other (hw.alike hv.alike) (hv.alike.find?.trans hm) hname, hv.alike.inbox?,
      hkept (accepted_of_not_through hr.through?)]
  | @opened r first mailbox t surface h a hr hh ht =>
    rw [hr.takes, List.mem_cons, List.mem_singleton, not_or] at hname
    have hold : m.channel ≠ (w.openMailbox surface h).2.channel := by
      rw [openMailbox_channel]
      exact Nat.ne_of_lt (hw.lt_of_mem (mem_drains_of_mailbox hm))
    have hopened := hw.openMailbox surface h
    have hfind := (find?_openMailbox w surface h).trans hm
    have hfind' : ((w.openMailbox surface h).1.bind first t).find? name = some (.mailbox m) := by
      rw [find?_bind, if_neg hname.1, hfind]
    rw [inbox?_bind_other (hopened.bind (by simp [ht.drained?]) first) hfind' hname.2,
      inbox?_bind_other hopened hfind hname.1, inbox?_openMailbox, if_neg hold,
      hkept (accepted_of_not_through hr.through?)]
  | @openedTask r first t surface h a hr hh ht =>
    rw [hr.takes, List.mem_singleton] at hname
    have hold : m.channel ≠ (w.openMailbox surface h).2.channel := by
      rw [openMailbox_channel]
      exact Nat.ne_of_lt (hw.lt_of_mem (mem_drains_of_mailbox hm))
    have hfind := (find?_openMailbox w surface h).trans hm
    rw [inbox?_bind_other (hw.openTask surface h) hfind hname,
      hkept (accepted_of_not_through hr.through?)]
    exact (inbox?_openMailbox w surface h m.channel).trans (if_neg hold)
  | dropped =>
    rw [inbox?_drop, if_neg (drained?_other hw hm (mt List.mem_singleton.2 hname)), hkept rfl]
  | posted hr ht hoffer hattempt hv =>
    rw [hv.alike.inbox?, inbox?_post_accepted, accepted_of_offer hr ht hoffer]
  | severed hr ht hoffer hattempt =>
    rw [hkept (accepted_of_no_offer hr ht hoffer)]
  | carried hr ht hs hattempt hv =>
    have hoffer := offer?_of_attempt hs hattempt
    rw [inbox?_update]
    cases hv with
    | @posted c' bytes hlink hbytes hopen =>
      have hsome : _ = some (c', Item.frame bytes) := hoffer.trans (by
        simp [Attempt.offer?, hlink, hbytes, Link.channel?, Except.toOption])
      rw [inbox?_post_accepted, accepted_of_offer hr ht hsome]
    | failed hrefusal =>
      rw [(alike_note _).inbox?, hkept (accepted_of_refusal hr ht hoffer hrefusal)]
  | pumped hm' =>
    have hne : name ≠ _ := fun heq => hpumps (heq ▸ rfl)
    rw [inbox?_pump, hkept rfl]
    simp [channel_ne hw hm (mailbox?_eq_some.1 hm') hne]
  | ran hm' =>
    have hne := channel_ne hw hm (mailbox?_eq_some.1 hm') (mt List.mem_singleton.2 hname)
    rw [inbox?_dropMailbox, if_neg hne, inbox?_run, hkept rfl]
    simp [hne, inbox?_congr (v := w.forget _) (w := w) rfl]
  | @spawned first task m' id hm' =>
    rw [Request.takes, List.mem_cons, List.mem_singleton, not_or] at hname
    have hfind : ((w.forget first).spawn m').1.find? name = some (.mailbox m) := by
      rw [find?_spawned, if_neg hname.1, hm]
    rw [inbox?_bind_other (hw.handOver (mailbox?_eq_some.1 hm')) hfind hname.2, hkept rfl]
    rfl
  | settled => rw [inbox?_settle hw hm, hkept rfl]

end Queues

end World

end Relay
