import Relay.Proofs.Delivery.Accounting
import Relay.Proofs.Delivery.Openness

/-!
# Closing is final

A mailbox ends in three ways: its name is dropped, it is driven once and used up, or its task comes
to an end.  However it ended, it is gone, and its channel is closed for good (`World.Run.shut`).  A
closed channel accepts nothing, holds nothing, and is driven by nobody, so the senders of the mailbox
get nothing through from then on, and nothing that waited in it is ever dispatched.
-/

namespace Relay

variable {U : Universe}

theorem Event.atLevel_dropped {interface : String} {what : UInt32} :
    (dropped interface what).AtLevel "TRACE" :=
  atLevel_of_line "mailbox closed, envelope dropped" rfl (by decide)

/-- Why an attempt fails on a link whose mailbox is gone: there are no bytes, or nobody to take
them. -/
def Attempt.failure (attempt : Attempt) : SendError :=
  match attempt.bytes with
  | .ok _ => .connectionLost "Channel closed"
  | .error error => error

namespace World

variable {w v u : World U} {c : Nat} {name : String} {t : Thing U} {m : Mailbox U} {r : Request U}
  {a : Answer U}

/-! ## What senders meet -/

section Shut

variable (hv : v.Shut c)

include hv

theorem Shut.closed {interface : String} (ht : v.find? name = some (.localSender interface c)) :
    v.answer (.closed name) = some (v, .flag true) := by
  obtain ⟨ch, hch⟩ : ∃ ch, v.channels[c]? = some ch := ⟨_, List.getElem?_eq_getElem hv.known⟩
  have hclosed : ch.isOpen = false := by
    have hinbox := hv.inbox
    simpa [inbox?, hch] using hinbox
  simp [World.answer, ht, hch, hclosed]

theorem Shut.sendLocal (interface : String) (e : Envelope U) :
    v.sendLocal interface c e = v.note (.dropped interface e.what) := by
  rw [World.sendLocal, post_of_none _ hv.inbox]

theorem Shut.send {interface : String} {e : Envelope U}
    (ht : v.find? name = some (.localSender interface c)) :
    v.answer (.send name e) = some (v.note (.dropped interface e.what), .done) := by
  simp [World.answer, ht, hv.sendLocal]

theorem Shut.call {i : Interface U} {method : String} {args : LiveArgs U}
    (ht : v.find? name = some (.handler i c)) (h : v.answer (.call name method args) = some (u, a)) :
    ∃ id m, numberOf? (fun m => m.name == method) 1 i.methods = some (id, m) ∧
      u = v.note (.dropped i.name id) ∧ a = .done := by
  simp only [World.answer, callThrough, ht, Option.bind_eq_bind, Option.bind_some,
    Option.bind_eq_some_iff] at h
  obtain ⟨u', ⟨⟨id, m⟩, hm, hcall⟩, h⟩ := h
  cases h
  split at hcall
  · next htypes =>
    obtain rfl := Option.some.inj hcall
    refine ⟨id, m, hm, ?_, rfl⟩
    rw [hv.sendLocal, Method.what_localEnvelope]
  · cases hcall

theorem Shut.frame {bytes : List UInt8} (ht : v.find? name = some t)
    (hlink : linkOf? t = some (.channel c)) :
    v.answer (.frame name bytes) = some (v, .sent (some channelClosed)) := by
  simp [World.answer, ht, hlink, sendFrame, post_of_none _ hv.inbox]

theorem Shut.refusal? {s : RemoteSender} (hlink : s.link = .channel c) (attempt : Attempt) :
    v.refusal? s.link attempt = some attempt.failure := by
  unfold World.refusal? Attempt.failure
  rw [hlink]
  cases attempt.bytes with
  | ok bytes => simp [hv.inbox, channelClosed]
  | error error => rfl

/-- What is asked of a sender into the channel is counted and noted. -/
theorem Shut.carried {s s' : RemoteSender} {attempt : Attempt} (hlink : s.link = .channel c)
    (h : v.Carried s attempt u s') :
    u = v.note (.sendFailed s.interface attempt.what (s.failures + 1) attempt.failure) ∧
      s' = { s with failures := s.failures + 1 } := by
  cases h with
  | @posted c' bytes hlink' hbytes hopen =>
    obtain rfl : c' = c := Link.channel.inj (hlink'.symm.trans hlink)
    rw [hv.inbox] at hopen
    cases hopen
  | failed hrefusal =>
    obtain rfl := Option.some.inj ((hv.refusal? hlink attempt).symm.trans hrefusal)
    exact ⟨rfl, rfl⟩

end Shut

theorem failures_answer {s : RemoteSender} (ht : w.find? name = some t) (hs : t.sender? = some s) :
    w.answer (.failed name) = some (w, .count s.failures) := by
  cases t with
  | messenger i s' | remoteSender s' =>
    cases hs
    simp [answer, ht]
  | _ => cases hs

theorem Shut.attempt {s : RemoteSender} {attempt : Attempt} (hv : v.Shut c)
    (ht : v.find? name = some t) (hs : t.sender? = some s) (hlink : s.link = .channel c)
    (hthrough : r.through? = some name) (hattempt : t.attempt? r = some attempt)
    (h : v.answer r = some (u, a)) :
    u = (v.note (.sendFailed s.interface attempt.what (s.failures + 1) attempt.failure)).update name
      (t.withSender { s with failures := s.failures + 1 }) ∧ a = .done := by
  cases move_of_answer h with
  | @carried r name' t' s₁ s₂ attempt' v' hr ht' hs' hattempt' hcarried =>
    obtain rfl := Option.some.inj (hr.through?.symm.trans hthrough)
    obtain rfl := Option.some.inj (ht'.symm.trans ht)
    obtain rfl := Option.some.inj (hs'.symm.trans hs)
    obtain rfl := Option.some.inj (hattempt'.symm.trans hattempt)
    obtain ⟨rfl, rfl⟩ := hv.carried hlink hcarried
    exact ⟨rfl, rfl⟩
  | posted hr ht' hoffer hnone | severed hr ht' hoffer hnone =>
    obtain rfl := Option.some.inj (hr.through?.symm.trans hthrough)
    obtain rfl := Option.some.inj (ht'.symm.trans ht)
    rw [hattempt] at hnone
    cases hnone
  | still hr | bound hr | opened hr | openedTask hr =>
    rw [hr.through?] at hthrough
    cases hthrough
  | _ => cases hthrough

/-! ## The end of a mailbox -/

theorem lt_of_mailbox (hw : w.Sound) (hm : w.mailbox? name = some m) :
    m.channel < w.channels.length :=
  hw.lt_of_mem (mem_drains_of_mailbox (mailbox?_eq_some.1 hm))

theorem shut_drop (hw : w.Sound) (hm : w.mailbox? name = some m)
    (h : w.answer (.drop name) = some (v, a)) : v.Shut m.channel := by
  refine ⟨Nat.lt_of_lt_of_le (lt_of_mailbox hw hm) (move_of_answer h).dispatched.channels, ?_⟩
  cases h
  change (w.drop name).1.inbox? m.channel = none
  rw [inbox?_drop, mailbox?_eq_some.1 hm]
  exact if_pos rfl

theorem shut_run (hw : w.Sound) (hm : w.mailbox? name = some m)
    (h : w.answer (.run name) = some (v, a)) : v.Shut m.channel := by
  refine ⟨Nat.lt_of_lt_of_le (lt_of_mailbox hw hm) (move_of_answer h).dispatched.channels, ?_⟩
  simp only [answer, hm, Option.bind_eq_bind, Option.bind_some] at h
  cases h
  rw [inbox?_dropMailbox, if_pos rfl]

theorem log_drop (hm : w.mailbox? name = some m) : (w.drop name).1.log = w.log := by
  rw [drop, mailbox?_eq_some.1 hm]
  exact log_dropThing _ _

theorem Gone.not_driven (h : w.Gone c) (r : Request U) : c ∉ w.driven r := by
  intro hc
  cases r with
  | pump name | run name =>
    obtain ⟨m, hm, hchannel⟩ := Option.map_eq_some_iff.1 (Option.mem_toList.1 hc)
    exact h.unnamed name m hm hchannel
  | settle =>
    obtain ⟨t, ht, hunfinished, hchannel⟩ := mem_taskDrains.1 hc
    exact h.untasked t ht hunfinished hchannel
  | _ => cases hc

/-- What everyone meets in a world in which the mailbox of a channel is gone. -/
structure Final (v : World U) (c : Nat) : Prop where
  gone : v.Gone c
  closed : ∀ name interface, v.find? name = some (.localSender interface c) →
    v.answer (.closed name) = some (v, .flag true)
  /-- A message of this process is dropped, which leaves one event and nothing else. -/
  send : ∀ name interface e, v.find? name = some (.localSender interface c) →
    ∃ event : Event, v.answer (.send name e) = some (v.note event, .done) ∧
      event = .dropped interface e.what ∧ event.AtLevel "TRACE"
  call : ∀ name i method args u a, v.find? name = some (.handler i c) →
    v.answer (.call name method args) = some (u, a) →
    ∃ (id : UInt32) (m : Method U) (event : Event),
      numberOf? (fun m => m.name == method) 1 i.methods = some (id, m) ∧
      u = v.note event ∧ a = .done ∧ event = .dropped i.name id ∧ event.AtLevel "TRACE"
  /-- A frame is refused, whatever it is sent through. -/
  frame : ∀ name t bytes, v.find? name = some t → linkOf? t = some (.channel c) →
    v.answer (.frame name bytes) = some (v, .sent (some (.connectionLost "Channel closed")))
  /-- What a sender of frames is asked for fails, is counted by it and leaves one event. -/
  attempt : ∀ name t s r attempt u a, v.find? name = some t → t.sender? = some s →
    s.link = .channel c → r.through? = some name → t.attempt? r = some attempt →
    v.answer r = some (u, a) → ∃ event : Event,
      u = (v.note event).update name (t.withSender { s with failures := s.failures + 1 }) ∧
      a = .done ∧ u.answer (.failed name) = some (u, .count (s.failures + 1)) ∧
      event = .sendFailed s.interface attempt.what (s.failures + 1) attempt.failure ∧
      event.AtLevel "WARN"
  /-- No request drives the mailbox, and a receiver gets calls only by items that the request brings
  or that wait in a mailbox that it drives. -/
  driven : ∀ r, c ∉ v.driven r
  calls : ∀ r u a, v.answer r = some (u, a) → Dispatched (v.atHand r) v u

theorem Shut.final (hv : v.Shut c) (htidy : v.Tidy) : v.Final c := by
  have hgone := htidy.gone_iff.2 hv
  constructor
  · exact hgone
  · intro name interface ht
    exact hv.closed ht
  · intro name interface e ht
    exact ⟨_, hv.send ht, rfl, Event.atLevel_dropped⟩
  · intro name i method args u a ht h
    obtain ⟨id, m, hm, hu, ha⟩ := hv.call ht h
    exact ⟨id, m, _, hm, hu, ha, rfl, Event.atLevel_dropped⟩
  · intro name t bytes ht hlink
    exact hv.frame ht hlink
  · intro name t s r attempt u a ht hs hlink hthrough hattempt h
    obtain ⟨hu, ha⟩ := hv.attempt ht hs hlink hthrough hattempt h
    refine ⟨_, hu, ha, ?_, rfl, Event.atLevel_sendFailed⟩
    have hname : u.find? name = some (t.withSender { s with failures := s.failures + 1 }) := by
      rw [hu, find?_update, if_pos rfl]
    exact failures_answer hname (sender?_withSender hs _)
  · exact hgone.not_driven
  · intro r u a h
    exact (move_of_answer h).dispatched

/-- Closing is final: a mailbox that is dropped, that was driven and used up, or whose task has
finished is gone, a dropped one without having dispatched what waited in it; and once a mailbox is
gone, everyone meets the same after any run. -/
theorem Reachable.closing_final (hw : w.Reachable) :
    (∀ name m v a, w.mailbox? name = some m → w.answer (.drop name) = some (v, a) →
      v.Gone m.channel ∧ v.callsOf = w.callsOf ∧ v.log = w.log) ∧
    (∀ name m v a, w.mailbox? name = some m → w.answer (.run name) = some (v, a) →
      v.Gone m.channel) ∧
    (∀ t ∈ w.tasks, t.finished = true → w.Gone t.mailbox.channel) ∧
    ∀ c v xs, w.Gone c → Run w xs v → v.Final c := by
  have htidy := hw.tidy
  refine ⟨fun name m v a hm h => ⟨?_, ?_⟩, fun name m v a hm h => ?_, fun t ht hfinished => ?_,
    fun c v xs hgone hrun => ?_⟩
  · exact (htidy.answer h).gone_iff.2 (shut_drop htidy.sound hm h)
  · cases h
    exact ⟨(quiet_drop w name).calls, log_drop hm⟩
  · exact (htidy.answer h).gone_iff.2 (shut_run htidy.sound hm h)
  · exact htidy.gone_iff.2 (htidy.retired t ht hfinished)
  · exact (hrun.shut (htidy.gone_iff.1 hgone)).final (hrun.tidy htidy)

end World

open Sample in
/-- A call waits in the mailbox when it is dropped, and a later one is made through a clone. -/
theorem World.Reachable.closing_final_foyer :
    ∃ w v u xs ys, foyer.perform [.call "one" "send" (words "Ada")] = some (w, xs) ∧
      w.answer (.drop "box") = some (v, .flag true) ∧ v.callsOf = w.callsOf ∧
      v.perform [.clone "one" "two", .settle] = some (u, ys) ∧ u.Final 0 ∧
      ∃ event, u.answer (.call "two" "send" (words "Bob")) = some (u.note event, .done) ∧
        event.AtLevel "TRACE" := by
  have hfoyer : foyer.Reachable :=
    ⟨_, .cons (r := .receiver "host") rfl
      (.cons (r := .attach greeter "host" "one" "box") (a := .done) rfl (.nil _))⟩
  obtain ⟨⟨w, xs⟩, hcall⟩ : ∃ p, foyer.perform [.call "one" "send" (words "Ada")] = some p :=
    Option.isSome_iff_exists.1 rfl
  obtain ⟨zs, hzs⟩ := hfoyer
  have hw : w.Reachable := ⟨_, hzs.append (Run.of_perform hcall).1⟩
  have hm : w.mailbox? "box" = some ⟨0, .within greeter, ⟨0, false⟩⟩ := by
    cases hcall
    rfl
  obtain ⟨v, hdrop⟩ : ∃ v, w.answer (.drop "box") = some (v, .flag true) := by
    cases hcall
    exact ⟨_, rfl⟩
  obtain ⟨hgone, hcalls, -⟩ := hw.closing_final.1 "box" _ v _ hm hdrop
  have hv : v.Reachable := by
    obtain ⟨us, hus⟩ := hw
    exact ⟨_, hus.append (.cons hdrop (.nil v))⟩
  obtain ⟨⟨u, ys⟩, hclone⟩ : ∃ p, v.perform [.clone "one" "two", .settle] = some p := by
    cases hcall
    cases hdrop
    exact Option.isSome_iff_exists.1 rfl
  have hfinal : u.Final 0 := hv.closing_final.2.2.2 0 u ys hgone (Run.of_perform hclone).1
  have htwo : u.find? "two" = some (.handler greeter 0) := by
    cases hcall
    cases hdrop
    cases hclone
    rfl
  obtain ⟨u', a, hlate⟩ : ∃ u' a, u.answer (.call "two" "send" (words "Bob")) = some (u', a) := by
    cases hcall
    cases hdrop
    cases hclone
    exact ⟨_, _, rfl⟩
  obtain ⟨id, method, event, -, rfl, rfl, -, hlevel⟩ := hfinal.call _ _ _ _ _ _ htwo hlate
  exact ⟨w, v, u, xs, ys, hcall, hdrop, hcalls, hclone, hfinal, event, hlate, hlevel⟩

end Relay
