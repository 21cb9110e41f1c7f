import Relay.Proofs.Delivery.Dispatching
import Relay.Proofs.Delivery.Runs
import Relay.Proofs.Wire.Grammar

/-!
# Senders count their failures

A call, an envelope or a report through a sender of frames has one of two ends.  Either one frame
goes behind those on the link, or the sender counts one failure more and notes it under the new
count.  So over a run the frames and the failures add up to what was asked of the sender, and the
counts in the log run from one on.  The count is a word of 64 bits, so it is the number of failures
as long as these are fewer than 2⁶⁴.

The step (`Move.accounts`) is a case distinction on the request.  The run is by induction on its
requests, with the count of the sender so far general.
-/

namespace Relay

variable {U : Universe}

theorem Event.atLevel_sendFailed {interface : String} {what : UInt32} {failures : UInt64}
    {error : SendError} : (sendFailed interface what failures error).AtLevel "WARN" := by
  have hline : (sendFailed interface what failures error).line = "WARN send failed" ++
      (addressed interface what ++ " failures=" ++ toString failures.toNat ++ " error=" ++
        error.message) := by
    change _ ++ addressed interface what ++ " failures=" ++ toString failures.toNat ++ " error=" ++
      error.message = _
    simp only [String.append_assoc]
  exact atLevel_of_line "send failed" hline (by decide)

def Event.failures? : Event → Option UInt64
  | sendFailed _ _ failures _ => some failures
  | _ => none

/-- An envelope has bytes to send exactly when it brings no live arguments and its bundle is within
the limits of a frame. -/
theorem Envelope.attempt_ok_iff {e : Envelope U} :
    (∃ bytes, e.attempt.bytes = .ok bytes) ↔ ∃ f, e.frame? = some f ∧ f.Fits := by
  have hbytes : ∀ bytes, e.attempt.bytes = .ok bytes ↔ e.encode = .ok bytes := by
    intro bytes
    cases hencode : e.encode <;> simp [attempt, hencode, Except.mapError]
  have hframe : ∀ f, ofFrame f = e ↔ e.frame? = some f := by
    rintro ⟨what, data⟩
    obtain ⟨what', content⟩ := e
    cases data <;> cases content <;> simp [ofFrame, frame?, bare, withData, eq_comm]
  simp only [hbytes, encode_eq_ok, hframe, Frame.encode_eq_ok_iff_layout]
  constructor
  · rintro ⟨bytes, f, hf, hfits, -⟩
    exact ⟨f, hf, hfits⟩
  · rintro ⟨f, hf, hfits⟩
    exact ⟨f.layout, f, hf, hfits, rfl⟩

namespace World

variable {w v : World U} {name other : String} {s s' : RemoteSender} {t : Thing U}
  {r : Request U} {a : Answer U} {attempt : Attempt}

def sender? (w : World U) (name : String) : Option RemoteSender :=
  (w.find? name).bind Thing.sender?

/-- What a request asks of the sender of frames under a name. -/
def attempt? (w : World U) (name : String) (r : Request U) : Option Attempt :=
  if r.through? = some name then (w.find? name).bind fun t => t.attempt? r else none

/-- What waits behind a link. -/
def onLink (w : World U) (link : Link) : List (Item U) := (link.channel?.bind w.inbox?).getD []

/-! ## One request -/

/-- What becomes of an attempt of the sender under a name: a frame on the link and nothing else, or
a failure that is counted and noted and nothing on any link. -/
structure Accounts (w v : World U) (name : String) (s : RemoteSender) (attempt : Attempt) :
    Prop where
  sent : w.refusal? s.link attempt = none → ∃ c bytes, s.link = .channel c ∧
    attempt.bytes = .ok bytes ∧ v.onLink s.link = w.onLink s.link ++ [.frame bytes] ∧
    (∀ c', c' ≠ c → v.inbox? c' = w.inbox? c') ∧ v.sender? name = some s ∧ v.log = w.log
  failed : ∀ error, w.refusal? s.link attempt = some error → v.inbox? = w.inbox? ∧
    v.sender? name = some { s with failures := s.failures + 1 } ∧
    ∃ event : Event, v.log = w.log ++ [event] ∧ event.AtLevel "WARN" ∧
      event = .sendFailed s.interface attempt.what (s.failures + 1) error
  others : ∀ other, other ≠ name → v.find? other = w.find? other

theorem Carried.accounts (h : w.Carried s attempt v s') (hs : t.sender? = some s) (name : String) :
    w.Accounts (v.update name (t.withSender s')) name s attempt := by
  have hsender : (v.update name (t.withSender s')).sender? name = some s' := by
    rw [sender?, find?_update, if_pos rfl, Option.bind_some, sender?_withSender hs]
  cases h with
  | @posted c bytes hlink hbytes hopen =>
    obtain ⟨items, hitems⟩ := Option.isSome_iff_exists.1 hopen
    have hnone : w.refusal? s.link attempt = none := by simp [refusal?, hbytes, hlink, hopen]
    refine ⟨fun _ => ⟨c, bytes, hlink, hbytes, ?_, ?_, hsender, ?_⟩, ?_, ?_⟩
    · simp [onLink, hlink, Link.channel?, inbox?_update, inbox?_post, hitems]
    · intro c' hc'
      rw [inbox?_update, inbox?_post]
      simp [Ne.symm hc']
    · exact (post_names w c _).2.2
    · intro error herror
      rw [hnone] at herror
      cases herror
    · intro other hne
      rw [find?_update, if_neg hne, find?_post]
  | @failed error hrefusal =>
    refine ⟨?_, ?_, ?_⟩
    · intro hnone
      rw [hrefusal] at hnone
      cases hnone
    · intro error' herror
      obtain rfl := Option.some.inj (hrefusal.symm.trans herror)
      exact ⟨rfl, hsender, _, rfl, Event.atLevel_sendFailed, rfl⟩
    · intro other hne
      rw [find?_update, if_neg hne]
      rfl

/-- A request that leaves the name of a sender alone either asks something of it, which is accounted
for, or does not change it. -/
theorem Move.accounts (h : w.Move r v a) (hs : w.sender? name = some s)
    (hname : name ∉ r.takes) :
    (∀ attempt, w.attempt? name r = some attempt → w.Accounts v name s attempt) ∧
      (w.attempt? name r = none → v.sender? name = some s) := by
  by_cases hthrough : r.through? = some name
  · have hattempt? : ∀ t, w.find? name = some t → w.attempt? name r = t.attempt? r := by
      intro t ht
      rw [attempt?, if_pos hthrough, ht, Option.bind_some]
    cases h with
    | posted hr ht hoffer hnone hv =>
      obtain rfl := Option.some.inj (hr.through?.symm.trans hthrough)
      rw [hattempt? _ ht, hnone]
      refine ⟨nofun, fun _ => ?_⟩
      rw [sender?, hv.alike.find?, find?_post]
      exact hs
    | severed hr ht hoffer hnone =>
      obtain rfl := Option.some.inj (hr.through?.symm.trans hthrough)
      rw [hattempt? _ ht, hnone]
      exact ⟨nofun, fun _ => hs⟩
    | carried hr ht hs' hsome hv =>
      obtain rfl := Option.some.inj (hr.through?.symm.trans hthrough)
      rw [hattempt? _ ht, hsome]
      rw [sender?, ht, Option.bind_some, hs'] at hs
      obtain rfl := Option.some.inj hs
      refine ⟨?_, nofun⟩
      rintro attempt ⟨⟩
      exact hv.accounts hs' _
    | still hr | bound hr | opened hr | openedTask hr =>
      rw [hr.through?] at hthrough
      cases hthrough
    | _ => cases hthrough
  · rw [attempt?, if_neg hthrough]
    refine ⟨nofun, fun _ => ?_⟩
    rw [sender?, h.find? hname hthrough]
    exact hs

theorem Move.exists_sender (h : w.Move r v a) (hs : w.sender? name = some s)
    (hname : name ∉ r.takes) : ∃ s', v.sender? name = some s' := by
  obtain ⟨hasked, hother⟩ := h.accounts hs hname
  cases hattempt : w.attempt? name r with
  | none => exact ⟨s, hother hattempt⟩
  | some attempt =>
    have haccounts := hasked attempt hattempt
    cases hrefusal : w.refusal? s.link attempt with
    | none =>
      obtain ⟨c, bytes, -, -, -, -, hsender, -⟩ := haccounts.sent hrefusal
      exact ⟨s, hsender⟩
    | some error => exact ⟨_, (haccounts.failed error hrefusal).2.1⟩

/-- A sender that a request puts under a name has failed nowhere yet. -/
theorem Move.fresh (h : w.Move r v a) (hname : name ∈ r.takes) (hs : v.sender? name = some s) :
    s.failures = 0 := by
  rw [sender?] at hs
  cases h with
  | bound hr hv =>
    rw [hr.takes, List.mem_singleton] at hname
    rw [find?_bind, if_pos hname] at hs
    exact hv.fresh hs
  | opened hr hh ht =>
    rw [hr.takes, List.mem_pair] at hname
    rw [find?_bind, find?_bind] at hs
    split at hs
    · cases hs
    · next hne =>
      rw [if_pos (hname.resolve_right hne)] at hs
      exact ht.fresh hs
  | openedTask hr hh ht =>
    rw [hr.takes, List.mem_singleton] at hname
    rw [find?_bind, if_pos hname] at hs
    exact ht.fresh hs
  | dropped =>
    rw [find?_drop, if_pos (List.mem_singleton.1 hname)] at hs
    cases hs
  | ran hm =>
    rw [find?_ran, if_pos (List.mem_singleton.1 hname)] at hs
    cases hs
  | spawned hm =>
    rw [Request.takes, List.mem_pair] at hname
    rw [find?_bind] at hs
    split at hs
    · cases hs
    · next hne =>
      rw [find?_spawned, if_pos (hname.resolve_right hne)] at hs
      cases hs
  | still hr | posted hr | severed hr | carried hr =>
    rw [hr.takes] at hname
    cases hname
  | _ => cases hname

end World

/-! ## Runs -/

namespace Exchange

/-- What is asked of the sender of frames under a name. -/
def attempt? (name : String) (x : Exchange U) : Option Attempt := x.before.attempt? name x.request

/-- The items that come onto the link of the sender when something is asked of it. -/
def frames (name : String) (x : Exchange U) : List (Item U) :=
  match x.before.sender? name, x.attempt? name with
  | some s, some _ => (x.after.onLink s.link).drop (x.before.onLink s.link).length
  | _, _ => []

/-- The counts of failures that are noted when something is asked of the sender. -/
def counts (name : String) (x : Exchange U) : List UInt64 :=
  match x.attempt? name with
  | some _ => (x.after.log.drop x.before.log.length).filterMap Event.failures?
  | none => []

end Exchange

namespace World

variable {w v : World U} {name : String} {s : RemoteSender} {xs : List (Exchange U)}
  {attempt : Attempt}

section Seen

variable {r : Request U} {a : Answer U}

theorem Accounts.seen (h : w.Accounts v name s attempt) (hs : w.sender? name = some s)
    (hattempt : w.attempt? name r = some attempt) :
    (∃ item, Exchange.frames name ⟨w, r, a, v⟩ = [item] ∧ Exchange.counts name ⟨w, r, a, v⟩ = [] ∧
        v.sender? name = some s) ∨
      Exchange.frames name ⟨w, r, a, v⟩ = [] ∧
        Exchange.counts name ⟨w, r, a, v⟩ = [s.failures + 1] ∧
        v.sender? name = some { s with failures := s.failures + 1 } := by
  have hframes : Exchange.frames name ⟨w, r, a, v⟩ =
      (v.onLink s.link).drop (w.onLink s.link).length := by
    simp only [Exchange.frames, Exchange.attempt?, hs, hattempt]
  have hcounts : Exchange.counts name ⟨w, r, a, v⟩ =
      (v.log.drop w.log.length).filterMap Event.failures? := by
    simp only [Exchange.counts, Exchange.attempt?, hattempt]
  rw [hframes, hcounts]
  cases hrefusal : w.refusal? s.link attempt with
  | none =>
    obtain ⟨c, bytes, -, -, hlink, -, hsender, hlog⟩ := h.sent hrefusal
    rw [hlink, hlog, List.drop_left, List.drop_length]
    exact .inl ⟨_, rfl, rfl, hsender⟩
  | some error =>
    obtain ⟨hinbox, hsender, event, hlog, -, hevent⟩ := h.failed error hrefusal
    have hsame : v.onLink s.link = w.onLink s.link := by rw [onLink, onLink, hinbox]
    rw [hsame, hlog, hevent, List.drop_left, List.drop_length]
    exact .inr ⟨rfl, rfl, hsender⟩

end Seen

/-- The frames on its link and the failures of a sender add up to what was asked of it, and the log
has its counts one after the other. -/
theorem Run.accounts (hrun : Run w xs v) (hs : w.sender? name = some s)
    (hname : ∀ x ∈ xs, name ∉ x.request.takes) :
    ∃ n, v.sender? name = some { s with failures := s.failures + .ofNat n } ∧
      (xs.flatMap (Exchange.frames name)).length + n =
        (xs.filterMap (Exchange.attempt? name)).length ∧
      xs.flatMap (Exchange.counts name) =
        (List.range' 1 n).map fun k => s.failures + .ofNat k := by
  induction hrun generalizing s with
  | nil w =>
    have hzero : s.failures + .ofNat 0 = s.failures := UInt64.add_zero _
    exact ⟨0, hzero.symm ▸ hs, rfl, rfl⟩
  | @cons w v u r a xs hanswer hrun ih =>
    rw [List.forall_mem_cons] at hname
    obtain ⟨hasked, hother⟩ := (move_of_answer hanswer).accounts hs hname.1
    rw [List.flatMap_cons, List.flatMap_cons, List.filterMap_cons]
    cases hattempt : w.attempt? name r with
    | none =>
      have hattempt' : Exchange.attempt? name ⟨w, r, a, v⟩ = none := hattempt
      have hframes : Exchange.frames name ⟨w, r, a, v⟩ = [] := by
        simp only [Exchange.frames, hs, hattempt']
      have hcounts : Exchange.counts name ⟨w, r, a, v⟩ = [] := by
        simp only [Exchange.counts, hattempt']
      rw [hattempt', hframes, hcounts]
      exact ih (hother hattempt) hname.2
    | some attempt =>
      have hattempt' : Exchange.attempt? name ⟨w, r, a, v⟩ = some attempt := hattempt
      rw [hattempt']
      rcases (hasked attempt hattempt).seen hs hattempt with
        ⟨item, hframes, hcounts, hsender⟩ | ⟨hframes, hcounts, hsender⟩
      · obtain ⟨n, hend, hsum, hlog⟩ := ih hsender hname.2
        refine ⟨n, hend, ?_, ?_⟩
        · rw [hframes, List.singleton_append, List.length_cons, List.length_cons, ← hsum]
          omega
        · rw [hcounts, List.nil_append, hlog]
      · -- The rest of the run counts on from this failure.
        obtain ⟨n, hend, hsum, hlog⟩ := ih hsender hname.2
        have hnext : ∀ k, s.failures + 1 + .ofNat k = s.failures + .ofNat (k + 1) := by
          intro k
          rw [Nat.add_comm, UInt64.ofNat_add, ← UInt64.add_assoc]
          rfl
        refine ⟨n + 1, ?_, ?_, ?_⟩
        · rw [hend]
          simp only [hnext]
        · rw [hframes, List.nil_append, List.length_cons, ← hsum]
          omega
        · have hrest : List.range' 2 n = (List.range' 1 n).map fun k => 1 + k :=
            (List.map_add_range' 1 n 1).symm
          rw [hcounts, hlog, List.range'_succ, hrest, List.map_cons, List.map_map]
          simp only [hnext, Function.comp_def, Nat.add_comm 1]
          rfl

/-- From the request that makes a sender on, whatever the link and others on it do: each call,
envelope and report is accounted for, nothing else changes the sender, and at the end the frames on
its link and its failures add up to what was asked of it.  Fewer than 2⁶⁴ failures are counted as
they are. -/
theorem Run.accounts_of_new {u : World U} {r : Request U} {a : Answer U}
    (hrun : Run w xs v) (hnew : u.answer r = some (w, a)) (htakes : name ∈ r.takes)
    (hs : w.sender? name = some s) (hname : ∀ x ∈ xs, name ∉ x.request.takes) :
    (∀ x ∈ xs, ∃ t, x.before.sender? name = some t ∧
      (∀ attempt, x.attempt? name = some attempt → x.before.Accounts x.after name t attempt) ∧
      (x.attempt? name = none → x.after.sender? name = some t)) ∧
    (∃ n, v.sender? name = some { s with failures := .ofNat n } ∧
      (xs.flatMap (Exchange.frames name)).length + n =
        (xs.filterMap (Exchange.attempt? name)).length ∧
      xs.flatMap (Exchange.counts name) = (List.range' 1 n).map .ofNat ∧
      (n < UInt64.size → (UInt64.ofNat n).toNat = n ∧
        (xs.flatMap (Exchange.counts name)).map UInt64.toNat = List.range' 1 n)) ∧
    ∀ e : Envelope U, (∃ bytes, e.attempt.bytes = .ok bytes) ↔ ∃ f, e.frame? = some f ∧ f.Fits := by
  refine ⟨?_, ?_, fun e => Envelope.attempt_ok_iff⟩
  · intro x hx
    obtain ⟨⟨t, ht⟩, hanswer⟩ := hrun.forall_mem (P := fun w => ∃ t, w.sender? name = some t)
      ⟨s, hs⟩ (fun hmove hkeeps ⟨t, ht⟩ => hmove.exists_sender ht hkeeps) hname x hx
    exact ⟨t, ht, (move_of_answer hanswer).accounts ht (hname x hx)⟩
  · have hzero : s.failures = 0 := (move_of_answer hnew).fresh htakes hs
    obtain ⟨n, hend, hsum, hlog⟩ := hrun.accounts hs hname
    simp only [hzero, UInt64.zero_add] at hend hlog
    refine ⟨n, hend, hsum, hlog, fun hfew => ⟨UInt64.toNat_ofNat_of_lt' hfew, ?_⟩⟩
    rw [hlog, List.map_map]
    refine (List.map_congr_left fun k hk => ?_).trans (List.map_id _)
    have hle : k ≤ n := by
      have := List.mem_range'_1.1 hk
      omega
    exact UInt64.toNat_ofNat_of_lt' (Nat.lt_of_le_of_lt hle hfew)

end World

namespace Sample

def porch : World types := { lobby with things := [("host", .receiver 0)] }

/-- The receiver with a cross-process proxy. -/
def reception : World types where
  things := [("box", .mailbox ⟨0, ⟨.across desk, ⟨0, true⟩⟩⟩),
    ("desk", .messenger desk ⟨"Desk", .channel 0, 0⟩), ("host", .receiver 0)]
  receivers := [⟨2, []⟩]
  channels := [⟨[], 1, true⟩]
  tasks := []
  ready := []
  log := []

/-- The mailbox goes after the first call, so the second one fails. -/
def inquiries : List (Request types) :=
  [.call "desk" "greet" ⟨[.text], ("Ada", ())⟩, .drop "box",
    .call "desk" "greet" ⟨[.text], ("Bob", ())⟩, .report "desk" 7 World.channelClosed]

end Sample

open Sample in
theorem World.Run.accounts_of_new_reception :
    ∃ v xs, reception.perform inquiries = some (v, xs) ∧
      v.sender? "desk" = some ⟨"Desk", .channel 0, 2⟩ ∧
      xs.flatMap (Exchange.counts "desk") = [1, 2] := by
  have hnew : porch.answer (.host desk "host" "desk" "box") = some (reception, .done) := rfl
  have htakes : "desk" ∈ (Request.host desk "host" "desk" "box").takes := by decide
  have hs : reception.sender? "desk" = some ⟨"Desk", .channel 0, 0⟩ := rfl
  obtain ⟨⟨v, xs⟩, hperform⟩ : ∃ p, reception.perform inquiries = some p :=
    Option.isSome_iff_exists.1 rfl
  obtain ⟨hrun, hrequests⟩ := Run.of_perform hperform
  have hname : ∀ r ∈ inquiries, "desk" ∉ r.takes := by
    simp [inquiries, Request.takes]
  obtain ⟨-, ⟨n, hend, hsum, hcounts, -⟩, -⟩ := hrun.accounts_of_new hnew htakes hs
    fun x hx => hname x.request (hrequests ▸ List.mem_map_of_mem hx)
  have hframes : (reception.perform inquiries).map (fun p =>
      ((p.2.flatMap (Exchange.frames "desk")).length,
        (p.2.filterMap (Exchange.attempt? "desk")).length)) = some (1, 3) := rfl
  rw [hperform] at hframes
  obtain ⟨hframes, hattempts⟩ : (xs.flatMap (Exchange.frames "desk")).length = 1 ∧
      (xs.filterMap (Exchange.attempt? "desk")).length = 3 :=
    Prod.mk.inj (Option.some.inj hframes)
  obtain rfl : n = 2 := by omega
  exact ⟨v, xs, hperform, hend, hcounts⟩

end Relay
