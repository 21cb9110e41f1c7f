import Relay.Wire.Reader

/-!
# Readers that match writers

A reader *matches* a writer when it succeeds on exactly the bytes that the writer lays out: it
yields a value and leaves a rest precisely when the bytes are the layout of the value with the rest
behind it.  One equivalence holds both halves of a codec.  From right to left, what was written is
read back; from left to right, nothing else is accepted, so a value has one layout and reading looks
at no byte behind it.

The lemmas follow the way in which readers are put together.  Each combinator has one, and each
leaf of the format is matched once; the composite forms are then built from these.
-/

namespace Relay

/-! ## Outputs -/

namespace Output

@[simp] theorem ofBytes_inj {a b : List UInt8} : ofBytes a = ofBytes b ↔ a = b := by
  simp [ofBytes]

@[simp] theorem stop_ne_ofBytes (e : WireError) (bytes : List UInt8) : stop e ≠ ofBytes bytes := by
  simp [stop, ofBytes]

/-- Two things in a row are written in full exactly when each of them is. -/
theorem append_eq_ofBytes {a b : Output} {bytes : List UInt8} :
    a ++ b = ofBytes bytes ↔
      ∃ front back, a = ofBytes front ∧ b = ofBytes back ∧ bytes = front ++ back := by
  obtain ⟨aBytes, aFault⟩ := a
  obtain ⟨bBytes, bFault⟩ := b
  change append _ _ = _ ↔ _
  cases aFault with
  | none =>
    simp only [append, ofBytes, mk.injEq, and_true]
    constructor
    · rintro ⟨rfl, rfl⟩
      exact ⟨aBytes, bBytes, rfl, ⟨rfl, rfl⟩, rfl⟩
    · rintro ⟨front, back, rfl, ⟨rfl, hfault⟩, rfl⟩
      exact ⟨rfl, hfault⟩
  | some e => simp [append, ofBytes]

theorem result_eq_ok {o : Output} {bytes : List UInt8} :
    o.result = .ok bytes ↔ o = ofBytes bytes := by
  obtain ⟨written, fault⟩ := o
  cases fault <;> simp [result, ofBytes]

end Output

/-! ## Running readers -/

namespace Reader

variable {α β γ : Type}

/-- A step whose value is passed through a function hands on the value of the function. -/
theorem return_bind (r : Reader α) (g : α → β) (next : β → Reader γ) :
    ((do return g (← r)) >>= next) = r >>= fun a => next (g a) := by
  funext bytes
  change Reader.bind (Reader.bind r fun a => Reader.pure (g a)) next bytes =
    Reader.bind r (fun a => next (g a)) bytes
  unfold Reader.bind
  cases r bytes with
  | mk result rest => cases result <;> rfl

theorem pure_eq_ok {a b : α} {bytes rest : List UInt8} :
    (pure a : Reader α) bytes = (.ok b, rest) ↔ a = b ∧ bytes = rest := by
  change (Except.ok a, bytes) = (.ok b, rest) ↔ _
  simp

theorem fail_ne_ok {e : WireError} {b : α} {bytes rest : List UInt8} :
    (fail e : Reader α) bytes ≠ (.ok b, rest) := by
  simp [fail]

theorem bind_of_ok {r : Reader α} {next : α → Reader β} {bytes rest : List UInt8} {a : α}
    (h : r bytes = (.ok a, rest)) : (r >>= next) bytes = next a rest := by
  change Reader.bind r next bytes = _
  rw [Reader.bind, h]

theorem bind_of_error {r : Reader α} {next : α → Reader β} {bytes rest : List UInt8}
    {e : WireError} (h : r bytes = (.error e, rest)) : (r >>= next) bytes = (.error e, rest) := by
  change Reader.bind r next bytes = _
  rw [Reader.bind, h]

/-- A step and what follows it succeed together, the second on what the first left. -/
theorem bind_eq_ok {r : Reader α} {next : α → Reader β} {b : β} {bytes rest : List UInt8} :
    (r >>= next) bytes = (.ok b, rest) ↔
      ∃ a mid, r bytes = (.ok a, mid) ∧ next a mid = (.ok b, rest) := by
  constructor
  · intro h
    rcases hfirst : r bytes with ⟨e | a, mid⟩
    · rw [bind_of_error hfirst] at h
      simp at h
    · rw [bind_of_ok hfirst] at h
      exact ⟨a, mid, rfl, h⟩
  · rintro ⟨a, mid, hfirst, hnext⟩
    rw [bind_of_ok hfirst, hnext]

/-- The reader accepts the layouts that the writer gives to values with a property, and nothing
else. -/
def MatchesOn (P : α → Prop) (r : Reader α) (w : α → Output) : Prop :=
  ∀ a bytes rest, r bytes = (.ok a, rest) ↔
    P a ∧ ∃ used, w a = .ofBytes used ∧ bytes = used ++ rest

/-- The reader accepts the layouts that the writer produces, and nothing else. -/
def Matches (r : Reader α) (w : α → Output) : Prop :=
  ∀ a bytes rest, r bytes = (.ok a, rest) ↔ ∃ used, w a = .ofBytes used ∧ bytes = used ++ rest

theorem MatchesOn.matches {P : α → Prop} {r : Reader α} {w : α → Output} (h : r.MatchesOn P w)
    (hP : ∀ a, P a) : r.Matches w := by
  intro a bytes rest
  rw [h a bytes rest, and_iff_right (hP a)]

namespace Matches

variable {r : Reader α} {s : Reader β} {w : α → Output} {v : β → Output}

/-- What was written is read back, whatever follows it. -/
theorem read (h : r.Matches w) {a : α} {used : List UInt8} (hw : w a = .ofBytes used)
    (rest : List UInt8) : r (used ++ rest) = (.ok a, rest) :=
  (h a _ _).2 ⟨used, hw, rfl⟩

/-- A value made of one part is read by reading the part. -/
theorem mapOn (h : r.Matches w) {f : α → γ} {u : γ → Output} {P : γ → Prop}
    (hu : ∀ a, P (f a) ∧ u (f a) = w a) (hf : ∀ c, P c → ∃ a, f a = c) :
    MatchesOn P (do return f (← r)) u := by
  intro c bytes rest
  simp only [bind_eq_ok, pure_eq_ok]
  constructor
  · rintro ⟨a, mid, hread, rfl, rfl⟩
    rw [(hu a).2]
    exact ⟨(hu a).1, (h a _ _).1 hread⟩
  · rintro ⟨hc, used, hwrite, rfl⟩
    obtain ⟨a, rfl⟩ := hf c hc
    exact ⟨a, rest, h.read ((hu a).2 ▸ hwrite) rest, rfl, rfl⟩

/-- A value made of two parts is read by reading them in the order in which they were written. -/
theorem mapOn₂ (hr : r.Matches w) (hs : s.Matches v) {f : α → β → γ} {u : γ → Output}
    {P : γ → Prop} (hu : ∀ a b, P (f a b) ∧ u (f a b) = w a ++ v b)
    (hf : ∀ c, P c → ∃ a b, f a b = c) :
    MatchesOn P (do let a ← r; return f a (← s)) u := by
  intro c bytes rest
  simp only [bind_eq_ok, pure_eq_ok]
  constructor
  · rintro ⟨a, mid, hfirst, b, tail, hsecond, rfl, rfl⟩
    obtain ⟨front, ha, rfl⟩ := (hr a _ _).1 hfirst
    obtain ⟨back, hb, rfl⟩ := (hs b _ _).1 hsecond
    refine ⟨(hu a b).1, front ++ back, ?_, by simp⟩
    rw [(hu a b).2]
    exact Output.append_eq_ofBytes.2 ⟨front, back, ha, hb, rfl⟩
  · rintro ⟨hc, used, hwrite, rfl⟩
    obtain ⟨a, b, rfl⟩ := hf c hc
    rw [(hu a b).2] at hwrite
    obtain ⟨front, back, ha, hb, rfl⟩ := Output.append_eq_ofBytes.1 hwrite
    refine ⟨a, back ++ rest, ?_, b, rest, hs.read hb rest, rfl, rfl⟩
    rw [List.append_assoc]
    exact hr.read ha _

theorem map (h : r.Matches w) {f : α → γ} {u : γ → Output} (hu : ∀ a, u (f a) = w a)
    (hf : ∀ c, ∃ a, f a = c) : Matches (do return f (← r)) u :=
  (h.mapOn (fun a => ⟨trivial, hu a⟩) fun c _ => hf c).matches fun _ => trivial

theorem map₂ (hr : r.Matches w) (hs : s.Matches v) {f : α → β → γ} {u : γ → Output}
    (hu : ∀ a b, u (f a b) = w a ++ v b) (hf : ∀ c, ∃ a b, f a b = c) :
    Matches (do let a ← r; return f a (← s)) u :=
  (hr.mapOn₂ hs (fun a b => ⟨trivial, hu a b⟩) fun c _ => hf c).matches fun _ => trivial

end Matches

end Reader

end Relay
