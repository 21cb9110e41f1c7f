import Relay.Proofs.Wire.Assembly
import Relay.Proofs.Wire.Leaves

/-!
# Truncated frames and trailing bytes

A reader decides by the bytes it consumes.  What it makes of some bytes, a value or a complaint, it
makes of them in front of any others as well; the one answer that more bytes can change is that the
bytes ran out.  Such readers are called steady here.  Taking bytes is steady, and so is whatever is
put together from steady readers (`Reader.Assembled.steady`), so the reader of frames is; no leaf of
the format has to be looked at for more than that it takes its bytes from the front.

Bytes that are left over are the business of `Frame.decode` alone: no reader complains of them.
-/

namespace Relay

namespace Reader

variable {α β : Type}

/-- Unless it runs out of bytes, the reader gives the same answer when more bytes follow, and leaves
them.  It never complains of bytes that are left over. -/
structure Steady (r : Reader α) : Prop where
  extend : ∀ bytes more, (r bytes).1 ≠ .error .unexpectedEnd →
    r (bytes ++ more) = ((r bytes).1, (r bytes).2 ++ more)
  silent : ∀ bytes n, (r bytes).1 ≠ .error (.trailingBytes n)

theorem steady_take (n : Nat) : (Read.take n).Steady := by
  refine ⟨fun bytes more => ?_, fun bytes count => ?_⟩
  · unfold Read.take
    cases hsplit : splitExact n bytes with
    | none => exact fun h => (h rfl).elim
    | some parts =>
      obtain ⟨hlen, rfl⟩ := splitExact_eq_some.1 hsplit
      have hmore : splitExact n (parts.1 ++ parts.2 ++ more) = some (parts.1, parts.2 ++ more) :=
        splitExact_eq_some.2 ⟨hlen, List.append_assoc ..⟩
      rw [hmore]
      exact fun _ => rfl
  · unfold Read.take
    split <;> simp

theorem Steady.bind {r : Reader α} {next : α → Reader β} (hr : r.Steady)
    (hnext : ∀ a, (next a).Steady) : (r >>= next).Steady := by
  refine ⟨fun bytes more h => ?_, fun bytes n h => ?_⟩
  · have hmore := hr.extend bytes more
    rcases hfirst : r bytes with ⟨e | a, rest⟩
    · rw [bind_of_error hfirst] at h ⊢
      rw [hfirst] at hmore
      exact bind_of_error (hmore (by simpa using h))
    · rw [bind_of_ok hfirst] at h ⊢
      rw [hfirst] at hmore
      rw [bind_of_ok (hmore (by simp))]
      exact (hnext a).extend rest more h
  · rcases hfirst : r bytes with ⟨e | a, rest⟩
    · rw [bind_of_error hfirst] at h
      obtain rfl : e = .trailingBytes n := by simpa using h
      exact hr.silent bytes n (by rw [hfirst])
    · rw [bind_of_ok hfirst] at h
      exact (hnext a).silent rest n h

theorem Assembled.steady {r : Reader α} (h : r.Assembled) : r.Steady := by
  induction h with
  | pure a => exact ⟨fun _ _ _ => rfl, fun _ _ h => nomatch h⟩
  | fail hsilent => exact ⟨fun _ _ _ => rfl, fun _ n heq => hsilent n (Except.error.inj heq)⟩
  | take n => exact steady_take n
  | bind _ _ ihr ihnext => exact ihr.bind ihnext

end Reader

namespace Frame

theorem readCanonical_steady : readCanonical.Steady := readCanonical_assembled.steady

theorem decode_of_error {bytes rest : List UInt8} {e : WireError}
    (h : readCanonical bytes = (.error e, rest)) : decode bytes = .error e := by
  rw [decode, h]

theorem decode_of_exact {bytes : List UInt8} {f : Frame} (h : readCanonical bytes = (.ok f, [])) :
    decode bytes = .ok f := by
  rw [decode, h]

theorem decode_of_excess {bytes rest : List UInt8} {f : Frame}
    (h : readCanonical bytes = (.ok f, rest)) (hrest : rest ≠ []) :
    decode bytes = .error (.trailingBytes rest.length) := by
  rw [decode, h]
  cases rest with
  | nil => exact (hrest rfl).elim
  | cons b rest => rfl

/-- More bytes behind a frame are left over, and counted; more bytes behind a complaint do not
change it.  So all that a proper prefix of a frame can lack is bytes. -/
theorem decode_append (bytes : List UInt8) {more : List UInt8} (hmore : more ≠ []) :
    (∀ f, decode bytes = .ok f → decode (bytes ++ more) = .error (.trailingBytes more.length)) ∧
    (∀ n, decode bytes = .error (.trailingBytes n) →
      decode (bytes ++ more) = .error (.trailingBytes (n + more.length))) ∧
    (∀ e, decode bytes = .error e → e ≠ .unexpectedEnd → (∀ n, e ≠ .trailingBytes n) →
      decode (bytes ++ more) = .error e) ∧
    (∀ f, decode (bytes ++ more) = .ok f → decode bytes = .error .unexpectedEnd) := by
  have hextend := readCanonical_steady.extend bytes more
  rcases hread : readCanonical bytes with ⟨e | f, rest⟩
  · have hdecode := decode_of_error hread
    rw [hread] at hextend
    by_cases hend : e = .unexpectedEnd
    · subst hend
      simp [hdecode]
    · have hsame : decode (bytes ++ more) = .error e :=
        decode_of_error (hextend (by simpa using hend))
      have hsilent : ∀ n, e ≠ .trailingBytes n := by
        intro n heq
        exact readCanonical_steady.silent bytes n (by rw [hread, heq])
      simp [hdecode, hsame, hsilent]
  · rw [hread] at hextend
    have hleft : rest ++ more ≠ [] := List.append_ne_nil_of_right_ne_nil rest hmore
    have hexcess := decode_of_excess (hextend (by simp)) hleft
    rw [List.length_append] at hexcess
    cases rest with
    | nil =>
      have hdecode := decode_of_exact hread
      simp [hdecode, hexcess]
    | cons b rest =>
      have hdecode := decode_of_excess hread (List.cons_ne_nil b rest)
      simp [hdecode, hexcess]

/-- A frame without data, two bytes behind it, and the frame without its last three bytes. -/
theorem decode_append_bare :
    decode [0x52, 1, 0, 0, 0, 0x51] = .ok ⟨1, none⟩ ∧
      decode ([0x52, 1, 0, 0, 0, 0x51] ++ [9, 9]) = .error (.trailingBytes 2) ∧
      decode [0x52, 1, 0] = .error .unexpectedEnd := by
  have hfull : decode [0x52, 1, 0, 0, 0, 0x51] = .ok ⟨1, none⟩ := rfl
  refine ⟨hfull, (decode_append _ (List.cons_ne_nil 9 [9])).1 _ hfull, ?_⟩
  exact (decode_append [0x52, 1, 0] (List.cons_ne_nil 0 [0, 0x51])).2.2.2 _ hfull

end Frame

end Relay
