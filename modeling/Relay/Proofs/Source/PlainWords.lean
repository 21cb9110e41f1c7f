import Relay.Proofs.Source.Continuations

/-!
# Words read as names

A word that is read as a name is that name.  Nothing in front of it is skipped, since no blank starts
a word, and the name ends where the word does.
-/

namespace Relay

namespace Text

theorem exists_range_of_inRanges {point : Nat} {ranges : List (Nat × Nat)}
    (h : inRanges point ranges = true) : ∃ r ∈ ranges, r.1 ≤ point ∧ point ≤ r.2 := by
  induction ranges with
  | nil => cases h
  | cons r rest ih =>
    obtain ⟨low, high⟩ := r
    rw [inRanges] at h
    split at h
    · cases h
    · next hlow =>
      simp only [Bool.or_eq_true, decide_eq_true_eq] at h
      rcases h with hhigh | hrest
      · exact ⟨(low, high), List.mem_cons_self, Nat.le_of_not_lt hlow, hhigh⟩
      · obtain ⟨r, hr, hpoint⟩ := ih hrest
        exact ⟨r, List.mem_cons_of_mem _ hr, hpoint⟩

end Text

namespace Lexer

/-- Stretches of code points in which no word starts.  All blanks are in them, and the byte order
mark. -/
def gaps : List (Nat × Nat) :=
  [(0, 0x40), (0x85, 0xa0), (0x1680, 0x1680), (0x2000, 0x205f), (0x3000, 0x3000), (0xfeff, 0xfeff)]

def InGap (point : Nat) : Prop := ∃ g ∈ gaps, g.1 ≤ point ∧ point ≤ g.2

theorem not_inGap_of_startsWord {c : Char} (h : startsWord c = true) : ¬ InGap c.toNat := by
  have hranges : (gaps.all fun g =>
      Text.identifierStart.all fun r => Nat.blt r.2 g.1 || Nat.blt g.2 r.1) = true := by
    decide +kernel
  have hunderscore : ∀ g ∈ gaps, ¬ (g.1 ≤ '_'.toNat ∧ '_'.toNat ≤ g.2) := by decide
  rintro ⟨g, hg, hlow, hhigh⟩
  rw [startsWord, Bool.or_eq_true, beq_iff_eq] at h
  rcases h with rfl | h
  · exact hunderscore g hg ⟨hlow, hhigh⟩
  · obtain ⟨r, hr, hbounds⟩ := Text.exists_range_of_inRanges h
    have hapart := List.all_eq_true.1 (List.all_eq_true.1 hranges g hg) r hr
    simp only [Bool.or_eq_true, Nat.blt_eq] at hapart
    omega

theorem inGap_of_isBlank {c : Char} (h : isBlank c = true) : InGap c.toNat := by
  simp only [isBlank, Bool.or_eq_true, Bool.and_eq_true, decide_eq_true_eq,
    UInt32.le_iff_toNat_le, List.contains_iff_mem] at h
  rcases h with (⟨hlow, hhigh⟩ | ⟨hlow, hhigh⟩) | hlisted
  · exact ⟨(0, 0x40), by decide, Nat.zero_le _, Nat.le_trans hhigh (by decide)⟩
  · exact ⟨(0x2000, 0x205f), by decide, hlow, Nat.le_trans hhigh (by decide)⟩
  · have hpoints : ([(0x20 : UInt32), 0x85, 0xa0, 0x1680, 0x200e, 0x200f, 0x2028, 0x2029, 0x202f,
        0x205f, 0x3000].all fun v => gaps.any fun g =>
          Nat.ble g.1 v.toNat && Nat.ble v.toNat g.2) = true := by
      rfl
    obtain ⟨g, hg, hpoint⟩ := List.any_eq_true.1 (List.all_eq_true.1 hpoints c.val hlisted)
    rw [Bool.and_eq_true, Nat.ble_eq, Nat.ble_eq] at hpoint
    exact ⟨g, hg, hpoint⟩

theorem afterIdentifier?_word {cs rest : List Char} (hword : isWord cs = true)
    (h : afterIdentifier? cs = some rest) : rest = [] := by
  have hplain := Source.plainChars_of_word hword
  unfold afterIdentifier? at h
  split at h
  · cases h
  · unfold afterAnyWord? at h
    split at h
    · next tail hopenings =>
      have hlength : tail.length = tail.length + 2 := congrArg List.length hplain
      omega
    · cases cs with
      | nil => cases h
      | cons c tail =>
        rw [isWord, Bool.and_eq_true, List.all_eq_true] at hword
        rw [Literal.afterWord?, if_pos hword.1, Option.some.injEq] at h
        rw [← h, List.dropWhile_eq_nil_iff]
        exact hword.2

/-- A byte order mark is not the start of a word. -/
theorem unmarked_of_startsWord {c : Char} {cs : List Char} (h : startsWord c = true) :
    unmarked (c :: cs) = c :: cs := by
  rw [unmarked.eq_2]
  rintro _ ⟨⟩
  exact absurd ⟨(0xfeff, 0xfeff), by decide, by decide⟩ (not_inGap_of_startsWord h)

theorem afterBlank?_of_startsWord {c : Char} {cs : List Char} (h : startsWord c = true) :
    afterBlank? (c :: cs) = none := by
  refine afterBlank?_eq_none ?_ ?_
  · rintro rfl
    exact absurd (by decide) (not_mem_marks h)
  · cases hblank : isBlank c with
    | false => rfl
    | true => exact absurd (inGap_of_isBlank hblank) (not_inGap_of_startsWord h)

theorem exists_startsWord_of_isWord {cs : List Char} (h : isWord cs = true) :
    ∃ c tail, cs = c :: tail ∧ startsWord c = true := by
  cases cs with
  | nil => cases h
  | cons c tail =>
    rw [isWord, Bool.and_eq_true] at h
    exact ⟨c, tail, rfl, h.1⟩

theorem unmarked_word {cs : List Char} (h : isWord cs = true) : unmarked cs = cs := by
  obtain ⟨c, tail, rfl, hc⟩ := exists_startsWord_of_isWord h
  exact unmarked_of_startsWord hc

theorem Skips.word {cs rest : List Char} (hword : isWord cs = true) (h : Skips cs rest) :
    rest = cs := by
  obtain ⟨c, tail, rfl, hc⟩ := exists_startsWord_of_isWord hword
  exact h.unique (.stop (afterBlank?_of_startsWord hc))

end Lexer

/-- A word can be read as a name if it is none of the kept ones, and then as the word that it is. -/
theorem Source.readName_word {text word : String} (htext : isWord text.toList = true)
    (h : readName text = .ok word) : word = text ∧ isName text = true := by
  obtain ⟨⟨cs, rest, hcs, hrest, -, rfl⟩, hname⟩ := readName_eq_ok.1 h
  rw [Lexer.unmarked_word htext] at hcs
  obtain rfl := hcs.word htext
  obtain rfl := Lexer.afterIdentifier?_word htext hrest
  rw [Lexer.front, List.length_nil, Nat.sub_zero, List.take_length, String.ofList_toList]
    at hname ⊢
  exact ⟨rfl, hname⟩

end Relay
