import Mathlib.Data.List.TakeWhile
import Relay.Proofs.Source.Words

/-!
# Names with an ending

A text that is read as a name can have blanks and comments around the name.  So it depends on the
text what becomes of an ending that is put behind it: the name goes on with it, a comment at the end
of the text swallows it, or it is a second word and no name is read any more.  It does not depend on
the ending.
-/

namespace Relay

/-! ## Endings -/

/-- What can stand at the end of a word without making it one of the words that are kept. -/
structure Ending (s : List Char) : Prop where
  word : ∀ c ∈ s, continuesWord c = true
  solid : ∀ c ∈ s, Lexer.isBlank c = false
  free : ∀ word ∈ reservedWords, ¬ s <:+ word.toList

namespace Ending

variable {s : List Char} (h : Ending s)

include h

theorem ne_nil : s ≠ [] := by
  rintro rfl
  exact h.free "as" (by decide) List.nil_suffix

theorem not_mem {c : Char} (hc : continuesWord c = false) : c ∉ s := by
  intro hmem
  rw [h.word c hmem] at hc
  cases hc

theorem newline_not_mem : '\n' ∉ s := by
  intro hmem
  cases h.solid _ hmem

theorem ofList_not_mem (cs : List Char) : String.ofList (cs ++ s) ∉ reservedWords := by
  intro hmem
  apply h.free _ hmem
  rw [String.toList_ofList]
  exact List.suffix_append cs s

theorem isName_append (cs : List Char) : isName (String.ofList (cs ++ s)) = true := by
  rw [isName, Bool.not_eq_true', ← Bool.not_eq_true, List.contains_iff_mem]
  exact h.ofList_not_mem cs

/-- An ending starts with a character that has no meaning of its own. -/
theorem exists_cons : ∃ c tail, s = c :: tail ∧ c ≠ '/' ∧ c ≠ '!' ∧ c ≠ '#' ∧
    Lexer.isBlank c = false := by
  obtain ⟨c, tail, rfl⟩ := List.exists_cons_of_ne_nil h.ne_nil
  have hne {mark : Char} (hmark : continuesWord mark = false) : c ≠ mark := by
    rintro rfl
    exact h.not_mem hmark List.mem_cons_self
  exact ⟨c, tail, rfl, hne rfl, hne rfl, hne rfl,
    h.solid c List.mem_cons_self⟩

end Ending

namespace Lexer

variable {cs mid rest s : List Char}

/-! ### Endings behind blanks and comments -/

theorem lineEnd_cons (c : Char) (rest : List Char) : lineEnd (c :: rest) =
    if c = '\n' ∨ c = '\r' ∧ rest.head? = some '\n' then c :: rest else lineEnd rest := by
  split
  · next h =>
    rcases h with rfl | ⟨rfl, hhead⟩
    · rfl
    · obtain ⟨tail, rfl⟩ := List.head?_eq_some_iff.1 hhead
      rfl
  · next h =>
    rw [not_or] at h
    refine lineEnd.eq_4 c rest h.1 fun tail hreturn htail => h.2 ⟨hreturn, ?_⟩
    rw [htail, List.head?_cons]

theorem lineEnd_eq_nil (h : '\n' ∉ cs) : lineEnd cs = [] := by
  induction cs with
  | nil => rfl
  | cons c rest ih =>
    rw [List.mem_cons, not_or] at h
    rw [lineEnd_cons, if_neg, ih h.2]
    rintro (rfl | ⟨-, hhead⟩)
    · exact h.1 rfl
    · exact h.2 (List.mem_of_mem_head? hhead)

theorem lineEnd_append (h : '\n' ∈ cs) : lineEnd (cs ++ s) = lineEnd cs ++ s := by
  induction cs with
  | nil => cases h
  | cons c rest ih =>
    rw [List.cons_append, lineEnd_cons, lineEnd_cons]
    cases rest with
    | nil =>
      obtain rfl : '\n' = c := List.mem_singleton.1 h
      rfl
    | cons c' rest =>
      rw [List.cons_append, List.head?_cons, List.head?_cons]
      split
      · rfl
      · next hc =>
        have hne : '\n' ≠ c := fun hnewline => hc (.inl hnewline.symm)
        exact ih ((List.mem_cons.1 h).resolve_left hne)

theorem afterBlock?_append {depth : Nat} (h : afterBlock? depth cs = some rest) :
    afterBlock? depth (cs ++ s) = some (rest ++ s) := by
  fun_induction afterBlock? depth cs with
  | case1 depth cs ih => exact ih h
  | case2 depth cs hdepth =>
    cases h
    exact if_pos hdepth
  | case3 depth cs hdepth ih => exact (if_neg hdepth).trans (ih h)
  | case4 depth c cs hopen hclose ih =>
    -- What follows is not empty, so the ending makes no mark of its first character.
    obtain ⟨c', cs, rfl⟩ : ∃ c' cs', cs = c' :: cs' := by
      cases cs with
      | nil => cases h
      | cons c' cs' => exact ⟨c', cs', rfl⟩
    refine (afterBlock?.eq_3 depth c (c' :: cs ++ s) ?_ ?_).trans (ih h)
    · rintro tail hc ⟨⟩
      exact hopen cs hc rfl
    · rintro tail hc ⟨⟩
      exact hclose cs hc rfl
  | case5 => cases h

theorem documentsLine_iff : documentsLine cs = true ↔
    cs[0]? = some '!' ∨ cs[0]? = some '/' ∧ cs[1]? ≠ some '/' := by
  unfold documentsLine
  split
  · simp
  · simp
  · next tail _ => cases tail <;> simp_all
  · cases cs <;> simp_all

theorem documentsBlock_iff : documentsBlock cs = true ↔
    cs[0]? = some '!' ∨ cs[0]? = some '*' ∧ cs[1]? ≠ some '*' ∧ cs[1]? ≠ some '/' := by
  unfold documentsBlock
  split
  · simp
  · simp
  · simp
  · next tail _ _ => cases tail <;> simp_all
  · cases cs <;> simp_all

/-- Only the first two characters behind the start of a comment matter. -/
theorem documentsLine_append (hs : Ending s) (h : ¬ documentsLine cs = true) :
    ¬ documentsLine (cs ++ s) = true := by
  obtain ⟨c, tail, rfl, hslash, hbang, -⟩ := hs.exists_cons
  rw [documentsLine_iff] at h ⊢
  rcases cs with _ | ⟨c₀, _ | ⟨c₁, cs⟩⟩ <;> simp_all

theorem documentsBlock_append (hcs : cs ≠ []) (h : ¬ documentsBlock cs = true) :
    ¬ documentsBlock (cs ++ s) = true := by
  rw [documentsBlock_iff] at h ⊢
  rcases cs with _ | ⟨c₀, _ | ⟨c₁, cs⟩⟩ <;> simp_all

theorem afterBlank?_of_isBlank {c : Char} (h : isBlank c = true) :
    afterBlank? (c :: cs) = some cs := by
  unfold afterBlank?
  split
  · next hc =>
    cases hc
    cases h
  · next hc =>
    cases hc
    cases h
  · next hc =>
    cases hc
    exact if_pos h
  · next hc => cases hc

theorem afterBlank?_eq_none {c : Char} (hslash : c ≠ '/') (hblank : isBlank c = false) :
    afterBlank? (c :: cs) = none := by
  unfold afterBlank?
  split
  · next hc =>
    cases hc
    exact absurd rfl hslash
  · next hc =>
    cases hc
    exact absurd rfl hslash
  · next hc =>
    cases hc
    rw [hblank]
    rfl
  · rfl

theorem afterBlank?_ending (hs : Ending s) : afterBlank? s = none := by
  obtain ⟨c, tail, rfl, hslash, -, -, hblank⟩ := hs.exists_cons
  exact afterBlank?_eq_none hslash hblank

/-- An ending behind a blank or comment stays there, unless the comment has no end. -/
theorem afterBlank?_append (h : afterBlank? cs = some mid) :
    (∀ s, Ending s → afterBlank? (cs ++ s) = some (mid ++ s)) ∨
      mid = [] ∧ ∀ s, Ending s → afterBlank? (cs ++ s) = some [] := by
  unfold afterBlank? at h
  split at h
  · next line =>
    split at h
    · cases h
    · next hplain =>
      cases h
      have hafter (s : List Char) (hs : Ending s) :
          afterBlank? ('/' :: '/' :: line ++ s) = some (lineEnd (line ++ s)) :=
        if_neg (documentsLine_append hs hplain)
      by_cases hline : '\n' ∈ line
      · left
        intro s hs
        rw [hafter s hs, lineEnd_append hline]
      · refine .inr ⟨lineEnd_eq_nil hline, fun s hs => ?_⟩
        rw [hafter s hs, lineEnd_eq_nil]
        rw [List.mem_append, not_or]
        exact ⟨hline, hs.newline_not_mem⟩
  · next body =>
    split at h
    · cases h
    · next hplain =>
      left
      intro s hs
      have hbody : body ≠ [] := by
        rintro rfl
        cases h
      exact (if_neg (documentsBlock_append hbody hplain)).trans (afterBlock?_append h)
  · next c rest _ _ =>
    split at h
    · next hblank =>
      cases h
      exact .inl fun s _ => afterBlank?_of_isBlank hblank
    · cases h
  · cases h

theorem Skips.append (h : Skips cs rest) (hrest : rest ≠ []) (hs : Ending s)
    (hstop : afterBlank? (rest ++ s) = none) : Skips (cs ++ s) (rest ++ s) := by
  induction h with
  | stop => exact .stop hstop
  | blank hblank hskips ih =>
    rcases afterBlank?_append hblank with hmid | ⟨rfl, -⟩
    · exact .blank (hmid s hs) (ih hrest hstop)
    · exact absurd (hskips.unique (.stop rfl)) hrest

theorem Skips.append_of_nil (h : Skips cs []) :
    (∀ s, Ending s → Skips (cs ++ s) s) ∨ ∀ s, Ending s → Skips (cs ++ s) [] := by
  generalize hnil : [] = rest at h
  induction h with
  | stop =>
    subst hnil
    exact .inl fun s hs => .stop (afterBlank?_ending hs)
  | blank hblank _ ih =>
    rcases afterBlank?_append hblank with hmid | ⟨-, hmid⟩
    · rcases ih hnil with hleft | hnone
      · exact .inl fun s hs => .blank (hmid s hs) (hleft s hs)
      · exact .inr fun s hs => .blank (hmid s hs) (hnone s hs)
    · subst hnil
      exact .inr fun s hs => .blank (hmid s hs) (.stop rfl)

/-! ### Endings behind words -/

/-- What is left of a text behind a word if an ending is added to the text. -/
def leftWith (rest s : List Char) : List Char := if rest = [] then [] else rest ++ s

/-- The word in front, which grows by the ending if nothing stands between the two. -/
theorem front_leftWith (cs rest s : List Char) :
    front (cs ++ rest ++ s) (leftWith rest s) = if rest = [] then cs ++ s else cs := by
  unfold leftWith
  split
  · next hrest =>
    rw [hrest, List.append_nil]
    simpa using front_append (cs ++ s) []
  · rw [List.append_assoc, front_append]

theorem afterWord?_append (hs : Ending s) (h : Literal.afterWord? cs = some rest) :
    Literal.afterWord? (cs ++ s) = some (leftWith rest s) := by
  cases cs with
  | nil => cases h
  | cons c tail =>
    simp only [Literal.afterWord?, Option.ite_none_right_eq_some, Option.some.injEq] at h
    obtain ⟨hc, rfl⟩ := h
    have hs' : s.dropWhile continuesWord = [] := List.dropWhile_eq_nil_iff.2 hs.word
    simp only [List.cons_append, Literal.afterWord?, hc, if_true, leftWith, List.dropWhile_append,
      List.isEmpty_iff, hs']

theorem afterAnyWord?_append (hs : Ending s) (h : afterAnyWord? cs = some rest) :
    afterAnyWord? (cs ++ s) = some (leftWith rest s) := by
  unfold afterAnyWord? at h
  split at h
  · next cs =>
    obtain ⟨rest', hrest, h⟩ := Option.bind_eq_some_iff.1 h
    split at h
    · cases h
    · next hescape =>
      cases h
      obtain ⟨word, hword, rfl⟩ := exists_word hrest
      rw [front_append] at hescape
      refine Option.bind_eq_some_iff.2 ⟨_, afterWord?_append hs hrest, if_neg ?_⟩
      change ¬ unescapableWords.contains (String.ofList (front (word ++ rest ++ s) _)) = true
      rw [front_leftWith]
      split
      · have hreserved : ∀ word ∈ unescapableWords, word ∈ reservedWords := by decide
        rw [List.contains_iff_mem]
        exact fun hmem => hs.ofList_not_mem word (hreserved _ hmem)
      · exact hescape
  · next hraw =>
    obtain ⟨c, tail, rfl, -⟩ := startsWord_of_afterWord? h
    rw [afterAnyWord?.eq_2, afterWord?_append hs h]
    rintro cs' hcs'
    obtain ⟨rfl, htail⟩ := List.cons.inj hcs'
    -- An ending is no hash, so the hash stood behind the letter before.
    cases tail with
    | nil =>
      obtain ⟨c, tail, rfl, -, -, hhash, -⟩ := hs.exists_cons
      cases htail
      exact hhash rfl
    | cons c tail =>
      cases htail
      exact hraw tail rfl

theorem Unopened.append (hs : Ending s) (h : Unopened cs) : Unopened (cs ++ s) := by
  have hlast : (literalOpenings.all fun opening =>
      opening.getLast?.all fun c => !continuesWord c) = true := by
    rw [literalOpenings_eq]
    decide +kernel
  intro opening hopening hstarts
  rcases List.prefix_or_prefix_of_prefix hstarts (List.prefix_append cs s) with hcs | ⟨t, rfl⟩
  · exact h opening hopening hcs
  · rw [List.prefix_append_right_inj] at hstarts
    cases hgetLast : t.getLast? with
    | none =>
      obtain rfl := List.getLast?_eq_none_iff.1 hgetLast
      rw [List.append_nil] at hopening
      exact h cs hopening List.prefix_rfl
    | some c =>
      have hc : continuesWord c = false := by
        have hopeningLast := List.all_eq_true.1 hlast _ hopening
        rw [List.getLast?_append, hgetLast] at hopeningLast
        simpa using hopeningLast
      exact hs.not_mem hc (hstarts.mem (List.mem_of_getLast? hgetLast))

theorem afterIdentifier?_append (hs : Ending s) (h : afterIdentifier? cs = some rest) :
    afterIdentifier? (cs ++ s) = some (leftWith rest s) := by
  have hunopened := (unopened_of_afterIdentifier? h).append hs
  have hnone : ¬ literalOpenings.any (·.isPrefixOf (cs ++ s)) = true := by
    rintro hany
    obtain ⟨opening, hopening, hstarts⟩ := List.any_eq_true.1 hany
    exact hunopened opening hopening (List.isPrefixOf_iff_prefix.1 hstarts)
  unfold afterIdentifier? at h ⊢
  split at h
  · cases h
  · rw [if_neg hnone]
    exact afterAnyWord?_append hs h

theorem exists_append_of_afterIdentifier? (h : afterIdentifier? cs = some rest) :
    ∃ word, cs = word ++ rest := by
  unfold afterIdentifier? at h
  split at h
  · cases h
  · unfold afterAnyWord? at h
    split at h
    · obtain ⟨rest', hrest, h⟩ := Option.bind_eq_some_iff.1 h
      split at h
      · cases h
      · cases h
        obtain ⟨word, -, rfl⟩ := exists_word hrest
        exact ⟨'r' :: '#' :: word, rfl⟩
    · obtain ⟨word, -, rfl⟩ := exists_word h
      exact ⟨word, rfl⟩

theorem Skips.afterBlank? (h : Skips cs rest) : afterBlank? rest = none := by
  induction h with
  | stop h => exact h
  | blank _ _ ih => exact ih

theorem Skips.append_of_afterIdentifier? {text : List Char} (hs : Ending s) (h : Skips text cs)
    (hcs : afterIdentifier? cs = some rest) : Skips (text ++ s) (cs ++ s) := by
  obtain ⟨c, tail, rfl, hc⟩ := startsWord_of_afterIdentifier? hcs
  refine h.append (List.cons_ne_nil c tail) hs (afterBlank?_eq_none ?_ ?_)
  · rintro rfl
    exact not_mem_marks hc (by decide)
  · cases hblank : isBlank c with
    | false => rfl
    | true => cases h.afterBlank?.symm.trans (afterBlank?_of_isBlank hblank)

/-- What an ending makes of a word alone depends on the text only. -/
theorem Alone.append {text : List Char} {word : String} (h : Alone text word) :
    (∀ s, Ending s → Alone (text ++ s) (word ++ String.ofList s)) ∨
      (∀ s, Ending s → Alone (text ++ s) word) ∨
        ∀ s, Ending s → ∀ word', ¬ Alone (text ++ s) word' := by
  obtain ⟨cs, rest, hcs, hrest, hend, rfl⟩ := h
  obtain ⟨word, rfl⟩ := exists_append_of_afterIdentifier? hrest
  rw [front_append]
  by_cases hempty : rest = []
  · left
    intro s hs
    refine ⟨_, _, hcs.append_of_afterIdentifier? hs hrest, afterIdentifier?_append hs hrest, ?_, ?_⟩
    · rw [leftWith, if_pos hempty]
      exact .stop rfl
    · rw [front_leftWith, if_pos hempty, String.ofList_append]
  · right
    have hleft (s : List Char) : leftWith rest s = rest ++ s := if_neg hempty
    rcases hend.append_of_nil with hsecond | hnone
    · refine .inr fun s hs word' halone => ?_
      obtain ⟨cs', rest', hcs', hrest', hend', -⟩ := halone
      obtain rfl := (hcs.append_of_afterIdentifier? hs hrest).unique hcs'
      obtain rfl := Option.some.inj ((afterIdentifier?_append hs hrest).symm.trans hrest')
      rw [hleft] at hend'
      exact hs.ne_nil ((hsecond s hs).unique hend')
    · refine .inl fun s hs => ⟨_, _, hcs.append_of_afterIdentifier? hs hrest,
        afterIdentifier?_append hs hrest, ?_, ?_⟩
      · rw [hleft]
        exact hnone s hs
      · rw [front_leftWith, if_neg hempty]

theorem unmarked_append (h : cs ≠ []) : unmarked (cs ++ s) = unmarked cs ++ s := by
  obtain ⟨c, cs, rfl⟩ := List.exists_cons_of_ne_nil h
  unfold unmarked
  split
  · next hc =>
    cases hc
    rfl
  · next hplain =>
    split
    · next hc =>
      cases hc
      exact absurd rfl (hplain _)
    · rfl

end Lexer

/-- Of a text that is read as a name, an ending goes on with the name, is swallowed by a comment, or
leaves no name; which of them is the case does not depend on the ending. -/
theorem Source.readName_append {name word : String} (h : readName name = .ok word) :
    (∀ ending : String, Ending ending.toList → readName (name ++ ending) = .ok (word ++ ending)) ∨
      (∀ ending : String, Ending ending.toList → readName (name ++ ending) = .ok word) ∨
        ∀ ending : String, Ending ending.toList →
          ∀ word', readName (name ++ ending) ≠ .ok word' := by
  obtain ⟨halone, hname⟩ := readName_eq_ok.1 h
  have hne : name.toList ≠ [] := by
    intro hnil
    obtain ⟨cs, rest, hcs, hrest, -⟩ := halone
    rw [hnil] at hcs
    obtain rfl := hcs.unique (.stop rfl)
    cases hrest
  have hread {ending word' : String} : readName (name ++ ending) = .ok word' ↔
      Lexer.Alone (Lexer.unmarked name.toList ++ ending.toList) word' ∧ isName word' = true := by
    rw [readName_eq_ok, String.toList_append, Lexer.unmarked_append hne]
  rcases halone.append with hword | hnone | hsecond
  · refine .inl fun ending hending => hread.2 ⟨?_, ?_⟩
    · have := hword _ hending
      rwa [String.ofList_toList] at this
    · have := hending.isName_append word.toList
      rwa [String.ofList_append, String.ofList_toList, String.ofList_toList] at this
  · exact .inr (.inl fun ending hending => hread.2 ⟨hnone _ hending, hname⟩)
  · exact .inr (.inr fun ending hending word' hok => hsecond _ hending word' (hread.1 hok).1)

end Relay
