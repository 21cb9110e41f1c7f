import Relay.Proofs.Source.Names

/-!
# Texts of one word

A text is read as a name if it is a single word, with nothing around it but blanks and comments.
For one direction the tokens of the text are followed while they are read: a documentation comment,
a group or a second word would show in them beside the word.  For the other one, nothing that starts
a word starts a literal, a comment or a group.
-/

namespace Relay

def Token.isWord : Token → Bool
  | .word _ _ => true
  | _ => false

namespace Lexer

/-! ## What starts a word -/

/-- Characters that have a meaning of their own where a word could start. -/
def marks : List Char := punctuation ++ "()[]{}\"".toList

theorem not_mem_marks {c : Char} (h : startsWord c = true) : c ∉ marks := by
  have hmarks : (marks.all fun c => !startsWord c) = true := by rfl
  intro hc
  have hnot := List.all_eq_true.1 hmarks c hc
  rw [h] at hnot
  cases hnot

theorem not_isDigit_of_startsWord {c : Char} (h : startsWord c = true) :
    ¬ Literal.isDigit c = true := by
  have hdigits : ∀ n < 58, 48 ≤ n → Text.inRanges n Text.identifierStart = false := by
    decide
  intro hdigit
  have hbounds : 48 ≤ c.toNat ∧ c.toNat ≤ 57 := by
    simpa [Literal.isDigit, Char.le_def, UInt32.le_iff_toNat_le] using hdigit
  have hunderscore : c ≠ '_' := by
    rintro rfl
    exact absurd hbounds.2 (by decide)
  rw [startsWord, hdigits c.toNat (by omega) hbounds.1, Bool.or_false, beq_iff_eq] at h
  exact hunderscore h

theorem startsWord_of_afterWord? {cs rest : List Char} (h : Literal.afterWord? cs = some rest) :
    ∃ c tail, cs = c :: tail ∧ startsWord c = true := by
  cases cs with
  | nil => cases h
  | cons c tail =>
    simp only [Literal.afterWord?, Option.ite_none_right_eq_some] at h
    exact ⟨c, tail, rfl, h.1⟩

theorem startsWord_of_afterIdentifier? {cs rest : List Char} (h : afterIdentifier? cs = some rest) :
    ∃ c tail, cs = c :: tail ∧ startsWord c = true := by
  unfold afterIdentifier? at h
  split at h
  · cases h
  · unfold afterAnyWord? at h
    split at h
    · exact ⟨'r', _, rfl, by rfl⟩
    · exact startsWord_of_afterWord? h

/-! ## Literals -/

/-- No literal opens the text. -/
def Unopened (cs : List Char) : Prop := ∀ opening ∈ literalOpenings, ¬ opening <+: cs

theorem unopened_of_afterIdentifier? {cs rest : List Char} (h : afterIdentifier? cs = some rest) :
    Unopened cs := by
  unfold afterIdentifier? at h
  split at h
  · cases h
  · next hopenings =>
    intro opening hopening hstarts
    exact hopenings (List.any_eq_true.2 ⟨opening, hopening, List.isPrefixOf_iff_prefix.2 hstarts⟩)

theorem literalOpenings_eq : literalOpenings = [['r', '"'], ['r', '#', '"'], ['r', '#', '#'],
    ['b', '"'], ['b', '\''], ['b', 'r', '"'], ['b', 'r', '#'], ['c', '"'], ['c', 'r', '"'],
    ['c', 'r', '#']] := by
  decide

theorem prefix_of_hashes? {cs body : List Char} {count : Nat}
    (h : Literal.hashes? 0 cs = some (count, body)) :
    ['"'] <+: cs ∨ ['#', '"'] <+: cs ∨ ['#', '#'] <+: cs := by
  unfold Literal.hashes? at h
  split at h
  · unfold Literal.hashes? at h
    split at h
    · exact .inr (.inr ⟨_, rfl⟩)
    · exact .inr (.inl ⟨_, rfl⟩)
    · cases h
  · exact .inl ⟨_, rfl⟩
  · cases h

theorem prefix_of_afterString? {family : Literal.Family} {cs rest : List Char}
    (h : Literal.afterString? family cs = some rest) :
    ['"'] <+: cs ∨ ['r', '"'] <+: cs ∨ ['r', '#', '"'] <+: cs ∨ ['r', '#', '#'] <+: cs := by
  unfold Literal.afterString? at h
  split at h
  · exact .inl ⟨_, rfl⟩
  · obtain ⟨⟨count, body⟩, hbody, -⟩ := Option.bind_eq_some_iff.1 h
    have hraw := prefix_of_hashes? hbody
    simp only [List.prefix_cons_inj]
    exact .inr hraw
  · cases h

theorem afterString?_eq_none {family : Literal.Family} {cs : List Char}
    (hquote : ¬ ['"'] <+: cs) (hraw : ¬ ['r', '"'] <+: cs) (hhash : ¬ ['r', '#'] <+: cs) :
    Literal.afterString? family cs = none := by
  rw [Option.eq_none_iff_forall_ne_some]
  intro rest hrest
  have htwo (c : Char) : ['r', '#'] <+: ['r', '#', c] := ⟨[c], rfl⟩
  rcases prefix_of_afterString? hrest with h | h | h | h
  · exact hquote h
  · exact hraw h
  · exact hhash ((htwo '"').trans h)
  · exact hhash ((htwo '#').trans h)

theorem le_of_hexValue? {c : Char} {d : Nat} (hc : ¬ Literal.isDigit c = true)
    (h : Literal.hexValue? c = some d) : 10 ≤ d := by
  unfold Literal.hexValue? at h
  split at h
  · next hdigit => exact absurd hdigit hc
  · split at h
    · cases h
      omega
    · split at h
      · cases h
        omega
      · cases h

theorem afterInteger?_eq_none {c : Char} {cs : List Char} (hc : startsWord c = true) :
    Literal.afterInteger? (c :: cs) = none := by
  have hdigit := not_isDigit_of_startsWord hc
  have hbase : Literal.baseOf (c :: cs) = (10, c :: cs) := by
    unfold Literal.baseOf
    split
    case h_4 => rfl
    all_goals
      next h =>
        cases h
        exact absurd (by decide) hdigit
  have hdigits : Literal.afterDigits? 10 false (c :: cs) = none := by
    unfold Literal.afterDigits?
    split
    · rfl
    · next h =>
      cases h
      split
      · next d hd =>
        rw [if_neg (Nat.not_lt.2 (le_of_hexValue? hdigit hd))]
        rw [if_neg hdigit]
        rfl
      · rfl
    · next h => cases h
  rw [Literal.afterInteger?, hbase]
  dsimp only
  rw [hdigits]
  rfl

/-- What starts a word and is no opening of a literal starts no literal. -/
theorem after?_eq_none {c : Char} {cs : List Char} (hc : startsWord c = true)
    (h : Unopened (c :: cs)) : Literal.after? (c :: cs) = none := by
  have hmark := not_mem_marks hc
  rw [Unopened, literalOpenings_eq] at h
  simp only [List.forall_mem_cons] at h
  obtain ⟨htext, htextHash, htextHashes, hbytes, hbyte, hbytesRaw, hbytesHash, hterminated,
    hterminatedRaw, hterminatedHash, -⟩ := h
  have hstring : Literal.afterString? .text (c :: cs) = none := by
    rw [Option.eq_none_iff_forall_ne_some]
    intro rest hrest
    rcases prefix_of_afterString? hrest with h | h | h | h
    · obtain ⟨rfl, -⟩ := List.cons_prefix_cons.1 h
      exact hmark (by decide)
    · exact htext h
    · exact htextHash h
    · exact htextHashes h
  have hfloat : Literal.afterFloat? (c :: cs) = none := by
    rw [Literal.afterFloat?, Literal.afterFloatDigits?, if_neg (not_isDigit_of_startsWord hc)]
    rfl
  unfold Literal.after?
  rw [hstring, hfloat, afterInteger?_eq_none hc]
  -- What is left are the literals behind `b` and `c`, and characters.
  split
  · next hb =>
    cases hb
    rw [List.prefix_cons_inj] at hbytes hbytesRaw hbytesHash
    rw [afterString?_eq_none hbytes hbytesRaw hbytesHash]
    split
    · next hb =>
      cases hb
      exact absurd ⟨_, rfl⟩ hbyte
    · next hb => cases hb
    · rfl
  · next hc' =>
    cases hc'
    rw [List.prefix_cons_inj] at hterminated hterminatedRaw hterminatedHash
    rw [afterString?_eq_none hterminated hterminatedRaw hterminatedHash]
    split
    · next hb => cases hb
    · next hb => cases hb
    · rfl
  · split
    · next hbytes _ _ _ hb =>
      cases hb
      exact absurd rfl (hbytes _)
    · next hquote =>
      cases hquote
      exact absurd (by decide) hmark
    · rfl

/-! ## A word at the start of a text -/

theorem startsPunct_eq_false {c : Char} {cs : List Char} (hc : startsWord c = true) :
    startsPunct (c :: cs) = false := by
  have hpunctuation : c ∉ punctuation := fun h => not_mem_marks hc (List.mem_append_left _ h)
  unfold startsPunct
  split <;> simp_all

theorem leaf?_of_afterIdentifier? {cs rest : List Char} (p : Position)
    (h : afterIdentifier? cs = some rest) :
    leaf? p cs = some (.word (String.ofList (front cs rest)) (some p), rest) := by
  obtain ⟨c, tail, rfl, hc⟩ := startsWord_of_afterIdentifier? h
  unfold leaf?
  rw [after?_eq_none hc (unopened_of_afterIdentifier? h)]
  dsimp only
  split
  · next hquote =>
    cases hquote
    exact absurd (by decide) (not_mem_marks hc)
  · next hcons =>
    cases hcons
    rw [startsPunct_eq_false hc]
    simp only [Bool.false_eq_true, if_false]
    rw [h]
  · next hnil => cases hnil

theorem afterIdentifier?_of_leaf? {cs rest : List Char} {p : Position} {t : Token}
    (h : leaf? p cs = some (t, rest)) (hword : t.isWord = true) :
    afterIdentifier? cs = some rest ∧ t = .word (String.ofList (front cs rest)) (some p) := by
  unfold leaf? at h
  split at h
  · cases h
    cases hword
  · split at h
    · split at h
      · cases h
        cases hword
      · cases h
    · split at h
      · cases h
        cases hword
      · split at h
        · next hidentifier =>
          cases h
          exact ⟨hidentifier, rfl⟩
        · cases h
    · cases h

/-! ## Blanks and comments -/

/-- The text that is left behind all blanks and plain comments. -/
inductive Skips : List Char → List Char → Prop
  | stop {cs : List Char} (h : afterBlank? cs = none) : Skips cs cs
  | blank {cs mid rest : List Char} (h : afterBlank? cs = some mid) (hrest : Skips mid rest) :
    Skips cs rest

theorem length_lineEnd (cs : List Char) : (lineEnd cs).length ≤ cs.length := by
  fun_induction lineEnd cs <;> grind

theorem length_of_afterBlock? {depth : Nat} {cs rest : List Char}
    (h : afterBlock? depth cs = some rest) : rest.length < cs.length := by
  fun_induction afterBlock? depth cs <;> grind

theorem length_of_afterBlank? {cs rest : List Char} (h : afterBlank? cs = some rest) :
    rest.length < cs.length := by
  unfold afterBlank? at h
  split at h
  · next line =>
    have hle := length_lineEnd line
    split at h
    · cases h
    · cases h
      simp only [List.length_cons]
      omega
  · split at h
    · cases h
    · have hlt := length_of_afterBlock? h
      simp only [List.length_cons]
      omega
  · split at h
    · cases h
      exact Nat.lt_succ_self _
    · cases h
  · cases h

theorem skips_skipBlanks {fuel : Nat} {cs : List Char} (h : cs.length ≤ fuel) :
    Skips cs (skipBlanks fuel cs) := by
  induction fuel generalizing cs with
  | zero =>
    obtain rfl := List.length_eq_zero_iff.1 (Nat.le_zero.1 h)
    exact .stop rfl
  | succ fuel ih =>
    unfold skipBlanks
    split
    · next rest hrest =>
      have hlt := length_of_afterBlank? hrest
      exact .blank hrest (ih (by omega))
    · next hstop => exact .stop hstop

theorem Skips.unique {cs rest rest' : List Char} (h : Skips cs rest) (h' : Skips cs rest') :
    rest = rest' := by
  induction h with
  | stop hstop =>
    cases h' with
    | stop => rfl
    | blank hblank => cases hstop.symm.trans hblank
  | blank hblank _ ih =>
    cases h' with
    | stop hstop => cases hstop.symm.trans hblank
    | blank hblank' hrest' =>
      obtain rfl := Option.some.inj (hblank.symm.trans hblank')
      exact ih hrest'

theorem skipBlanks_eq_iff {cs rest : List Char} : skipBlanks cs.length cs = rest ↔ Skips cs rest :=
  ⟨fun h => h ▸ skips_skipBlanks le_rfl, (skips_skipBlanks le_rfl).unique⟩

/-! ## A word alone -/

/-- For each token outside of groups whether it is a word, as far as they are known.  A group that
is open is the last of them. -/
def outline (outer : List OpenGroup) (done : List Token) : List Bool :=
  match outer.getLast? with
  | none => done.reverse.map Token.isWord
  | some g => g.before.reverse.map Token.isWord ++ [false]

theorem outline_more (outer : List OpenGroup) (new done : List Token) :
    outline outer done <+: outline outer (new.reverse ++ done) := by
  unfold outline
  cases outer.getLast? with
  | none => simp
  | some g => exact List.prefix_rfl

theorem outline_open (g : OpenGroup) (outer : List OpenGroup) (done : List Token) :
    outline outer g.before <+: outline (g :: outer) done := by
  rw [outline, outline, List.getLast?_cons]
  cases outer.getLast? with
  | none => exact List.prefix_append _ _
  | some g' => exact List.prefix_rfl

theorem outline_close (g : OpenGroup) (outer : List OpenGroup) (done : List Token) {t : Token}
    (ht : t.isWord = false) : outline (g :: outer) done = outline outer (t :: g.before) := by
  rw [outline, outline, List.getLast?_cons]
  cases outer.getLast? with
  | none => simp [ht]
  | some g' => rfl

/-- What is known of the tokens while they are read stays so until the end. -/
theorem outline_of_readAll {fuel : Nat} {text : List Char} {start : Position}
    {outer : List OpenGroup} {done ts : List Token}
    (h : readAll fuel text start outer done = some ts) :
    outline outer done <+: ts.map Token.isWord := by
  induction fuel generalizing text start outer done with
  | zero => cases h
  | succ fuel ih =>
    unfold readAll at h
    dsimp only at h
    split at h
    · exact (outline_more outer _ done).trans (ih h)
    · split at h
      · split at h
        · next hempty =>
          cases h
          rw [List.isEmpty_iff.1 hempty]
          exact List.prefix_rfl
        · cases h
      · split at h
        · exact (outline_open ⟨_, _, done⟩ outer []).trans (ih h)
        · split at h
          · next g outer =>
            split at h
            · rw [outline_close g outer done (t := .group _ _ _) rfl]
              exact ih h
            · cases h
          · cases h
        · split at h
          · next t _ _ => exact (outline_more outer [t] done).trans (ih h)
          · cases h

theorem DocComment.exists_tokens (d : DocComment) (p : Position) :
    ∃ more, d.tokens p = .punct '#' false (some p) :: more :=
  ⟨_, rfl⟩

/-- What can come next in a text where no group is open: its end, a word, or something that shows in
the tokens as something else than a word. -/
theorem readAll_cases {fuel : Nat} {text : List Char} {start : Position} {done ts : List Token}
    (h : readAll (fuel + 1) text start [] done = some ts) :
    Skips text [] ∧ ts = done.reverse ∨
    (∃ cs rest p p', Skips text cs ∧ afterIdentifier? cs = some rest ∧
      readAll fuel rest p' [] (.word (String.ofList (front cs rest)) (some p) :: done) = some ts) ∨
    done.reverse.map Token.isWord ++ [false] <+: ts.map Token.isWord := by
  have hother {t : Token} {fuel : Nat} {rest : List Char} {p : Position} (more : List Token)
      (hread : readAll fuel rest p [] (more ++ t :: done) = some ts) (ht : t.isWord = false) :
      done.reverse.map Token.isWord ++ [false] <+: ts.map Token.isWord := by
    refine .trans ?_ (outline_of_readAll hread)
    simp [outline, ht]
  unfold readAll at h
  dsimp only at h
  split at h
  · next d _ _ =>
    obtain ⟨more, hmore⟩ := d.exists_tokens (stepTo start text (skipBlanks text.length text))
    rw [hmore, List.reverse_cons, List.append_assoc] at h
    exact .inr (.inr (hother _ h rfl))
  · split at h
    · next hnil =>
      cases h
      exact .inl ⟨skipBlanks_eq_iff.1 hnil, rfl⟩
    · next hcs =>
      split at h
      · exact .inr (.inr (outline_of_readAll h))
      · cases h
      · split at h
        · next t rest hleaf =>
          cases ht : t.isWord with
          | false => exact .inr (.inr (hother [] h ht))
          | true =>
            obtain ⟨hrest, rfl⟩ := afterIdentifier?_of_leaf? hleaf ht
            exact .inr (.inl ⟨_, rest, _, _, skipBlanks_eq_iff.1 rfl, hrest, h⟩)
        · cases h

/-- The text is a word with nothing around it but blanks and comments. -/
def Alone (text : List Char) (word : String) : Prop :=
  ∃ cs rest, Skips text cs ∧ afterIdentifier? cs = some rest ∧ Skips rest [] ∧
    word = String.ofList (front cs rest)

theorem alone_of_readAll {fuel : Nat} {text : List Char} {start : Position} {word : String}
    {p : Option Position} (h : readAll fuel text start [] [] = some [.word word p]) :
    Alone text word := by
  cases fuel with
  | zero => cases h
  | succ fuel =>
    rcases readAll_cases h with ⟨-, hnone⟩ | ⟨cs, rest, p', p'', hcs, hrest, hread⟩ | hother
    · cases hnone
    · cases fuel with
      | zero => cases hread
      | succ fuel =>
        rcases readAll_cases hread with ⟨hend, hone⟩ | ⟨_, _, _, _, _, _, hread⟩ | hother
        · cases hone
          exact ⟨cs, rest, hcs, hrest, hend, rfl⟩
        · have htwo := (outline_of_readAll hread).length_le
          simp [outline] at htwo
        · have htwo := hother.length_le
          simp at htwo
    · simp [Token.isWord] at hother

theorem docComment?_eq_none {c : Char} {cs : List Char} (hc : startsWord c = true) :
    docComment? (c :: cs) = none := by
  have hmark := not_mem_marks hc
  unfold docComment?
  split
  · next hslash =>
    cases hslash
    exact absurd (by decide) hmark
  · next hslash =>
    cases hslash
    exact absurd (by decide) hmark
  · rfl

theorem delimits_nothing {c : Char} (hc : startsWord c = true) :
    opens? c = none ∧ closes? c = none := by
  have hmark := not_mem_marks hc
  unfold opens? closes?
  constructor <;> split
  case h_4 | h_4 => rfl
  all_goals exact absurd (by decide) hmark

theorem readAll_of_alone {text : List Char} {word : String} (start : Position)
    (h : Alone text word) :
    ∃ p, readAll (text.length + 1) text start [] [] = some [.word word p] := by
  obtain ⟨cs, rest, hcs, hrest, hend, rfl⟩ := h
  obtain ⟨c, tail, rfl, hc⟩ := startsWord_of_afterIdentifier? hrest
  rw [← skipBlanks_eq_iff] at hcs hend
  obtain ⟨fuel, hfuel⟩ : ∃ fuel, text.length = fuel + 1 := by
    cases text with
    | nil => cases hcs
    | cons => exact ⟨_, rfl⟩
  refine ⟨some (stepTo start text (c :: tail)), ?_⟩
  have hlast (p : Position) (t : Token) : readAll (fuel + 1) rest p [] [t] = some [t] := by
    unfold readAll
    rw [hend]
    rfl
  rw [readAll, hcs, docComment?_eq_none hc]
  dsimp only
  rw [(delimits_nothing hc).1, (delimits_nothing hc).2]
  dsimp only
  rw [leaf?_of_afterIdentifier? _ hrest, hfuel]
  exact hlast _ _

end Lexer

/-! ## Names -/

namespace Parser

theorem whole?_name {ts : List Token} {word : String} :
    whole? name ts = some word ↔ ∃ p, ts = [.word word p] ∧ isName word = true := by
  constructor
  · intro h
    unfold whole? at h
    split at h
    · next hread =>
      cases h
      obtain ⟨⟨placed, rest⟩, hplaced, hrest⟩ := Option.bind_eq_some_iff.1 hread
      cases hrest
      unfold placedName at hplaced
      split at hplaced
      · next p rest =>
        split at hplaced
        · next hname =>
          cases hplaced
          exact ⟨p, rfl, hname⟩
        · cases hplaced
      · cases hplaced
    · cases h
  · rintro ⟨p, rfl, hname⟩
    have hplaced : placedName [.word word p] = some (⟨word, p⟩, []) := if_pos hname
    have hread : name [.word word p] = some (word, []) :=
      Option.bind_eq_some_iff.2 ⟨_, hplaced, rfl⟩
    rw [whole?, hread]

end Parser

namespace Lexer

/-- A text without the byte order mark in front. -/
def unmarked : List Char → List Char
  | '\ufeff' :: cs => cs
  | cs => cs

theorem exists_start (text : String) : ∃ start, tokens? text =
    readAll ((unmarked text.toList).length + 1) (unmarked text.toList) start [] [] := by
  unfold tokens?
  generalize text.toList = cs
  split
  · exact ⟨_, rfl⟩
  · next hplain =>
    have hunmarked : unmarked cs = cs := by
      unfold unmarked
      split
      · next tail => exact absurd rfl (hplain tail)
      · rfl
    rw [hunmarked]
    exact ⟨_, rfl⟩

end Lexer

namespace Source

/-- A text is read as a name if it is a word alone that can be used as one. -/
theorem readName_eq_ok {text word : String} : readName text = .ok word ↔
    Lexer.Alone (Lexer.unmarked text.toList) word ∧ isName word = true := by
  obtain ⟨start, hstart⟩ := Lexer.exists_start text
  have hread : readName text = .ok word ↔
      ∃ ts, Lexer.tokens? text = some ts ∧ Parser.whole? Parser.name ts = some word := by
    unfold readName read readTokens phrase?
    cases Lexer.tokens? text with
    | none => simp [bind, Except.bind]
    | some ts =>
      simp only [bind, Except.bind, Option.some.injEq, exists_eq_left']
      cases Parser.whole? Parser.name ts <;> simp
  simp only [hread, hstart, Parser.whole?_name]
  constructor
  · rintro ⟨ts, hts, p, rfl, hname⟩
    exact ⟨Lexer.alone_of_readAll hts, hname⟩
  · rintro ⟨halone, hname⟩
    obtain ⟨p, hp⟩ := Lexer.readAll_of_alone start halone
    exact ⟨_, hp, p, rfl, hname⟩

end Source

end Relay
