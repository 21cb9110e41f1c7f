import Relay.Proofs.Source.PlainWords
import Relay.Proofs.Source.Spellings

/-!
# Texts that render tokens

Tokens can be rendered in several ways: with blanks between them or without, as long as words do not
run into each other.  `Lexer.Renders` are the ways in which types are rendered, where there are only
words and brackets, and the punctuation of paths and generic arguments.  All of them are read as
tokens that agree with those that they render.  The text that is written for the tokens of a plain
type is one of them.
-/

namespace Relay

theorem Source.Written.length_pos {word : String} (h : Written word) :
    0 < word.toList.length := by
  cases h with
  | plain hword =>
    rw [List.length_pos_iff]
    intro hnil
    rw [hnil] at hword
    cases hword
  | raw hword =>
    rw [String.toList_append, List.length_append]
    exact Nat.add_pos_left (by decide) _

namespace Lexer

/-! ## Renderings -/

/-- No word can go on into the text, and the text does not make a literal of one. -/
def EndsWord (cs : List Char) : Prop :=
  ∀ c ∈ cs.head?, continuesWord c = false ∧ c ∉ ['"', '\'', '#']

/-- The punctuation of paths and generic arguments. -/
def typeMarks : List Char := [',', ':', '<', '>']

/-- The text renders the tokens, perhaps with blanks around them. -/
inductive Renders : List Token → List Char → Prop
  | nil : Renders [] []
  | blank {ts : List Token} {cs : List Char} (h : Renders ts cs) : Renders ts (' ' :: cs)
  | word {word : String} {ts : List Token} {cs : List Char} (hword : Source.Written word)
    (hend : EndsWord cs) (h : Renders ts cs) :
    Renders (.word word none :: ts) (word.toList ++ cs)
  | punct {c : Char} {joint : Bool} {ts : List Token} {cs : List Char} (hc : c ∈ typeMarks)
    (hjoint : joint = true → ∃ c ∈ cs.head?, c ∈ typeMarks) (h : Renders ts cs) :
    Renders (.punct c joint none :: ts) (c :: cs)
  | bracket {body ts : List Token} {inside cs : List Char} (hbody : Renders body inside)
    (h : Renders ts cs) :
    Renders (.group .bracket body none :: ts) ('[' :: (inside ++ ']' :: cs))

variable {cs cs' tail : List Char} {ts ts' : List Token}

theorem endsWord_nil : EndsWord [] := nofun

theorem endsWord_cons {c : Char} (hc : continuesWord c = false) (hmark : c ∉ ['"', '\'', '#']) :
    EndsWord (c :: cs) := by
  rintro _ ⟨⟩
  exact ⟨hc, hmark⟩

theorem EndsWord.append (h : EndsWord cs) (htail : EndsWord tail) : EndsWord (cs ++ tail) := by
  cases cs with
  | nil => exact htail
  | cons c cs => exact h

theorem renders_word {word : String} (h : Source.Written word) :
    Renders [.word word none] word.toList := by
  rw [← List.append_nil word.toList]
  exact .word h endsWord_nil .nil

theorem startsPunct_of_mem_typeMarks (h : ∃ c ∈ cs.head?, c ∈ typeMarks) :
    startsPunct (cs ++ tail) = true := by
  obtain ⟨c, hc, hmark⟩ := h
  obtain ⟨cs, rfl⟩ := List.head?_eq_some_iff.1 hc
  simp only [typeMarks, List.mem_cons, List.not_mem_nil, or_false] at hmark
  rcases hmark with rfl | rfl | rfl | rfl <;> rfl

theorem Renders.append (h : Renders ts cs) (h' : Renders ts' cs') (hend : EndsWord cs') :
    Renders (ts ++ ts') (cs ++ cs') := by
  induction h with
  | nil => exact h'
  | blank _ ih => exact .blank ih
  | word hword hends _ ih =>
    rw [List.cons_append, List.append_assoc]
    exact .word hword (hends.append hend) ih
  | punct hc hjoint _ ih =>
    refine .punct hc (fun h => ?_) ih
    obtain ⟨c, hhead, hmark⟩ := hjoint h
    obtain ⟨cs, rfl⟩ := List.head?_eq_some_iff.1 hhead
    exact ⟨c, rfl, hmark⟩
  | bracket hbody _ _ ih =>
    rw [List.cons_append, List.cons_append, List.append_assoc, List.cons_append]
    exact .bracket hbody ih

/-! ## Words -/

/-- What opens a literal has a character behind its letters that ends no word. -/
theorem exists_mark_of_opening {opening : List Char} (h : opening ∈ literalOpenings) :
    ∃ c tail, opening.dropWhile continuesWord = c :: tail ∧ c ∈ ['"', '\'', '#'] := by
  rw [literalOpenings_eq] at h
  simp only [List.mem_cons, List.not_mem_nil, or_false] at h
  rcases h with rfl | rfl | rfl | rfl | rfl | rfl | rfl | rfl | rfl | rfl <;>
    exact ⟨_, _, rfl, by decide⟩

theorem dropWhile_word {word : List Char} (hword : ∀ c ∈ word, continuesWord c = true)
    (hend : EndsWord cs) : (word ++ cs).dropWhile continuesWord = cs := by
  rw [List.dropWhile_append_of_pos hword]
  cases cs with
  | nil => rfl
  | cons c cs => rw [List.dropWhile_cons, (hend c rfl).1]; rfl

theorem continuesWord_of_isWord {word : List Char} (h : isWord word = true) :
    ∀ c ∈ word, continuesWord c = true := by
  cases word with
  | nil => cases h
  | cons c rest =>
    rw [isWord, Bool.and_eq_true, List.all_eq_true] at h
    rw [List.forall_mem_cons]
    exact ⟨by rw [continuesWord, h.1, Bool.true_or], h.2⟩

theorem afterWord?_word {word : List Char} (hword : isWord word = true) (hend : EndsWord cs) :
    Literal.afterWord? (word ++ cs) = some cs := by
  cases word with
  | nil => cases hword
  | cons c rest =>
    have hrest := continuesWord_of_isWord hword
    rw [List.forall_mem_cons] at hrest
    rw [isWord, Bool.and_eq_true] at hword
    rw [List.cons_append, Literal.afterWord?, if_pos hword.1, dropWhile_word hrest.2 hend]

theorem unopened_word {word : List Char} (hword : isWord word = true) (hend : EndsWord cs) :
    Unopened (word ++ cs) := by
  rintro opening hopening ⟨behind, hbehind⟩
  obtain ⟨c, tail, hdrop, hmark⟩ := exists_mark_of_opening hopening
  have hcs := dropWhile_word (continuesWord_of_isWord hword) hend
  rw [← hbehind, List.dropWhile_append, hdrop] at hcs
  subst hcs
  exact (hend c rfl).2 hmark

/-- A word as it stands in a text is read up to where it ends. -/
theorem afterIdentifier?_written {word : String} (hword : Source.Written word)
    (hend : EndsWord cs) : afterIdentifier? (word.toList ++ cs) = some cs := by
  have hread (h : Unopened (word.toList ++ cs)) :
      afterIdentifier? (word.toList ++ cs) = afterAnyWord? (word.toList ++ cs) := by
    rw [afterIdentifier?, if_neg]
    rintro hany
    obtain ⟨opening, hopening, hstarts⟩ := List.any_eq_true.1 hany
    exact h opening hopening (List.isPrefixOf_iff_prefix.1 hstarts)
  cases hword with
  | plain hword =>
    rw [hread (unopened_word hword hend)]
    unfold afterAnyWord?
    split
    · next cs' hraw =>
      -- The hash would stand behind the word.
      have hcs := dropWhile_word (continuesWord_of_isWord hword) hend
      rw [hraw, List.dropWhile_cons_of_pos (by rfl), List.dropWhile_cons_of_neg (by decide)] at hcs
      subst hcs
      exact absurd (by decide) (hend '#' rfl).2
    · exact afterWord?_word hword hend
  | @raw word hword hescape =>
    have hchars : ("r#" ++ word).toList ++ cs = 'r' :: '#' :: (word.toList ++ cs) := by
      rw [String.toList_append]
      rfl
    have hstart : ∀ c ∈ (word.toList ++ cs).head?, startsWord c = true := by
      cases hcs : word.toList with
      | nil => rw [hcs] at hword; cases hword
      | cons c rest =>
        rintro _ ⟨⟩
        rw [hcs, isWord, Bool.and_eq_true] at hword
        exact hword.1
    rw [hchars] at hread ⊢
    rw [hread, afterAnyWord?, afterWord?_word hword hend]
    · have hfront : String.ofList (front (word.toList ++ cs) cs) = word := by
        rw [front_append, String.ofList_toList]
      change (if _ then none else some cs) = some cs
      rw [hfront, if_neg]
      rwa [List.contains_iff_mem]
    · intro opening hopening hprefix
      generalize word.toList ++ cs = text at hstart hprefix
      have hmark {c : Char} (hc : startsWord c = false) : ¬ [c] <+: text := by
        rintro ⟨tail, rfl⟩
        rw [hstart c rfl] at hc
        cases hc
      rw [literalOpenings_eq] at hopening
      simp only [List.mem_cons, List.not_mem_nil, or_false] at hopening
      rcases hopening with rfl | rfl | rfl | rfl | rfl | rfl | rfl | rfl | rfl | rfl <;>
        simp only [List.cons_prefix_cons, Char.reduceEq, true_and, false_and] at hprefix
      · exact hmark (by rfl) hprefix
      · exact hmark (by rfl) hprefix

/-! ## Reading -/

theorem length_skipBlanks_le (cs : List Char) : (skipBlanks cs.length cs).length ≤ cs.length := by
  have h := skips_skipBlanks (le_refl cs.length)
  generalize skipBlanks cs.length cs = rest at h
  induction h with
  | stop => exact le_rfl
  | blank hblank _ ih => exact ih.trans (length_of_afterBlank? hblank).le

theorem front_cons {rest : List Char} (c : Char) (h : rest.length ≤ cs.length) :
    front (c :: cs) rest = c :: front cs rest := by
  rw [front, front, List.length_cons, Nat.succ_sub h, List.take_succ_cons]

theorem stepTo_self (start : Position) (cs : List Char) : stepTo start cs cs = start := by
  rw [stepTo, front, Nat.sub_self]
  rfl

/-- A blank only moves what follows. -/
theorem readAll_blank (fuel : Nat) (start : Position) (outer : List OpenGroup)
    (done : List Token) : readAll (fuel + 1) (' ' :: cs) start outer done =
      readAll (fuel + 1) cs (step start ' ') outer done := by
  have hskip : skipBlanks (' ' :: cs).length (' ' :: cs) = skipBlanks cs.length cs := rfl
  have hplace : stepTo start (' ' :: cs) (skipBlanks cs.length cs) =
      stepTo (step start ' ') cs (skipBlanks cs.length cs) := by
    rw [stepTo, front_cons _ (length_skipBlanks_le cs)]
    rfl
  rw [readAll, readAll, hskip, hplace]

/-- One step, in front of a token that is no group. -/
theorem readAll_leaf {c : Char} {rest : List Char} {t : Token} (fuel : Nat) {start : Position}
    (outer : List OpenGroup) (done : List Token) (hblank : afterBlank? (c :: cs) = none)
    (hdoc : docComment? (c :: cs) = none) (hgroup : opens? c = none ∧ closes? c = none)
    (hleaf : leaf? start (c :: cs) = some (t, rest)) :
    readAll (fuel + 1) (c :: cs) start outer done =
      readAll fuel rest (stepTo start (c :: cs) rest) outer (t :: done) := by
  have hskip : skipBlanks (c :: cs).length (c :: cs) = c :: cs :=
    skipBlanks_eq_iff.2 (.stop hblank)
  rw [readAll, hskip, stepTo_self, hdoc]
  dsimp only
  rw [hgroup.1, hgroup.2]
  dsimp only
  rw [hleaf]

theorem readAll_open (fuel : Nat) (start : Position) (outer : List OpenGroup)
    (done : List Token) : readAll (fuel + 1) ('[' :: cs) start outer done =
      readAll fuel cs (step start '[') (⟨.bracket, start, done⟩ :: outer) [] := by
  rw [readAll, skipBlanks_eq_iff.2 (.stop rfl), stepTo_self]
  rfl

theorem readAll_close (fuel : Nat) (start position : Position) (outer : List OpenGroup)
    (before done : List Token) :
    readAll (fuel + 1) (']' :: cs) start (⟨.bracket, position, before⟩ :: outer) done =
      readAll fuel cs (step start ']') outer
        (.group .bracket done.reverse (some position) :: before) := by
  rw [readAll, skipBlanks_eq_iff.2 (.stop rfl), stepTo_self]
  rfl

theorem readAll_nil (fuel : Nat) (start : Position) (done : List Token) :
    readAll (fuel + 1) [] start [] done = some done.reverse := rfl

theorem leaf?_of_mem_typeMarks {c : Char} (hc : c ∈ typeMarks) (cs : List Char) (p : Position) :
    leaf? p (c :: cs) = some (.punct c (startsPunct cs) (some p), cs) ∧
      afterBlank? (c :: cs) = none ∧ docComment? (c :: cs) = none ∧
      opens? c = none ∧ closes? c = none := by
  simp only [typeMarks, List.mem_cons, List.not_mem_nil, or_false] at hc
  rcases hc with rfl | rfl | rfl | rfl <;> exact ⟨rfl, rfl, rfl, rfl, rfl⟩

/-- What renders tokens is read as tokens that agree with them, wherever it stands in a text. -/
theorem Renders.readAll (h : Renders ts cs) (htail : EndsWord tail) {fuel : Nat}
    (hfuel : (cs ++ tail).length < fuel) (start : Position) (outer : List OpenGroup)
    (done : List Token) :
    ∃ fuel' start' ts', tail.length < fuel' ∧ Agree ts ts' ∧
      readAll fuel (cs ++ tail) start outer done =
        readAll fuel' tail start' outer (ts'.reverse ++ done) := by
  induction h generalizing tail fuel start outer done with
  | nil => exact ⟨fuel, start, [], hfuel, .nil, rfl⟩
  | blank _ ih =>
    obtain ⟨fuel, rfl⟩ := Nat.exists_eq_add_one.2 (Nat.zero_lt_of_lt hfuel)
    rw [List.cons_append, List.length_cons] at hfuel
    rw [List.cons_append, readAll_blank]
    exact ih htail (Nat.lt_of_succ_lt hfuel) _ _ _
  | @word word ts cs hword hend _ ih =>
    obtain ⟨fuel, rfl⟩ := Nat.exists_eq_add_one.2 (Nat.zero_lt_of_lt hfuel)
    have hread := afterIdentifier?_written hword (hend.append htail)
    obtain ⟨c, rest, hchars, hc⟩ := startsWord_of_afterIdentifier? hread
    rw [List.append_assoc, List.length_append] at hfuel
    have hfuel' : (cs ++ tail).length < fuel := by
      have := hword.length_pos
      omega
    have hleaf := leaf?_of_afterIdentifier? start hread
    rw [front_append, String.ofList_toList] at hleaf
    obtain ⟨fuel', start', ts', htail', hagrees, hrest⟩ := ih htail hfuel'
      (stepTo start (c :: rest) (cs ++ tail)) outer (.word word (some start) :: done)
    refine ⟨fuel', start', .word word (some start) :: ts', htail', .cons .word hagrees, ?_⟩
    rw [hchars] at hleaf
    rw [List.append_assoc, hchars,
      readAll_leaf fuel outer done (afterBlank?_of_startsWord hc) (docComment?_eq_none hc)
        (delimits_nothing hc) hleaf,
      hrest, List.reverse_cons, List.append_assoc, List.singleton_append]
  | @punct c joint ts cs hc hjoint _ ih =>
    obtain ⟨fuel, rfl⟩ := Nat.exists_eq_add_one.2 (Nat.zero_lt_of_lt hfuel)
    obtain ⟨hleaf, hblank, hdoc, hgroup⟩ := leaf?_of_mem_typeMarks hc (cs ++ tail) start
    rw [List.cons_append, List.length_cons] at hfuel
    obtain ⟨fuel', start', ts', htail', hagrees, hrest⟩ := ih htail (Nat.lt_of_succ_lt_succ hfuel)
      (stepTo start (c :: (cs ++ tail)) (cs ++ tail)) outer
      (.punct c (startsPunct (cs ++ tail)) (some start) :: done)
    refine ⟨fuel', start', .punct c (startsPunct (cs ++ tail)) (some start) :: ts', htail',
      .cons (.punct fun h => startsPunct_of_mem_typeMarks (hjoint h)) hagrees, ?_⟩
    rw [List.cons_append, readAll_leaf fuel outer done hblank hdoc hgroup hleaf, hrest,
      List.reverse_cons, List.append_assoc, List.singleton_append]
  | @bracket body ts inside cs _ _ ihbody ih =>
    obtain ⟨fuel, rfl⟩ := Nat.exists_eq_add_one.2 (Nat.zero_lt_of_lt hfuel)
    have hchars : '[' :: (inside ++ ']' :: cs) ++ tail =
        '[' :: (inside ++ ']' :: (cs ++ tail)) := by
      simp
    have hclose : EndsWord (']' :: (cs ++ tail)) := endsWord_cons (by rfl) (by decide)
    rw [hchars, List.length_cons] at hfuel
    obtain ⟨fuel₁, start₁, body', hfuel₁, hbody, hread₁⟩ := ihbody hclose
      (Nat.lt_of_succ_lt_succ hfuel) (step start '[') (⟨.bracket, start, done⟩ :: outer) []
    obtain ⟨fuel₁, rfl⟩ := Nat.exists_eq_add_one.2 (Nat.zero_lt_of_lt hfuel₁)
    obtain ⟨fuel₂, start₂, ts', hfuel₂, hagrees, hread₂⟩ := ih htail
      (Nat.lt_of_succ_lt_succ hfuel₁) (step start₁ ']') outer (.group .bracket body' start :: done)
    refine ⟨fuel₂, start₂, .group .bracket body' start :: ts', hfuel₂,
      .cons (.group hbody) hagrees, ?_⟩
    rw [hchars, readAll_open, hread₁, List.append_nil, readAll_close, List.reverse_reverse, hread₂,
      List.reverse_cons, List.append_assoc, List.singleton_append]

theorem Renders.unmarked (h : Renders ts cs) : unmarked cs = cs := by
  cases h with
  | nil | blank | bracket => rfl
  | word hword hend =>
    obtain ⟨c, rest, hchars, hc⟩ :=
      startsWord_of_afterIdentifier? (afterIdentifier?_written hword hend)
    rw [hchars, unmarked_of_startsWord hc]
  | punct hc =>
    simp only [typeMarks, List.mem_cons, List.not_mem_nil, or_false] at hc
    rcases hc with rfl | rfl | rfl | rfl <;> rfl

/-- A text is read as the tokens that it renders. -/
theorem Renders.tokens? {text : String} (h : Renders ts text.toList) :
    ∃ ts', tokens? text = some ts' ∧ Agree ts ts' := by
  obtain ⟨start, hstart⟩ := exists_start text
  rw [h.unmarked] at hstart
  have hlength : (text.toList ++ []).length < text.toList.length + 1 := by
    rw [List.append_nil]
    exact Nat.lt_succ_self _
  obtain ⟨fuel, start', ts', hfuel, hagrees, hread⟩ := h.readAll endsWord_nil hlength start [] []
  rw [List.append_nil] at hread
  obtain ⟨fuel, rfl⟩ := Nat.exists_eq_add_one.2 hfuel
  refine ⟨ts', ?_, hagrees⟩
  rw [hstart, hread, List.append_nil, readAll_nil, List.reverse_reverse]

/-! ## Texts of tokens -/

/-- Tokens of which the text renders them. -/
inductive Legible : List Token → Prop
  | nil : Legible []
  | word {word : String} {ts : List Token} (hword : Source.Written word) (h : Legible ts) :
    Legible (.word word none :: ts)
  | punct {c : Char} {ts : List Token} (hc : c ∈ typeMarks) (h : Legible ts) :
    Legible (.punct c false none :: ts)
  | colons {ts : List Token} (h : Legible ts) :
    Legible (.punct ':' true none :: .punct ':' false none :: ts)
  | bracket {body ts : List Token} (hbody : Legible body) (h : Legible ts) :
    Legible (.group .bracket body none :: ts)

theorem Legible.append (h : Legible ts) (h' : Legible ts') : Legible (ts ++ ts') := by
  induction h with
  | nil => exact h'
  | word hword _ ih => exact .word hword ih
  | punct hc _ ih => exact .punct hc ih
  | colons _ ih => exact .colons ih
  | bracket hbody _ _ ih => exact .bracket hbody ih

theorem Legible.separated {separator : List Token} (hseparator : Legible separator)
    {items : List (List Token)} (hitems : ∀ item ∈ items, Legible item) :
    Legible (separated separator false items) := by
  induction items with
  | nil => exact .nil
  | cons item items ih =>
    rw [List.forall_mem_cons] at hitems
    cases items with
    | nil => exact hitems.1
    | cons item' items => exact (hitems.1.append hseparator).append (ih hitems.2)

/-- What is written behind a token that is not joint. -/
def textBehind (ts : List Token) : String := (if ts.isEmpty then "" else " ") ++ textOfTokens ts

theorem textOfTokens_cons {t : Token} (h : t.isJoint = false) (ts : List Token) :
    textOfTokens (t :: ts) = t.text ++ textBehind ts := by
  cases ts with
  | nil => simp [textOfTokens, textBehind]
  | cons t' ts => simp [textOfTokens, textBehind, h, String.append_assoc]

theorem Renders.behind (h : Renders ts (textOfTokens ts).toList) :
    Renders ts (textBehind ts).toList ∧ EndsWord (textBehind ts).toList := by
  cases ts with
  | nil => exact ⟨.nil, endsWord_nil⟩
  | cons t ts =>
    have hchars : (textBehind (t :: ts)).toList = ' ' :: (textOfTokens (t :: ts)).toList := by
      simp [textBehind]
    rw [hchars]
    exact ⟨.blank h, endsWord_cons (by rfl) (by decide)⟩

theorem Legible.renders (h : Legible ts) : Renders ts (textOfTokens ts).toList := by
  induction h with
  | nil => exact .nil
  | word hword _ ih =>
    rw [textOfTokens_cons rfl, String.toList_append]
    exact .word hword ih.behind.2 ih.behind.1
  | @punct c ts hc _ ih =>
    have hchars : (textOfTokens (.punct c false none :: ts)).toList =
        c :: (textBehind ts).toList := by
      rw [textOfTokens_cons rfl, Token.text]
      simp
    rw [hchars]
    exact .punct hc nofun ih.behind.1
  | @colons ts _ ih =>
    have hchars :
        (textOfTokens (.punct ':' true none :: .punct ':' false none :: ts)).toList =
          ':' :: ':' :: (textBehind ts).toList := by
      change (Token.text (.punct ':' true none) ++ "" ++
        textOfTokens (.punct ':' false none :: ts)).toList = _
      rw [textOfTokens_cons rfl]
      simp [Token.text]
    rw [hchars]
    exact .punct (by decide) (fun _ => ⟨':', rfl, by decide⟩) (.punct (by decide) nofun ih.behind.1)
  | @bracket body ts _ _ ihbody ih =>
    have hchars : (textOfTokens (.group .bracket body none :: ts)).toList =
        '[' :: ((textOfTokens body).toList ++ ']' :: (textBehind ts).toList) := by
      rw [textOfTokens_cons rfl, Token.text]
      simp [Delimiter.opening, Delimiter.closing]
    rw [hchars]
    exact .bracket ihbody ih.behind.1

theorem legible_plain {s : Segment} (h : s.IsPlain) : Legible s.tokens := by
  obtain ⟨name, args⟩ := s
  obtain ⟨hwritten, -, rfl⟩ := h
  exact .word hwritten .nil

theorem legible_path {p : PathExpr} (h : ∀ s ∈ p.segments, Legible s.tokens) :
    Legible p.tokens := by
  obtain ⟨rooted, segments⟩ := p
  have hcolons : Legible (Token.operator "::") := .colons .nil
  rw [PathExpr.tokens, tokensOfSegments_eq_map]
  refine .append ?_ (.separated hcolons (List.forall_mem_map.2 h))
  cases rooted with
  | true => exact hcolons
  | false => exact .nil

theorem legible_type {t : TypeExpr} (h : t.IsPlain) : Legible t.tokens := by
  induction h with
  | path hp => exact legible_path fun s hs => legible_plain (hp.segments s hs)
  | @applied p name types hp hwritten _ _ ih =>
    have hcomma : Legible (Token.operator ",") := .punct (by decide) .nil
    have htypes : Legible (commaSeparated false (types.map TypeExpr.tokens)) :=
      .separated hcomma (List.forall_mem_map.2 ih)
    refine legible_path (List.forall_mem_append.2 ⟨fun s hs => legible_plain (hp.segments s hs),
      List.forall_mem_singleton.2 (.word hwritten ?_)⟩)
    rw [tokens_angle]
    exact .punct (by decide) (htypes.append (.punct (by decide) .nil))
  | slice _ ih => exact .bracket ih .nil

/-- A plain type is rendered by its text. -/
theorem renders_type {t : TypeExpr} (h : t.IsPlain) : Renders t.tokens t.text.toList :=
  (legible_type h).renders

/-! ## Joined texts -/

/-- Texts that are joined render what they render one by one, with separators in between. -/
theorem renders_intercalate {separator : List Token} {between : String}
    (hbetween : ∀ ts cs, Renders ts cs →
      Renders (separator ++ ts) (between.toList ++ cs) ∧ EndsWord (between.toList ++ cs))
    {items : List (List Token)} {texts : List String}
    (h : List.Forall₂ (fun ts text => Renders ts text.toList) items texts) :
    Renders (separated separator false items) (between.intercalate texts).toList := by
  induction h with
  | nil => exact .nil
  | @cons item text items texts hitem hitems ih =>
    cases hitems with
    | nil =>
      rw [String.intercalate_singleton]
      exact hitem
    | @cons item' text' items texts hitem' hitems =>
      obtain ⟨hrest, hend⟩ := hbetween _ _ ih
      change Renders (item ++ separator ++ separated separator false (item' :: items)) _
      rw [String.intercalate_cons_cons, String.toList_append, String.toList_append,
        List.append_assoc, List.append_assoc]
      exact hitem.append hrest hend

theorem renders_colons (h : Renders ts cs) :
    Renders (Token.operator "::" ++ ts) ("::".toList ++ cs) ∧ EndsWord ("::".toList ++ cs) := by
  have hcolons : "::".toList = [':', ':'] := by decide
  rw [operator_colons, hcolons]
  exact ⟨.punct (by decide) (fun _ => ⟨':', rfl, by decide⟩) (.punct (by decide) nofun h),
    endsWord_cons (by rfl) (by decide)⟩

theorem renders_comma (h : Renders ts cs) :
    Renders (Token.operator "," ++ ts) (", ".toList ++ cs) ∧ EndsWord (", ".toList ++ cs) := by
  have hcomma : ", ".toList = [',', ' '] := by decide
  rw [operator_comma, hcomma]
  exact ⟨.punct (by decide) nofun (.blank h), endsWord_cons (by rfl) (by decide)⟩

end Lexer

end Relay
