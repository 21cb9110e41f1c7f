import Mathlib.Data.List.Forall2
import Relay.Proofs.Source.Names

/-!
# Spellings of types

The tokens that spell a type are made of those that spell its parts, with separators in between.  In
a text the same tokens have places, and punctuation is joint because more of it happens to follow:
they agree with the spelling.
-/

namespace Relay

/-! ## Tokens that agree -/

/-- The second token has the place of the first one: it is joint at least where that one is. -/
inductive Token.Agrees : Token → Token → Prop
  | word {text : String} {p p' : Option Position} : Agrees (.word text p) (.word text p')
  | punct {char : Char} {joint joint' : Bool} {p p' : Option Position}
    (h : joint = true → joint' = true) : Agrees (.punct char joint p) (.punct char joint' p')
  | literal {text : String} {p p' : Option Position} : Agrees (.literal text p) (.literal text p')
  | group {d : Delimiter} {body body' : List Token} {p p' : Option Position}
    (h : List.Forall₂ Agrees body body') : Agrees (.group d body p) (.group d body' p')

/-- The second sequence agrees with the first one, token by token. -/
abbrev Agree : List Token → List Token → Prop := List.Forall₂ Token.Agrees

mutual

theorem Token.agrees_refl : ∀ t : Token, t.Agrees t
  | .word _ _ => .word
  | .punct _ _ _ => .punct id
  | .literal _ _ => .literal
  | .group _ body _ => .group (agree_refl body)

theorem agree_refl : ∀ ts : List Token, Agree ts ts
  | [] => .nil
  | t :: rest => .cons t.agrees_refl (agree_refl rest)

end

mutual

theorem Token.Agrees.size : ∀ {t t' : Token}, t.Agrees t' → t'.size = t.size
  | _, _, .word => rfl
  | _, _, .punct _ => rfl
  | _, _, .literal => rfl
  | _, _, .group h => congrArg (1 + ·) (Agree.size h)

theorem Agree.size : ∀ {ts ts' : List Token}, Agree ts ts' → sizeOfTokens ts' = sizeOfTokens ts
  | _, _, .nil => rfl
  | _, _, .cons ht hts => congrArg₂ (· + ·) (Token.Agrees.size ht) (Agree.size hts)

end

/-! ### Agreement with a spelling -/

section Agreement

variable {word : String} {p : Option Position} {ts : List Token}

theorem agree_append {ts ts' us : List Token} (h : Agree (ts ++ ts') us) :
    ∃ vs vs', us = vs ++ vs' ∧ Agree ts vs ∧ Agree ts' vs' := by
  induction ts generalizing us with
  | nil => exact ⟨[], us, rfl, .nil, h⟩
  | cons t ts ih =>
    obtain ⟨t', us', ht, hus, rfl⟩ := List.forall₂_cons_left_iff.1 h
    obtain ⟨vs, vs', rfl, hvs, hvs'⟩ := ih hus
    exact ⟨t' :: vs, vs', rfl, .cons ht hvs, hvs'⟩

theorem agree_word {us : List Token} (h : Agree (.word word p :: ts) us) :
    ∃ p' us', us = .word word p' :: us' ∧ Agree ts us' := by
  obtain ⟨t, us', ht, hus, rfl⟩ := List.forall₂_cons_left_iff.1 h
  cases ht
  exact ⟨_, us', rfl, hus⟩

theorem agree_punct {c : Char} {joint : Bool} {us : List Token}
    (h : Agree (.punct c joint p :: ts) us) :
    ∃ joint' p' us', us = .punct c joint' p' :: us' ∧ (joint = true → joint' = true) ∧
      Agree ts us' := by
  obtain ⟨t, us', ht, hus, rfl⟩ := List.forall₂_cons_left_iff.1 h
  cases ht with
  | punct hjoint => exact ⟨_, _, us', rfl, hjoint, hus⟩

theorem operator_colons :
    Token.operator "::" = [.punct ':' true none, .punct ':' false none] := rfl

theorem operator_comma : Token.operator "," = [.punct ',' false none] := rfl

theorem operator_less : Token.operator "<" = [.punct '<' false none] := rfl

theorem operator_greater : Token.operator ">" = [.punct '>' false none] := rfl

theorem agree_colons {us : List Token} (h : Agree (Token.operator "::" ++ ts) us) :
    ∃ joint p p' us', us = .punct ':' true p :: .punct ':' joint p' :: us' ∧ Agree ts us' := by
  obtain ⟨joint, p, _, rfl, hjoint, h⟩ := agree_punct h
  obtain ⟨joint', p', us', rfl, -, hus⟩ := agree_punct h
  obtain rfl := hjoint rfl
  exact ⟨joint', p, p', us', rfl, hus⟩

/-- A segment has its word in front. -/
theorem exists_word_of_agree_segment {s : Segment} {us : List Token} (h : Agree s.tokens us) :
    ∃ p us', us = .word s.name p :: us' := by
  obtain ⟨name, args⟩ := s
  obtain ⟨p, us', rfl, -⟩ := agree_word h
  exact ⟨p, us', rfl⟩

end Agreement

/-! ## Parts of spellings -/

theorem length_le_length_flatMap {α β : Type} {f : α → List β} (hf : ∀ x, 0 < (f x).length)
    (xs : List α) : xs.length ≤ (xs.flatMap f).length := by
  induction xs with
  | nil => exact Nat.zero_le _
  | cons x xs ih =>
    have := hf x
    rw [List.flatMap_cons, List.length_append, List.length_cons]
    omega

theorem separated_cons (separator item : List Token) (items : List (List Token)) :
    separated separator false (item :: items) = item ++ items.flatMap (separator ++ ·) := by
  induction items generalizing item with
  | nil => rw [List.flatMap_nil, List.append_nil]; rfl
  | cons item' items ih =>
    change item ++ separator ++ separated separator false (item' :: items) = _
    rw [ih, List.flatMap_cons, List.append_assoc, List.append_assoc]

theorem tokensOfSegments_eq_map (segments : List Segment) :
    tokensOfSegments segments = segments.map Segment.tokens := by
  induction segments with
  | nil => rfl
  | cons s rest ih => rw [tokensOfSegments, ih, List.map_cons]

theorem tokens_path (rooted : Bool) (s : Segment) (segments : List Segment) :
    (PathExpr.mk rooted (s :: segments)).tokens =
      (if rooted then Token.operator "::" else []) ++ (s.tokens ++
        segments.flatMap fun s => Token.operator "::" ++ s.tokens) := by
  rw [PathExpr.tokens, tokensOfSegments, separated_cons, tokensOfSegments_eq_map, List.flatMap_map]

theorem join_types (types : List TypeExpr) :
    SpelledArgument.join true (spelledArguments false (types.map .type)) =
      commaSeparated false (types.map TypeExpr.tokens) := by
  induction types with
  | nil => rfl
  | cons t types ih =>
    cases types with
    | nil =>
      change t.tokens ++ [] ++ [] = t.tokens
      rw [List.append_nil, List.append_nil]
    | cons t' types =>
      change [] ++ t.tokens ++ Token.operator "," ++ SpelledArgument.join true _ = _
      rw [ih]
      rfl

theorem lifetimesFirst_types (types : List TypeExpr) :
    SpelledArgument.lifetimesFirst (spelledArguments false (types.map .type)) =
      commaSeparated false (types.map TypeExpr.tokens) := by
  have hnone : ∀ a ∈ spelledArguments false (types.map .type), a.isLifetime = false := by
    induction types with
    | nil => exact List.forall_mem_nil _
    | cons t types ih => exact List.forall_mem_cons.2 ⟨rfl, ih⟩
  have hlifetimes : (spelledArguments false (types.map .type)).filter (·.isLifetime) = [] := by
    rw [List.filter_eq_nil_iff]
    intro a ha
    rw [hnone a ha]
    exact Bool.false_ne_true
  have hothers : (spelledArguments false (types.map .type)).filter (!·.isLifetime) =
      spelledArguments false (types.map .type) := by
    rw [List.filter_eq_self]
    intro a ha
    rw [hnone a ha]
    rfl
  rw [SpelledArgument.lifetimesFirst, hlifetimes, hothers]
  exact join_types types

theorem tokens_angle (types : List TypeExpr) :
    (Arguments.angle false (types.map .type) false).tokens =
      .punct '<' false none :: (commaSeparated false (types.map TypeExpr.tokens) ++
        [.punct '>' false none]) := by
  rw [Arguments.tokens, lifetimesFirst_types, operator_less, operator_greater]
  rfl

/-! ### Sizes -/

theorem sizeOfTokens_append (ts us : List Token) :
    sizeOfTokens (ts ++ us) = sizeOfTokens ts + sizeOfTokens us := by
  induction ts with
  | nil => exact (Nat.zero_add _).symm
  | cons t ts ih => rw [List.cons_append, sizeOfTokens, sizeOfTokens, ih, Nat.add_assoc]

theorem sizeOfTokens_le_of_mem {item : List Token} {items : List (List Token)}
    (h : item ∈ items) (separator : List Token) :
    sizeOfTokens item ≤ sizeOfTokens (separated separator false items) := by
  obtain ⟨before, behind, rfl⟩ := List.append_of_mem h
  cases before with
  | nil =>
    rw [List.nil_append, separated_cons, sizeOfTokens_append]
    exact Nat.le_add_right _ _
  | cons first before =>
    simp only [List.cons_append, separated_cons, List.flatMap_append, List.flatMap_cons,
      sizeOfTokens_append]
    omega

theorem sizeOfTokens_segment_le {s : Segment} {p : PathExpr} (h : s ∈ p.segments) :
    sizeOfTokens s.tokens ≤ sizeOfTokens p.tokens := by
  obtain ⟨rooted, segments⟩ := p
  rw [PathExpr.tokens, sizeOfTokens_append, tokensOfSegments_eq_map]
  exact Nat.le_add_left_of_le (sizeOfTokens_le_of_mem (List.mem_map_of_mem h) _)

theorem sizeOfTokens_segment_pos (s : Segment) : 0 < sizeOfTokens s.tokens := by
  obtain ⟨name, args⟩ := s
  exact Nat.add_pos_left Nat.zero_lt_one _

theorem sizeOfTokens_argument_lt (name : String) {types : List TypeExpr} {t : TypeExpr}
    (h : t ∈ types) :
    sizeOfTokens t.tokens <
      sizeOfTokens (Segment.mk name (.angle false (types.map .type) false)).tokens := by
  have hle := sizeOfTokens_le_of_mem (List.mem_map_of_mem (f := TypeExpr.tokens) h)
    (Token.operator ",")
  rw [Segment.tokens, tokens_angle, sizeOfTokens, sizeOfTokens, sizeOfTokens_append]
  change _ < 1 + (1 + (sizeOfTokens (separated (Token.operator ",") false _) + _))
  omega

namespace Grammar

/-! ## Words of paths -/

/-- The words of a path that can have arguments. -/
def isPathName (word : String) : Bool := isName word || word == "Self"

/-- The words of a path that lead somewhere and have no arguments. -/
def isPathLead (word : String) : Bool := ["super", "self", "crate", "try"].contains word

/-- The words that can stand in a path. -/
def isPathWord (word : String) : Bool := isPathName word || isPathLead word

variable {word other : String}

theorem beq_eq_false_of_isPathWord (h : isPathWord word = true)
    (hother : isPathWord other = false) : (word == other) = false := by
  rw [beq_eq_false_iff_ne]
  rintro rfl
  rw [h] at hother
  cases hother

end Grammar

open Grammar

/-! ## Plain types -/

/-- A word of a path, without arguments. -/
structure Segment.IsPlain (s : Segment) : Prop where
  written : Source.Written s.name
  word : isPathWord s.name = true
  bare : s.args = .none

/-- A path of words that a type can start with.  Such a type does not start with `try`, which is a
word of paths all the same. -/
structure PathExpr.IsPlain (p : PathExpr) : Prop where
  segments : ∀ s ∈ p.segments, s.IsPlain
  starts : p.isRooted = true ∨ ∀ s ∈ p.segments.head?, s.name ≠ "try"

/-- A path of words, perhaps with types as arguments of the last one, or a slice. -/
inductive TypeExpr.IsPlain : TypeExpr → Prop
  | path {p : PathExpr} (hp : p.IsPlain) (hne : p.segments ≠ []) : IsPlain (.path p)
  | applied {p : PathExpr} {name : String} {types : List TypeExpr} (hp : p.IsPlain)
    (hwritten : Source.Written name) (hname : isPathName name = true)
    (htypes : ∀ t ∈ types, IsPlain t) :
    IsPlain (.path (p.snoc (.mk name (.angle false (types.map .type) false))))
  | slice {elem : TypeExpr} (h : IsPlain elem) : IsPlain (.slice elem)

theorem written_of_all {names : List String}
    (h : (names.all fun name => isWord name.toList && isPathName name) = true) {name : String}
    (hname : name ∈ names) : Source.Written name ∧ isPathName name = true := by
  have hword := List.all_eq_true.1 h name hname
  rw [Bool.and_eq_true] at hword
  exact ⟨.plain hword.1, hword.2⟩

theorem Segment.isPlain_word {name : String} (hwritten : Source.Written name)
    (hname : isPathName name = true) : (mk name .none).IsPlain :=
  ⟨hwritten, by rw [Segment.name, isPathWord, hname, Bool.true_or], rfl⟩

namespace PathExpr

theorem isPlain_ofNames {names : List String}
    (h : ∀ name ∈ names, Source.Written name ∧ isPathName name = true) (rooted : Bool) :
    (ofNames rooted names).IsPlain where
  segments := List.forall_mem_map.2 fun name hname =>
    Segment.isPlain_word (h name hname).1 (h name hname).2
  starts := by
    right
    intro s hs
    obtain ⟨name, hname, rfl⟩ := List.mem_map.1 (List.mem_of_mem_head? hs)
    rintro rfl
    cases (h _ hname).2

variable {p : PathExpr} {name : String}

/-- A path still starts right when a word with arguments is added to it. -/
theorem IsPlain.starts_snoc (hp : p.IsPlain) (hname : isPathName name = true) (args : Arguments) :
    (p.snoc (.mk name args)).isRooted = true ∨
      ∀ s ∈ (p.snoc (.mk name args)).segments.head?, s.name ≠ "try" := by
  refine hp.starts.imp_right fun hfirst s hs => ?_
  obtain ⟨rooted, _ | ⟨s', segments⟩⟩ := p
  · cases hs
    rintro rfl
    cases hname
  · exact hfirst s hs

theorem IsPlain.snoc (hp : p.IsPlain) (hwritten : Source.Written name)
    (hname : isPathName name = true) : (p.snoc (.mk name .none)).IsPlain where
  segments := List.forall_mem_append.2
    ⟨hp.segments, List.forall_mem_singleton.2 (Segment.isPlain_word hwritten hname)⟩
  starts := hp.starts_snoc hname .none

theorem snoc_ne_nil (p : PathExpr) (s : Segment) : (p.snoc s).segments ≠ [] :=
  List.append_ne_nil_of_right_ne_nil _ (List.cons_ne_nil _ _)

end PathExpr

end Relay
