import Relay.Proofs.Source.Renderings

/-!
# Plain types are read back

A type that is made of paths of words, generic arguments and slices is read from the tokens that
spell it, and from all that agree with them.  A reader is followed branch by branch: each test looks
at the first tokens of the part that comes next, or at what may follow a type.  What reads the parts
is given, one level of the grammar deeper, so a whole type is read by induction on its form, at a
depth that its tokens bound.

In the other direction, a path that is read has no words but those that can stand in one.
-/

namespace Relay

/-! ## What a parser reads -/

namespace Parser

variable {α β : Type} {p q : Parser α} {f : α → Parser β} {x : α} {y : β}
  {test : List Token → Bool} {text : String} {ts mid rest : List Token}

/-- The parser reads something from a sequence and leaves the rest. -/
def Reads (p : Parser α) (ts : List Token) (x : α) (rest : List Token) : Prop :=
  p ts = some (x, rest)

theorem reads_pure (x : α) (ts : List Token) : Reads (pure x) ts x ts := rfl

theorem Reads.bind (hp : Reads p ts x mid) (hf : Reads (f x) mid y rest) :
    Reads (p >>= f) ts y rest :=
  Option.bind_eq_some_iff.2 ⟨(x, mid), hp, hf⟩

theorem exists_of_bind (h : Reads (p >>= f) ts y rest) :
    ∃ x mid, Reads p ts x mid ∧ Reads (f x) mid y rest := by
  obtain ⟨⟨x, mid⟩, hp, hf⟩ := Option.bind_eq_some_iff.1 h
  exact ⟨x, mid, hp, hf⟩

theorem reads_sees (test : List Token → Bool) (ts : List Token) :
    Reads (sees test) ts (test ts) ts := rfl

/-- The test that decides between two parsers holds. -/
theorem Reads.seen (htest : test ts = true) (hp : Reads p ts x rest) :
    Reads (do if ← sees test then p else q) ts x rest :=
  .bind (reads_sees test ts) (by rwa [if_pos htest])

/-- The test that decides between two parsers does not hold. -/
theorem Reads.unseen (htest : test ts = false) (hq : Reads q ts x rest) :
    Reads (do if ← sees test then p else q) ts x rest :=
  .bind (reads_sees test ts) (by rwa [if_neg (by rw [htest]; exact Bool.false_ne_true)])

theorem reads_operator (h : Ahead.operator text ts = true) :
    Reads (operator text) ts () (dropOperator text.toList ts) := if_pos h

theorem reads_operator? (h : Ahead.operator text ts = true) :
    Reads (operator? text) ts true (dropOperator text.toList ts) := if_pos h

theorem reads_no_operator? (h : Ahead.operator text ts = false) :
    Reads (operator? text) ts false ts :=
  if_neg (by rw [h]; exact Bool.false_ne_true)

theorem Reads.noOperator (h : Ahead.operator text ts = false) (hq : Reads q ts x rest) :
    Reads (do if ← operator? text then p else q) ts x rest :=
  .bind (reads_no_operator? h) hq

theorem Reads.noKeyword (h : Ahead.keyword text ts = false) (hq : Reads q ts x rest) :
    Reads (do if ← keyword? text then p else q) ts x rest :=
  .bind (if_neg (by rw [h]; exact Bool.false_ne_true)) hq

theorem Reads.inGroup {d : Delimiter} {position : Option Position} (hp : Reads p ts x []) :
    Reads (inGroup d p) (.group d ts position :: rest) x rest := by
  change (if d = d then _ else _) = _
  rw [if_pos rfl, hp]

end Parser

namespace Grammar

open Relay.Parser

variable {angle : Parser Arguments} {word other : String} {p : Option Position}
  {ts rest : List Token}

theorem anyKeyword_lead (word : String) (p : Option Position) (rest : List Token) :
    Ahead.anyKeyword ["super", "self", "crate", "try"] (.word word p :: rest) =
      isPathLead word := by
  simp only [Ahead.anyKeyword, Ahead.keyword, isPathLead, List.any_cons, List.any_nil,
    List.contains_cons, List.contains_nil]

theorem reads_placedName (hword : isName word = true) :
    Reads placedName (.word word p :: rest) ⟨word, p⟩ rest := if_pos hword

theorem reads_segmentWith_lead (hword : isPathLead word = true) :
    Reads (segmentWith angle false) (.word word p :: rest) (.mk word .none) rest := by
  unfold segmentWith
  exact .seen (by rw [anyKeyword_lead, hword]) rfl

theorem reads_segmentWith_name {s : Segment} (hword : isPathName word = true)
    (hs : Reads (do
      if ← sees (startsAngle false) then return .mk word (← angle)
      else return .mk word .none) ts s rest) :
    Reads (segmentWith angle false) (.word word p :: ts) s rest := by
  have hlead : isPathLead word = false := by
    have hleads : ∀ lead ∈ ["super", "self", "crate", "try"], isPathName lead = false := by decide
    rw [isPathLead, ← Bool.not_eq_true, List.contains_iff_mem]
    intro hmem
    rw [hleads word hmem] at hword
    cases hword
  unfold segmentWith
  refine .unseen (by rw [anyKeyword_lead, hlead]) ?_
  by_cases hself : word = "Self"
  · have hread : Reads anyWord (.word word p :: ts) ⟨word, p⟩ ts := rfl
    exact .seen (beq_iff_eq.2 hself) (.bind hread hs)
  · rw [isPathName, Bool.or_eq_true, beq_iff_eq] at hword
    exact .unseen (beq_eq_false_iff_ne.2 hself)
      (.bind (reads_placedName (hword.resolve_right hself)) hs)

/-- A word without arguments is read as a segment. -/
theorem reads_segmentWith_word (hword : isPathWord word = true)
    (hrest : startsAngle false rest = false) :
    Reads (segmentWith angle false) (.word word p :: rest) (.mk word .none) rest := by
  rw [isPathWord, Bool.or_eq_true] at hword
  rcases hword with hname | hlead
  · exact reads_segmentWith_name hname (.unseen hrest rfl)
  · exact reads_segmentWith_lead hlead

/-- A word with arguments is read as a segment. -/
theorem reads_segmentWith_angle {args : Arguments} (hword : isPathName word = true)
    (hts : startsAngle false ts = true) (hargs : Reads angle ts args rest) :
    Reads (segmentWith angle false) (.word word p :: ts) (.mk word args) rest :=
  reads_segmentWith_name hword (.seen hts (.bind hargs rfl))

/-! ## Paths -/

/-- The segment is read from the tokens that spell it, unless arguments could follow. -/
def ReadsSegment (angle : Parser Arguments) (s : Segment) : Prop :=
  ∀ ts rest, Agree s.tokens ts → startsAngle false rest = false →
    Reads (segmentWith angle false) (ts ++ rest) s rest

theorem reads_colons {joint : Bool} {p p' : Option Position} :
    Reads (operator "::") (.punct ':' true p :: .punct ':' joint p' :: ts) () ts := rfl

/-- No arguments come where the next segment does. -/
theorem startsAngle_segments {segments : List Segment}
    (hts : Agree (segments.flatMap fun s => Token.operator "::" ++ s.tokens) ts)
    (hrest : startsAngle false rest = false) : startsAngle false (ts ++ rest) = false := by
  cases segments with
  | nil =>
    cases hts
    exact hrest
  | cons s segments =>
    rw [List.flatMap_cons, List.append_assoc] at hts
    obtain ⟨joint, p, p', us, rfl, hus⟩ := agree_colons hts
    obtain ⟨vs, vs', rfl, hvs, -⟩ := agree_append hus
    obtain ⟨q, vs, rfl⟩ := exists_word_of_agree_segment hvs
    rfl

theorem reads_segments {segments : List Segment}
    (hsegments : ∀ s ∈ segments, ReadsSegment angle s)
    (hts : Agree (segments.flatMap fun s => Token.operator "::" ++ s.tokens) ts)
    (hangle : startsAngle false rest = false) (hnext : startsNextSegment rest = false)
    {limit : Nat} (hlimit : segments.length ≤ limit) :
    Reads (whileUpTo startsNextSegment (do
      operator "::"
      segmentWith angle false) limit) (ts ++ rest) segments rest := by
  induction segments generalizing ts limit with
  | nil =>
    cases hts
    cases limit with
    | zero => exact .unseen hnext rfl
    | succ limit => exact .unseen hnext rfl
  | cons s segments ih =>
    rw [List.forall_mem_cons] at hsegments
    rw [List.length_cons] at hlimit
    obtain ⟨limit, rfl⟩ := Nat.exists_eq_add_one.2 (Nat.zero_lt_of_lt hlimit)
    rw [List.flatMap_cons, List.append_assoc] at hts
    obtain ⟨joint, p, p', us, rfl, hus⟩ := agree_colons hts
    obtain ⟨vs, vs', rfl, hvs, hvs'⟩ := agree_append hus
    have hfirst := hsegments.1 vs (vs' ++ rest) hvs (startsAngle_segments hvs' hangle)
    have hothers := ih hsegments.2 hvs' (Nat.le_of_succ_le_succ hlimit)
    obtain ⟨q, vs, rfl⟩ := exists_word_of_agree_segment hvs
    rw [← List.append_assoc] at hfirst
    exact .seen rfl (.bind (.bind reads_colons hfirst) (.bind hothers rfl))

theorem reads_path {rooted : Bool} {s : Segment} {segments : List Segment}
    (hsegments : ∀ s' ∈ s :: segments, ReadsSegment angle s')
    (hts : Agree (PathExpr.mk rooted (s :: segments)).tokens ts)
    (hangle : startsAngle false rest = false) (hnext : startsNextSegment rest = false) :
    Reads (pathWith angle false) (ts ++ rest) (.mk rooted (s :: segments)) rest := by
  rw [List.forall_mem_cons] at hsegments
  rw [tokens_path] at hts
  obtain ⟨head, us, rfl, hhead, hus⟩ := agree_append hts
  obtain ⟨vs, vs', rfl, hvs, hvs'⟩ := agree_append hus
  have hfirst := hsegments.1 vs (vs' ++ rest) hvs (startsAngle_segments hvs' hangle)
  have hroot : Reads (operator? "::") (head ++ (vs ++ vs') ++ rest) rooted
      (vs ++ (vs' ++ rest)) := by
    obtain ⟨q, vs, rfl⟩ := exists_word_of_agree_segment hvs
    rw [List.append_assoc, List.append_assoc]
    cases rooted with
    | false =>
      cases hhead
      exact reads_no_operator? rfl
    | true =>
      obtain ⟨joint, p, p', _, rfl, hnil⟩ := agree_colons hhead
      cases hnil
      exact reads_operator? rfl
  have hlength : segments.length ≤ (vs' ++ rest).length := by
    have hpositive (s : Segment) : 0 < (Token.operator "::" ++ s.tokens).length := Nat.succ_pos _
    rw [List.length_append, ← hvs'.length_eq]
    exact Nat.le_add_right_of_le (length_le_length_flatMap hpositive segments)
  refine .bind hroot (.bind hfirst (.bind ?_ rfl))
  exact reads_segments hsegments.2 hvs' hangle hnext hlength

/-! ## What stands around a type -/

/-- What follows a type: nothing, or a comma or the end of the arguments among which it stands. -/
inductive FollowsType : List Token → Prop
  | nothing : FollowsType []
  | comma {joint : Bool} {p : Option Position} {rest : List Token} :
    FollowsType (.punct ',' joint p :: rest)
  | close {joint : Bool} {p : Option Position} {rest : List Token} :
    FollowsType (.punct '>' joint p :: rest)

theorem FollowsType.tests (h : FollowsType rest) :
    startsAngle false rest = false ∧ startsNextSegment rest = false ∧
      Ahead.operator "!" rest = false ∧ Ahead.operator "+" rest = false ∧
      Ahead.operator ";" rest = false ∧ Ahead.operator "=" rest = false ∧
      Ahead.operator ":" rest = false := by
  cases h with
  | nothing => exact ⟨rfl, rfl, rfl, rfl, rfl, rfl, rfl⟩
  | @comma joint | @close joint => cases joint <;> exact ⟨rfl, rfl, rfl, rfl, rfl, rfl, rfl⟩

/-- What comes first in a path, and in a type that is one. -/
inductive StartsPath : List Token → Prop
  | word {word : String} {p : Option Position} {rest : List Token}
    (hword : isPathWord word = true) (htry : word ≠ "try") : StartsPath (.word word p :: rest)
  | root {joint : Bool} {p p' : Option Position} {rest : List Token} :
    StartsPath (.punct ':' true p :: .punct ':' joint p' :: rest)

/-- What comes first in a type that is a path or a slice. -/
inductive StartsPlain : List Token → Prop
  | path {ts : List Token} (h : StartsPath ts) : StartsPlain ts
  | slice {body : List Token} {p : Option Position} {rest : List Token} :
    StartsPlain (.group .bracket body p :: rest)

theorem StartsPath.append (h : StartsPath ts) : StartsPath (ts ++ rest) := by
  cases h with
  | word hword htry => exact .word hword htry
  | root => exact .root

theorem StartsPlain.append (h : StartsPlain ts) : StartsPlain (ts ++ rest) := by
  cases h with
  | path h => exact .path h.append
  | slice => exact .slice

/-- A type among arguments is not taken for a lifetime or a constant, nor for the end. -/
theorem StartsPlain.tests (h : StartsPlain ts) :
    Ahead.lifetime ts = false ∧ startsConst ts = false ∧ Ahead.operator ">" ts = false := by
  cases h with
  | path h =>
    cases h with
    | word hword =>
      refine ⟨rfl, ?_, rfl⟩
      change ((_ == "true") || (_ == "false") || false) = false
      rw [beq_eq_false_of_isPathWord hword (by decide),
        beq_eq_false_of_isPathWord hword (by decide)]
      rfl
    | root => exact ⟨rfl, rfl, rfl⟩
  | slice => exact ⟨rfl, rfl, rfl⟩

theorem StartsPath.tests (h : StartsPath ts) :
    Ahead.keyword "for" ts = false ∧ Ahead.group .paren ts = false ∧ startsPointer ts = false ∧
      startsPath ts = true ∧ Ahead.operator "<" ts = false := by
  cases h with
  | @word word p rest hword htry =>
    refine ⟨beq_eq_false_of_isPathWord hword (by decide), rfl, ?_, ?_, rfl⟩
    · change ((_ == "fn") || ((_ == "unsafe") || ((_ == "extern") || false))) = false
      rw [beq_eq_false_of_isPathWord hword (by decide),
        beq_eq_false_of_isPathWord hword (by decide), beq_eq_false_of_isPathWord hword (by decide)]
      rfl
    · have hstart : isName word = true ∨ word ∈ pathKeywords := by
        simp only [isPathWord, isPathName, isPathLead, Bool.or_eq_true, beq_iff_eq,
          List.contains_iff_mem, List.mem_cons, List.not_mem_nil, or_false] at hword
        simp only [pathKeywords, List.mem_cons, List.not_mem_nil, or_false]
        tauto
      have hkeyword : Ahead.anyKeyword pathKeywords (.word word p :: rest) =
          pathKeywords.contains word := by
        simp only [Ahead.anyKeyword, Ahead.keyword, pathKeywords, List.any_cons, List.any_nil,
          List.contains_cons, List.contains_nil]
      have hpath : (isName word || pathKeywords.contains word) = true := by
        rwa [Bool.or_eq_true, List.contains_iff_mem]
      rw [startsPath, hkeyword, Ahead.name, hpath]
      rfl
  | root => exact ⟨rfl, rfl, rfl, rfl, rfl⟩

/-! ## Types -/

variable {g : Grammar}

theorem reads_type_path {path : PathExpr} (hstart : StartsPath ts)
    (hpath : Reads (g.path false) ts path rest) (hrest : FollowsType rest) (plus : Bool) :
    Reads (g.typeForm plus) ts (.path path) rest := by
  obtain ⟨hfor, hparen, hpointer, hpath', hangle⟩ := hstart.tests
  obtain ⟨-, -, hbang, hplus, -⟩ := hrest.tests
  have htype : Reads (g.typePath false) ts (.path path) rest :=
    .noOperator hangle (.bind hpath rfl)
  unfold typeForm
  refine .unseen hfor (.unseen hparen (.unseen hpointer (.seen hpath' (.bind htype ?_))))
  refine .unseen (by simp only [hbang, Bool.false_and]) ?_
  exact .unseen (by simp only [hplus, Bool.and_false]) rfl

theorem reads_type_slice {elem : TypeExpr} {body : List Token}
    (helem : Reads (g.type true) body elem []) (plus : Bool) :
    Reads (g.typeForm plus) (.group .bracket body p :: rest) (.slice elem) rest := by
  unfold typeForm
  refine .unseen rfl (.unseen rfl (.unseen rfl (.unseen rfl (.noKeyword rfl (.seen rfl ?_)))))
  exact .inGroup (.bind helem (.noOperator rfl rfl))

theorem reads_argument {t : TypeExpr} (hstart : StartsPlain ts) (hrest : FollowsType rest)
    (ht : Reads (g.type true) ts t rest) :
    Reads (g.argumentWith angle) ts (.type t) rest := by
  obtain ⟨hlifetime, hconst, -⟩ := hstart.tests
  obtain ⟨-, -, -, -, -, hequals, hcolon⟩ := hrest.tests
  unfold argumentWith
  refine .unseen (by rw [hlifetime]; rfl) (.unseen hconst (.bind ht ?_))
  split
  · exact .noOperator hequals (.noOperator hcolon rfl)
  · rfl

/-! ## Generic arguments -/

/-- The type is read from the tokens that spell it. -/
structure ReadsType (g : Grammar) (t : TypeExpr) : Prop where
  starts : ∀ ts, Agree t.tokens ts → StartsPlain ts
  reads : ∀ ts rest, Agree t.tokens ts → FollowsType rest → Reads (g.type true) (ts ++ rest) t rest

theorem reads_arguments {types : List TypeExpr} (htypes : ∀ t ∈ types, ReadsType g t)
    (hts : Agree (commaSeparated false (types.map TypeExpr.tokens)) ts) {joint : Bool}
    {p : Option Position} {limit : Nat} (hlimit : types.length ≤ limit) (trailing : Bool)
    (htrailing : types = [] → trailing = false) :
    Reads (rowUntilUpTo (Ahead.operator ">") "," (g.argumentWith angle) limit trailing)
      (ts ++ .punct '>' joint p :: rest) ⟨types.map .type, false⟩
      (.punct '>' joint p :: rest) := by
  induction types generalizing ts limit trailing with
  | nil =>
    cases hts
    rw [htrailing rfl]
    cases limit with
    | zero => exact .seen rfl rfl
    | succ limit => exact .seen rfl rfl
  | cons t types ih =>
    rw [List.forall_mem_cons] at htypes
    rw [List.length_cons] at hlimit
    obtain ⟨limit, rfl⟩ := Nat.exists_eq_add_one.2 (Nat.zero_lt_of_lt hlimit)
    cases types with
    | nil =>
      have ht := htypes.1.reads ts (.punct '>' joint p :: rest) hts .close
      have hstart : StartsPlain (ts ++ .punct '>' joint p :: rest) :=
        (htypes.1.starts ts hts).append
      exact .unseen hstart.tests.2.2 (.bind (reads_argument hstart .close ht) (.seen rfl rfl))
    | cons t' types =>
      change Agree (t.tokens ++ Token.operator "," ++
        commaSeparated false ((t' :: types).map TypeExpr.tokens)) ts at hts
      rw [List.append_assoc, operator_comma, List.singleton_append] at hts
      obtain ⟨us, vs, rfl, hus, hvs⟩ := agree_append hts
      obtain ⟨joint', p', vs, rfl, -, hvs⟩ := agree_punct hvs
      have ht := htypes.1.reads us (.punct ',' joint' p' :: (vs ++ .punct '>' joint p :: rest)) hus
        .comma
      have hstart :
          StartsPlain (us ++ .punct ',' joint' p' :: (vs ++ .punct '>' joint p :: rest)) :=
        (htypes.1.starts us hus).append
      have hmore := ih htypes.2 hvs (Nat.le_of_succ_le_succ hlimit) true nofun
      rw [List.append_assoc, List.cons_append]
      exact .unseen hstart.tests.2.2 (.bind (reads_argument hstart .comma ht) (.unseen rfl
        (.bind (reads_operator rfl) (.bind hmore rfl))))

theorem length_le_commaSeparated {types : List TypeExpr} (htypes : ∀ t ∈ types, ReadsType g t) :
    types.length ≤ (commaSeparated false (types.map TypeExpr.tokens)).length := by
  cases types with
  | nil => exact Nat.zero_le _
  | cons t types =>
    have hfirst : 0 < t.tokens.length := by
      have hstart := (htypes t List.mem_cons_self).starts _ (agree_refl _)
      generalize t.tokens = ts at hstart
      cases hstart with
      | path h => cases h <;> exact Nat.succ_pos _
      | slice => exact Nat.succ_pos _
    have hpositive (item : List Token) : 0 < (Token.operator "," ++ item).length := Nat.succ_pos _
    have hmore : types.length ≤
        ((types.map TypeExpr.tokens).flatMap (Token.operator "," ++ ·)).length :=
      (List.length_map _).symm.trans_le (length_le_length_flatMap hpositive _)
    rw [List.map_cons, commaSeparated, separated_cons, List.length_append, List.length_cons]
    omega

/-- What arguments start with does not make another operator of the bracket in front. -/
theorem startsAngle_arguments {types : List TypeExpr} (htypes : ∀ t ∈ types, ReadsType g t)
    (hts : Agree (commaSeparated false (types.map TypeExpr.tokens)) ts) {joint joint' : Bool}
    {p p' : Option Position} :
    startsAngle false (.punct '<' joint p :: (ts ++ .punct '>' joint' p' :: rest)) = true := by
  have hstart : StartsPlain ts ∨ ts = [] := by
    cases types with
    | nil =>
      cases hts
      exact .inr rfl
    | cons t types =>
      rw [List.map_cons, commaSeparated, separated_cons] at hts
      obtain ⟨us, vs, rfl, hus, -⟩ := agree_append hts
      exact .inl ((htypes t List.mem_cons_self).starts us hus).append
  rcases hstart with hstart | rfl
  · cases hstart with
    | path h => cases h <;> cases joint <;> rfl
    | slice => cases joint <;> rfl
  · cases joint <;> cases joint' <;> rfl

theorem reads_angle {types : List TypeExpr} (htypes : ∀ t ∈ types, ReadsType g t)
    (hts : Agree (Arguments.angle false (types.map .type) false).tokens ts) :
    startsAngle false (ts ++ rest) = true ∧
      Reads g.angle (ts ++ rest) (.angle false (types.map .type) false) rest := by
  rw [tokens_angle] at hts
  obtain ⟨joint, p, vs, rfl, -, hvs⟩ := agree_punct hts
  obtain ⟨us, vs, rfl, hus, hclose⟩ := agree_append hvs
  obtain ⟨joint', p', vs, rfl, -, hnil⟩ := agree_punct hclose
  cases hnil
  have hlength : types.length ≤ (us ++ .punct '>' joint' p' :: rest).length := by
    rw [List.length_append, ← hus.length_eq]
    exact Nat.le_add_right_of_le (length_le_commaSeparated htypes)
  rw [List.cons_append, List.append_assoc, List.singleton_append]
  refine ⟨startsAngle_arguments htypes hus, ?_⟩
  have hroot : Ahead.operator "::" (.punct '<' joint p :: (us ++ .punct '>' joint' p' :: rest)) =
      false := by
    cases joint <;> rfl
  have hangle (levels : Nat) : Reads (g.angleUpTo (levels + 1))
      (.punct '<' joint p :: (us ++ .punct '>' joint' p' :: rest))
      (.angle false (types.map .type) false) rest :=
    .bind (reads_no_operator? hroot) (.bind (reads_operator rfl)
      (.bind (reads_arguments htypes hus hlength false fun _ => rfl)
        (.bind (reads_operator rfl) (reads_pure _ _))))
  exact hangle _

end Grammar

open Grammar

namespace Grammar

theorem readsType_path {g : Grammar} {path : PathExpr} (hne : path.segments ≠ [])
    (hsegments : ∀ s ∈ path.segments, ReadsSegment g.angle s)
    (hwords : ∀ s ∈ path.segments, isPathWord s.name = true)
    (hstart : path.isRooted = true ∨ ∀ s ∈ path.segments.head?, s.name ≠ "try") :
    ReadsType g.next (.path path) := by
  obtain ⟨rooted, _ | ⟨s, segments⟩⟩ := path
  · exact absurd rfl hne
  have hstarts (ts : List Token) (hts : Agree (PathExpr.mk rooted (s :: segments)).tokens ts) :
      StartsPath ts := by
    rw [tokens_path] at hts
    cases rooted with
    | true =>
      obtain ⟨joint, p, p', us, rfl, -⟩ := agree_colons hts
      exact .root
    | false =>
      change Agree (s.tokens ++ _) ts at hts
      obtain ⟨us, us', rfl, hus, -⟩ := agree_append hts
      obtain ⟨p, us, rfl⟩ := exists_word_of_agree_segment hus
      exact .word (hwords s List.mem_cons_self) (hstart.resolve_left Bool.false_ne_true s rfl)
  refine ⟨fun ts hts => .path (hstarts ts hts), fun ts rest hts hrest => ?_⟩
  obtain ⟨hangle, hnext, -⟩ := hrest.tests
  exact reads_type_path (hstarts ts hts).append (reads_path hsegments hts hangle hnext) hrest true

theorem readsType_slice {g : Grammar} {elem : TypeExpr} (helem : ReadsType g elem) :
    ReadsType g.next (.slice elem) where
  starts ts hts := by
    obtain ⟨t, ts, ht, -, rfl⟩ := List.forall₂_cons_left_iff.1 hts
    cases ht
    exact .slice
  reads ts rest hts hrest := by
    obtain ⟨t, ts, ht, hnil, rfl⟩ := List.forall₂_cons_left_iff.1 hts
    cases hnil
    cases ht with
    | @group _ _ body _ _ hbody =>
      have hread := helem.reads body [] hbody .nothing
      rw [List.append_nil] at hread
      exact reads_type_slice hread true

theorem readsSegment_word {angle : Parser Arguments} {s : Segment} (hs : s.IsPlain) :
    ReadsSegment angle s := by
  obtain ⟨name, args⟩ := s
  obtain ⟨-, hword, rfl⟩ := hs
  intro ts rest hts hrest
  obtain ⟨p, us, rfl, hus⟩ := agree_word hts
  cases hus
  exact reads_segmentWith_word hword hrest

theorem readsSegment_applied {g : Grammar} {name : String} {types : List TypeExpr}
    (hname : isPathName name = true) (htypes : ∀ t ∈ types, ReadsType g t) :
    ReadsSegment g.angle (.mk name (.angle false (types.map .type) false)) := by
  intro ts rest hts _
  obtain ⟨p, us, rfl, hus⟩ := agree_word hts
  obtain ⟨hangle, hread⟩ := reads_angle htypes hus
  exact reads_segmentWith_angle hname hangle hread

/-! ## Depth -/

/-- Every level of the grammar uses up a token, so a plain type is read at a depth that is no less
than the size of its tokens. -/
theorem readsType_of_isPlain {t : TypeExpr} (ht : t.IsPlain) {depth : Nat}
    (hdepth : sizeOfTokens t.tokens ≤ depth) : ReadsType (ofDepth depth) t := by
  induction ht generalizing depth with
  | @path p hp hne =>
    obtain ⟨s, hs⟩ := List.exists_mem_of_ne_nil _ hne
    have hsize := sizeOfTokens_segment_le hs
    have hpositive := sizeOfTokens_segment_pos s
    obtain ⟨depth, rfl⟩ := Nat.exists_eq_add_one.2 (show 0 < depth from
      hpositive.trans_le (hsize.trans hdepth))
    exact readsType_path hne (fun s hs => readsSegment_word (hp.segments s hs))
      (fun s hs => (hp.segments s hs).word) hp.starts
  | @applied p name types hp _ hname _ ih =>
    have hsize : sizeOfTokens (Segment.mk name (.angle false (types.map .type) false)).tokens ≤
        depth :=
      (sizeOfTokens_segment_le (List.mem_append_right p.segments List.mem_cons_self)).trans hdepth
    have hpositive := sizeOfTokens_segment_pos
      (.mk name (.angle false (types.map .type) false))
    obtain ⟨depth, rfl⟩ := Nat.exists_eq_add_one.2 (show 0 < depth from hpositive.trans_le hsize)
    have htypes (t : TypeExpr) (ht : t ∈ types) : ReadsType (ofDepth depth) t := by
      have hlt := sizeOfTokens_argument_lt name ht
      exact ih t ht (by omega)
    refine readsType_path (p.snoc_ne_nil _) ?_ ?_ ?_
    · refine List.forall_mem_append.2 ⟨fun s hs => readsSegment_word (hp.segments s hs), ?_⟩
      exact List.forall_mem_singleton.2 (readsSegment_applied hname htypes)
    · refine List.forall_mem_append.2 ⟨fun s hs => (hp.segments s hs).word, ?_⟩
      exact List.forall_mem_singleton.2 (by rw [isPathWord, Segment.name, hname, Bool.true_or])
    · exact hp.starts_snoc hname _
  | @slice elem h ih =>
    have hsize : sizeOfTokens (TypeExpr.slice elem).tokens = 1 + sizeOfTokens elem.tokens := rfl
    obtain ⟨depth, rfl⟩ := Nat.exists_eq_add_one.2 (show 0 < depth by omega)
    exact readsType_slice (ih (by omega))

end Grammar

/-! ## Reading -/

namespace Source

/-- A plain type is read from its tokens, and from all that agree with them. -/
theorem phrase?_type {t : TypeExpr} (ht : t.IsPlain) {ts : List Token} (hts : Agree t.tokens ts) :
    phrase? (fun g => g.type true) ts = some t := by
  have hdepth : sizeOfTokens t.tokens ≤ 4 * sizeOfTokens ts + 16 := by
    rw [hts.size]
    omega
  have hread := (readsType_of_isPlain ht hdepth).reads ts [] hts .nothing
  rw [List.append_nil] at hread
  rw [phrase?, Parser.whole?, forTokens, hread]

theorem phrase?_path {p : PathExpr} (hp : ∀ s ∈ p.segments, s.IsPlain) (hne : p.segments ≠ [])
    {ts : List Token} (hts : Agree p.tokens ts) : phrase? (fun g => g.path false) ts = some p := by
  obtain ⟨rooted, _ | ⟨s, segments⟩⟩ := p
  · exact absurd rfl hne
  have hread : Parser.Reads (pathWith (forTokens ts).angle false) (ts ++ []) _ [] :=
    reads_path (fun s hs => readsSegment_word (hp s hs)) hts rfl rfl
  rw [List.append_nil] at hread
  rw [phrase?, Parser.whole?, path, hread]

/-- No type starts with `try`. -/
theorem phrase?_try (p : Option Position) (rest : List Token) :
    phrase? (fun g => g.type true) (.word "try" p :: rest) = none := by
  have hform (g : Grammar) : g.typeForm true (.word "try" p :: rest) = none := rfl
  have hread : (forTokens (.word "try" p :: rest)).type true (.word "try" p :: rest) = none :=
    hform (ofDepth _)
  rw [phrase?, Parser.whole?, hread]

variable {α : Type} {p : Grammar → Parser α} {ts : List Token} {text : String}

theorem read_of_renders {x : Option α} (hread : ∀ ts', Agree ts ts' → phrase? p ts' = x)
    (h : Lexer.Renders ts text.toList) :
    read p text = x.elim (.error .phrase) .ok := by
  obtain ⟨ts', htokens, hagree⟩ := h.tokens?
  simp only [read, readTokens, htokens, bind, Except.bind, hread ts' hagree]
  cases x <;> rfl

/-- A plain type is read from every text that renders it. -/
theorem readType_of_renders {t : TypeExpr} (ht : t.IsPlain)
    (h : Lexer.Renders t.tokens text.toList) : readType text = .ok t :=
  read_of_renders (fun _ => phrase?_type ht) h

end Source

/-! ### Paths that are read -/

namespace Grammar

open Relay.Parser

/-- What is read as a segment is a word in front of its arguments. -/
theorem exists_word_of_segmentWith {angle : Parser Arguments} {ts rest : List Token} {s : Segment}
    (h : segmentWith angle false ts = some (s, rest)) :
    ∃ p tail, ts = .word s.name p :: tail ∧ isPathWord s.name = true := by
  rcases ts with _ | ⟨t, tail⟩
  · cases h
  cases t with
  | word word p =>
    have hrest (word : String) : Gives (do
        if ← sees (startsAngle false) then return .mk word (← angle)
        else return .mk word .none) fun s : Segment => s.name = word :=
      .after fun _ => .ite (.after fun _ => gives_pure rfl) (gives_pure rfl)
    unfold segmentWith at h
    change (if Ahead.anyKeyword ["super", "self", "crate", "try"] (.word word p :: tail) = true
      then (_ : Parser Segment) else _) _ = _ at h
    rw [anyKeyword_lead] at h
    split at h
    · next hlead =>
      cases h
      exact ⟨p, _, rfl, by rw [isPathWord, Segment.name, hlead, Bool.or_true]⟩
    · change (if Ahead.keyword "Self" (.word word p :: tail) = true
        then (_ : Parser Segment) else _) _ = _ at h
      split at h
      · next hself =>
        have hname : isPathName word = true := by
          rw [isPathName, beq_iff_eq.2 (beq_iff_eq.1 hself), Bool.or_true]
        obtain ⟨placed, mid, hplaced, h⟩ := exists_of_bind h
        cases hplaced
        obtain rfl := hrest word _ s rest h
        exact ⟨p, _, rfl, by rw [isPathWord, hname, Bool.true_or]⟩
      · obtain ⟨placed, mid, hplaced, h⟩ := exists_of_bind h
        unfold Reads placedName at hplaced
        dsimp only at hplaced
        split at hplaced
        · next hname =>
          cases hplaced
          obtain rfl := hrest word _ s rest h
          exact ⟨p, _, rfl, by rw [isPathWord, isPathName, hname, Bool.true_or, Bool.true_or]⟩
        · cases hplaced
  | _ => cases h

/-- What is read as a path is a row of words, perhaps with arguments. -/
theorem yields_path (g : Grammar) [g.Drops] : Yields (g.path false) fun p =>
    ∀ s ∈ p.segments, Source.Written s.name ∧ isPathWord s.name = true := by
  have hsegment : Yields (segmentWith g.angle false) fun s =>
      Source.Written s.name ∧ isPathWord s.name = true := by
    intro ts s rest hts h
    obtain ⟨p, tail, rfl, hword⟩ := exists_word_of_segmentWith h
    rw [List.forall_mem_cons] at hts
    cases hts.1 with
    | word hwritten => exact ⟨hwritten, hword⟩
  unfold path pathWith
  refine .after fun rooted => .bind hsegment fun first hfirst => ?_
  exact .bind (Yields.after fun _ => hsegment).repeatWhile fun segments hsegments =>
    yields_pure (List.forall_mem_cons.2 ⟨hfirst, hsegments⟩)

end Grammar

/-- A path that is read without arguments is a path of words. -/
theorem Source.isPlain_of_readPath {text : String} {p : PathExpr} (h : readPath text = .ok p)
    {s : Segment} (hs : s ∈ p.segments) (hbare : s.args = .none) : s.IsPlain := by
  obtain ⟨hwritten, hword⟩ := of_read (fun depth => yields_path (ofDepth depth)) h s hs
  exact ⟨hwritten, hword, hbare⟩

end Relay
