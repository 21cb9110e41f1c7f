import Relay.Interface.Classification
import Relay.Interface.Lowering
import Relay.Proofs.Interface.Rewriting

/-!
# Parentheses and groups

A type means the same in parentheses, or in the invisible group that an expansion leaves around a
fragment.  A description goes through both.  But before a type among generic arguments is described,
it is asked whether it is `_`, and before that of a box whether it is a slice; a result is asked
whether it is the empty tuple.  A cover hides the answer in these three places.

What is hidden is seen by a classification only one level deep, for that is how far it looks into
containers.  So the classification of a type is that of the bare type, unless its own segment hides
something, and then nothing can carry the type.
-/

namespace Relay

namespace TypeExpr

/-- Whether the type stands in parentheses or in a group. -/
def isCovered : TypeExpr → Bool
  | .paren _ => true
  | .group _ => true
  | _ => false

/-- The type without one cover, if it has one. -/
def peeled : TypeExpr → TypeExpr
  | .paren t => t
  | .group t => t
  | t => t

/-- The type without the covers around it. -/
def uncovered : TypeExpr → TypeExpr
  | .paren t => t.uncovered
  | .group t => t.uncovered
  | t => t

/-- Takes all covers away. -/
def peeling : Rewriting := ⟨peeled, id, id⟩

/-- The type without any covers, around it or inside of it. -/
def bare (t : TypeExpr) : TypeExpr := t.rewrite peeling

end TypeExpr

/-! ## What covers hide -/

/-- The argument is an open type in a cover. -/
def Argument.hidesOpen : Argument → Bool
  | .type t => t.isCovered && t.uncovered.isInfer
  | _ => false

namespace Arguments

def hideOpen : Arguments → Bool
  | .angle _ args _ => args.any Argument.hidesOpen
  | _ => false

/-- The only argument is a slice in a cover. -/
def hideSlice (args : Arguments) : Bool :=
  args.only?.any fun t => t.isCovered && t.uncovered.slice?.isSome

end Arguments

/-- Something is hidden in the place where a container has its element type. -/
def Segment.isVeiled (known : KnownTypes) : Segment → Bool
  | .mk name args =>
    known.conformance name = .none &&
      (((name = "Vec" || name = "SparseMap") && args.hideOpen) || (name = "Box" && args.hideSlice))

/-- Something is hidden in the segment that decides what the type is. -/
def TypeExpr.isVeiled (known : KnownTypes) (t : TypeExpr) : Bool :=
  match t.uncovered with
  | .path p => p.segments.getLast?.any (Segment.isVeiled known)
  | _ => false

/-! ## Bare types -/

namespace TypeExpr

/-- A type is in no cover, or it is in one more than another type. -/
theorem cover_induction {P : TypeExpr → Prop} (hnone : ∀ t, t.isCovered = false → P t)
    (hparen : ∀ t, P t → P (.paren t)) (hgroup : ∀ t, P t → P (.group t)) : ∀ t, P t
  | .paren t => hparen t (cover_induction hnone hparen hgroup t)
  | .group t => hgroup t (cover_induction hnone hparen hgroup t)
  | .path _ | .qualified _ _ | .projected _ _ _ | .reference _ _ _ | .pointer _ _ | .slice _
  | .array _ _ | .tuple _ _ | .function _ | .object _ _ _ | .implement _ _ | .never | .infer
  | .invocation _ _ | .verbatim _ => hnone _ rfl

theorem uncovered_of_not_isCovered {t : TypeExpr} (h : t.isCovered = false) : t.uncovered = t := by
  cases t with
  | paren | group => cases h
  | _ => rfl

theorem describe_uncovered (t : TypeExpr) (known : KnownTypes) :
    t.uncovered.describe known = t.describe known := by
  induction t using cover_induction with
  | hnone t h => rw [uncovered_of_not_isCovered h]
  | hparen t ih | hgroup t ih =>
    rw [uncovered, describe]
    exact ih

/-- What is in no cover stays a type of its form. -/
theorem isInfer_bare (t : TypeExpr) : t.bare.isInfer = t.uncovered.isInfer := by
  induction t using cover_induction with
  | hnone t h =>
    cases t with
    | paren | group => cases h
    | _ => rfl
  | hparen t ih | hgroup t ih => exact ih

theorem slice?_bare (t : TypeExpr) : t.bare.slice? = t.uncovered.slice?.map bare := by
  induction t using cover_induction with
  | hnone t h =>
    cases t with
    | paren | group => cases h
    | _ => rfl
  | hparen t ih | hgroup t ih => exact ih

end TypeExpr

/-! ## Elements of containers -/

namespace TypeDesc

/-- What a classification sees of the element type of a container. -/
def asElement : TypeDesc → TypeDesc
  | scalar kind => scalar kind
  | text => text
  | charSeq => charSeq
  | named _ conformance => named "" conformance
  | _ => other ""

theorem classifyArray_asElement (d : TypeDesc) : d.asElement.classifyArray = d.classifyArray := by
  cases d <;> rfl

theorem classifyList_of_two (d d' : TypeDesc) (rest : List TypeDesc) :
    classifyList (d :: d' :: rest) = .unsupported := by
  cases d with
  | scalar kind => cases kind <;> rfl
  | _ => rfl

theorem classifySparse_of_two (d d' : TypeDesc) (rest : List TypeDesc) :
    classifySparse (d :: d' :: rest) = .unsupported := by
  cases d <;> rfl

theorem classifyList_asElement (ds : List TypeDesc) :
    classifyList (ds.map asElement) = classifyList ds := by
  rcases ds with _ | ⟨d, _ | ⟨d', rest⟩⟩
  · rfl
  · cases d with
    | scalar kind => cases kind <;> rfl
    | _ => rfl
  · rw [List.map_cons, List.map_cons, classifyList_of_two, classifyList_of_two]

theorem classifySparse_asElement (ds : List TypeDesc) :
    classifySparse (ds.map asElement) = classifySparse ds := by
  rcases ds with _ | ⟨d, _ | ⟨d', rest⟩⟩
  · rfl
  · cases d <;> rfl
  · rw [List.map_cons, List.map_cons, classifySparse_of_two, classifySparse_of_two]

/-- With an element that no container can have, a list and a sparse map cannot be carried. -/
theorem classify_of_other_mem {ds : List TypeDesc} {text : String} (h : other text ∈ ds) :
    classifyList ds = .unsupported ∧ classifySparse ds = .unsupported := by
  rcases ds with _ | ⟨d, _ | ⟨d', rest⟩⟩
  · cases h
  · obtain rfl := List.mem_singleton.1 h
    exact ⟨rfl, rfl⟩
  · exact ⟨classifyList_of_two d d' rest, classifySparse_of_two d d' rest⟩

end TypeDesc

section Bare

variable (known : KnownTypes)

/-- A box of anything is no element of a container. -/
theorem Arguments.asElement_describeSlice? (args : Arguments) (text : String) :
    ((args.describeSlice? known).getD (.other text)).asElement = .other "" := by
  rw [Arguments.describeSlice?_eq]
  cases args.only?.bind TypeExpr.slice? <;> rfl

theorem TypeExpr.bare_path (rooted : Bool) (segments : List Segment) :
    (path (.mk rooted segments)).bare =
      path (.mk rooted (segments.map (Segment.rewrite peeling))) := by
  rw [← rewriteSegments_eq_map]
  rfl

/-- Covers do not change what a type is as the element of a container. -/
theorem TypeExpr.asElement_describe_bare (t : TypeExpr) :
    (t.bare.describe known).asElement = (t.describe known).asElement := by
  induction t using cover_induction with
  | hnone t h =>
    cases t with
    | paren | group => cases h
    | path p =>
      obtain ⟨rooted, segments⟩ := p
      rw [bare_path, describe, describe, PathExpr.describe_eq, PathExpr.describe_eq,
        List.getLast?_map]
      cases segments.getLast? with
      | none => rfl
      | some s =>
        obtain ⟨name, args⟩ := s
        refine Segment.describe_related (R := fun d d' => d.asElement = d'.asElement) rfl
          (args.isNone_rewrite _) (fun _ => rfl) (fun _ _ => rfl) (fun _ _ => rfl)
          (fun _ _ => rfl) (fun _ _ => rfl) fun _ _ => ?_
        rw [Arguments.asElement_describeSlice?, Arguments.asElement_describeSlice?]
    | _ => rfl
  | hparen t ih | hgroup t ih =>
    rw [describe]
    exact ih

/-! ## Arguments -/

theorem TypeExpr.isInfer_bare_of_shown {t : TypeExpr} (h : (Argument.type t).hidesOpen = false) :
    t.bare.isInfer = t.isInfer := by
  rw [t.isInfer_bare]
  cases hcovered : t.isCovered with
  | false => rw [uncovered_of_not_isCovered hcovered]
  | true =>
    rw [Argument.hidesOpen, hcovered, Bool.true_and] at h
    rw [h]
    cases t with
    | infer => cases hcovered
    | _ => rfl

/-- Arguments that hide nothing describe the same elements as the bare ones. -/
theorem asElement_describeArguments_bare {args : List Argument}
    (h : args.any Argument.hidesOpen = false) :
    (describeArguments known (rewriteArguments TypeExpr.peeling args)).map TypeDesc.asElement =
      (describeArguments known args).map TypeDesc.asElement := by
  induction args with
  | nil => rfl
  | cons a rest ih =>
    rw [List.any_cons, Bool.or_eq_false_iff] at h
    cases a with
    | type t =>
      have hinfer := t.isInfer_bare_of_shown h.1
      rw [rewriteArguments, Argument.rewrite, describeArguments_type, describeArguments_type]
      change List.map _ (if t.bare.isInfer then _ else t.bare.describe known :: _) = _
      rw [hinfer]
      split
      · exact ih h.2
      · rw [List.map_cons, List.map_cons, t.asElement_describe_bare, ih h.2]
    | _ => exact ih h.2

/-- An open type in a cover is described, and as no element of a container. -/
theorem exists_other_mem_describeArguments {args : List Argument}
    (h : args.any Argument.hidesOpen = true) :
    ∃ text, TypeDesc.other text ∈ describeArguments known args := by
  induction args with
  | nil => cases h
  | cons a rest ih =>
    rw [List.any_cons, Bool.or_eq_true] at h
    have hrest : ∀ ds, (∃ text, TypeDesc.other text ∈ ds) → ∀ d,
        ∃ text, TypeDesc.other text ∈ d :: ds := by
      rintro ds ⟨text, htext⟩ d
      exact ⟨text, List.mem_cons_of_mem _ htext⟩
    cases a with
    | type t =>
      rw [describeArguments_type]
      rcases h with h | h
      · rw [Argument.hidesOpen, Bool.and_eq_true] at h
        have hcovered : t.isInfer = false := by
          cases t with
          | infer => cases h.1
          | _ => rfl
        have hopen : t.uncovered = .infer := by
          generalize t.uncovered = u at h
          cases u with
          | infer => rfl
          | _ => cases h.2
        rw [hcovered, ← t.describe_uncovered, hopen]
        exact ⟨_, List.mem_cons_self⟩
      · split
        · exact ih h
        · exact hrest _ (ih h) _
    | _ => exact ih (h.resolve_left Bool.false_ne_true)

/-! ## The segment that decides -/

variable {args : Arguments}

theorem Arguments.asElement_describeTypes_bare (h : args.hideOpen = false) :
    ((args.rewrite TypeExpr.peeling).describeTypes known).map TypeDesc.asElement =
      (args.describeTypes known).map TypeDesc.asElement := by
  cases args with
  | none | signature spelling => rfl
  | angle turbofish args trailing => exact asElement_describeArguments_bare known h

theorem Arguments.exists_other_mem_describeTypes (h : args.hideOpen = true) :
    ∃ text, TypeDesc.other text ∈ args.describeTypes known := by
  cases args with
  | none | signature spelling => cases h
  | angle turbofish args trailing => exact exists_other_mem_describeArguments known h

/-- A box whose slice is in the open is carried like the box of the bare slice. -/
theorem Arguments.classify_describeSlice?_bare (text text' : String) (h : args.hideSlice = false) :
    ((args.describeSlice? known).getD (.other text)).classify =
      (((args.rewrite TypeExpr.peeling).describeSlice? known).getD (.other text')).classify := by
  rw [describeSlice?_eq, describeSlice?_eq, only?_rewrite]
  unfold hideSlice at h
  generalize args.only? = only at h ⊢
  cases only with
  | none => rfl
  | some t =>
    rw [Option.any_some] at h
    rw [Option.map_some, Option.bind_some, Option.bind_some, ← TypeExpr.bare, t.slice?_bare]
    cases hcovered : t.isCovered with
    | true =>
      rw [hcovered, Bool.true_and, Option.isSome_eq_false_iff, Option.isNone_iff_eq_none] at h
      rw [h]
      cases t with
      | slice => cases hcovered
      | _ => rfl
    | false =>
      rw [TypeExpr.uncovered_of_not_isCovered hcovered]
      cases t.slice? with
      | none => rfl
      | some elem =>
        change (elem.describe known).classifyArray = (elem.bare.describe known).classifyArray
        rw [← TypeDesc.classifyArray_asElement, ← elem.asElement_describe_bare,
          TypeDesc.classifyArray_asElement]

theorem Arguments.classify_describeSlice?_hidden (text : String) (h : args.hideSlice = true) :
    ((args.describeSlice? known).getD (.other text)).classify = .unsupported := by
  rw [describeSlice?_eq]
  unfold hideSlice at h
  generalize args.only? = only at h ⊢
  cases only with
  | none => rfl
  | some t =>
    rw [Option.any_some, Bool.and_eq_true] at h
    cases t with
    | slice => cases h.1
    | _ => rfl

/-- The classification of a segment is that of the bare segment, unless it hides something. -/
theorem Segment.classify_describe (s : Segment) (whole whole' : PathExpr) :
    (s.describe known whole).classify =
    if s.isVeiled known then .unsupported
    else ((s.rewrite TypeExpr.peeling).describe known whole').classify := by
  obtain ⟨name, args⟩ := s
  split
  · next hveiled =>
    simp only [isVeiled, Bool.and_eq_true, Bool.or_eq_true, decide_eq_true_eq] at hveiled
    obtain ⟨hunlisted, ⟨rfl | rfl, hopen⟩ | ⟨rfl, hslice⟩⟩ := hveiled
    · obtain ⟨text, htext⟩ := Arguments.exists_other_mem_describeTypes known hopen
      rw [describe_list hunlisted]
      exact (TypeDesc.classify_of_other_mem htext).1
    · obtain ⟨text, htext⟩ := Arguments.exists_other_mem_describeTypes known hopen
      rw [describe_sparseMap hunlisted]
      exact (TypeDesc.classify_of_other_mem htext).2
    · rw [describe_box hunlisted]
      exact Arguments.classify_describeSlice?_hidden known _ hslice
  · next hshown =>
    simp only [isVeiled, Bool.and_eq_true, Bool.or_eq_true, decide_eq_true_eq, not_and, not_or,
      Bool.not_eq_true] at hshown
    have helements (hopen : args.hideOpen = false) :=
      Arguments.asElement_describeTypes_bare known hopen
    refine describe_related (R := fun d d' => d.classify = d'.classify) rfl
      (args.isNone_rewrite _).symm (fun _ => rfl) (fun _ _ => rfl) (fun hunlisted hname => ?_)
      (fun hunlisted hname => ?_) (fun _ _ => rfl) fun hunlisted hname => ?_
    · rw [TypeDesc.classify, TypeDesc.classify, ← TypeDesc.classifyList_asElement,
        ← helements ((hshown hunlisted).1 (.inl hname)), TypeDesc.classifyList_asElement]
    · rw [TypeDesc.classify, TypeDesc.classify, ← TypeDesc.classifySparse_asElement,
        ← helements ((hshown hunlisted).1 (.inr hname)), TypeDesc.classifySparse_asElement]
    · exact Arguments.classify_describeSlice?_bare known _ _ ((hshown hunlisted).2 hname)

end Bare

/-! ## Types that differ in covers only -/

namespace TypeExpr

variable {known : KnownTypes}

theorem classify_describe (t : TypeExpr) : (t.describe known).classify =
    if t.isVeiled known then .unsupported else (t.bare.describe known).classify := by
  induction t using cover_induction with
  | hnone t h =>
    cases t with
    | paren | group => cases h
    | path p =>
      obtain ⟨rooted, segments⟩ := p
      rw [bare_path, describe, describe, PathExpr.describe_eq, PathExpr.describe_eq,
        List.getLast?_map]
      change _ = if segments.getLast?.any (Segment.isVeiled known) then _ else _
      cases segments.getLast? with
      | none => rfl
      | some s => exact s.classify_describe known _ _
    | _ => rfl
  | hparen t ih | hgroup t ih =>
    rw [describe]
    exact ih

theorem isUnit_eq (t : TypeExpr) : Source.isUnit t = (Source.isUnit t.bare && !t.isCovered) := by
  cases hcovered : t.isCovered with
  | true =>
    rw [Bool.not_true, Bool.and_false]
    cases t with
    | tuple => cases hcovered
    | _ => rfl
  | false =>
    rw [Bool.not_false, Bool.and_true]
    cases t with
    | paren | group => cases hcovered
    | tuple elems trailing => cases elems <;> rfl
    | _ => rfl

theorem result_eq_none_iff {t : TypeExpr} {s : Source.Signature} (h : s.output = some t) :
    (s.lower known).result = none ↔ Source.isUnit t = true := by
  have hresult : (s.lower known).result = if Source.isUnit t then none else some t.text := by
    rw [Source.Signature.lower, Source.Signature.result?, h]
  rw [hresult]
  cases Source.isUnit t <;> simp

/-- Two types that differ in covers only are carried in the same way, unless just one of them hides
something and the bare type can be carried.  Results of these types both count as nothing or both as
something, unless it is the empty tuple and just one of them is covered. -/
theorem classify_eq_iff_of_bare_eq {t t' : TypeExpr} (h : t.bare = t'.bare) (known : KnownTypes) :
    (t.describe known).classify =
      (if t.isVeiled known then .unsupported else (t.bare.describe known).classify) ∧
    ((t.describe known).classify = (t'.describe known).classify ↔
      t.isVeiled known = t'.isVeiled known ∨ (t.bare.describe known).classify = .unsupported) ∧
    ∀ s s' : Source.Signature, s.output = some t → s'.output = some t' →
      (((s.lower known).result = none ↔ (s'.lower known).result = none) ↔
        (Source.isUnit t.bare = true → t.isCovered = t'.isCovered)) := by
  refine ⟨t.classify_describe, ?_, fun s s' hs hs' => ?_⟩
  · rw [t.classify_describe, t'.classify_describe, ← h]
    cases t.isVeiled known <;> cases t'.isVeiled known <;> simp [eq_comm]
  · rw [result_eq_none_iff hs, result_eq_none_iff hs', t.isUnit_eq, t'.isUnit_eq, ← h]
    cases Source.isUnit t.bare <;> cases t.isCovered <;> cases t'.isCovered <;> simp

end TypeExpr

namespace Sample

/-- A path of one word with one type as its argument. -/
def applied (name : String) (t : TypeExpr) : TypeExpr :=
  .path (.mk false [.mk name (.angle false [.type t] false)])

/-- A path of one word. -/
def word (name : String) : TypeExpr := .path (.ofNames false [name])

/-- A method with a result. -/
def answering (result : TypeExpr) : Source.Signature :=
  ⟨⟨"answer", none⟩, false, false, false, some ⟨true, false⟩, [], some result⟩

end Sample

namespace TypeExpr

open Sample

theorem classify_eq_iff_of_bare_eq_texts :
    (paren (applied "Vec" (paren (word "String")))).bare = (applied "Vec" (word "String")).bare ∧
      ((paren (applied "Vec" (paren (word "String")))).describe .none).classify =
        ((applied "Vec" (word "String")).describe .none).classify := by
  have hbare : (paren (applied "Vec" (paren (word "String")))).bare =
      (applied "Vec" (word "String")).bare := rfl
  obtain ⟨-, hclassify, -⟩ := classify_eq_iff_of_bare_eq hbare .none
  exact ⟨hbare, hclassify.2 (.inl rfl)⟩

/-- Parentheses around the slice of a box, around an open type and around the empty tuple matter. -/
theorem covers_matter :
    (applied "Box" (paren (slice (word "i8")))).bare = (applied "Box" (slice (word "i8"))).bare ∧
    ((applied "Box" (slice (word "i8"))).describe .none).classify =
      .transportable (.scalarArray .byte) ∧
    ((applied "Box" (paren (slice (word "i8")))).describe .none).classify = .unsupported ∧
    ((applied "Vec" infer).describe .none).classify = .unknownArgument "Vec" ∧
    ((applied "Vec" (paren infer)).describe .none).classify = .unsupported ∧
    ((answering (tuple [] false)).lower .none).result = none ∧
    ((answering (paren (tuple [] false))).lower .none).result = some "(())" :=
  ⟨rfl, by decide⟩

end TypeExpr

end Relay
