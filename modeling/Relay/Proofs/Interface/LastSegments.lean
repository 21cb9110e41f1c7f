import Mathlib.Logic.Relation
import Relay.Interface.Classification
import Relay.Proofs.Interface.Rewriting

/-!
# Last segments

Of a path only the last segment decides what it is.  The segments before it get into names and texts
of descriptors, and a classification does not look at these.  So types that differ in the leading
segments of their paths have descriptors that differ in names and texts, however deep the paths are.

A listed name goes before everything built in.  A description goes into a container only if its name
is not listed, and asks the lists for the last segments of the paths that it meets, and for nothing
else.  `TypeExpr.Enters` are its steps: each fact about descriptions that reach into a type is an
induction along them.
-/

namespace Relay

/-! ## Anonymous descriptors -/

mutual

/-- The descriptor without the names of declared types and without texts. -/
def TypeDesc.anonymous : TypeDesc → TypeDesc
  | .array elem => .array elem.anonymous
  | .list args => .list (anonymousAll args)
  | .sparseMap args => .sparseMap (anonymousAll args)
  | .map args => .map (anonymousAll args)
  | .named _ conformance => .named "" conformance
  | .other _ => .other ""
  | d => d

def anonymousAll : List TypeDesc → List TypeDesc
  | [] => []
  | d :: rest => d.anonymous :: anonymousAll rest

end

theorem anonymousAll_eq_map (ds : List TypeDesc) : anonymousAll ds = ds.map TypeDesc.anonymous := by
  induction ds with
  | nil => rfl
  | cons d rest ih => rw [anonymousAll, ih, List.map_cons]

namespace TypeDesc

theorem classifyArray_anonymous (d : TypeDesc) : d.anonymous.classifyArray = d.classifyArray := by
  cases d <;> rfl

theorem classifyList_anonymous (ds : List TypeDesc) :
    classifyList (anonymousAll ds) = classifyList ds := by
  rcases ds with _ | ⟨d, _ | ⟨d', rest⟩⟩
  · rfl
  all_goals
    cases d with
    | scalar kind => cases kind <;> rfl
    | _ => rfl

theorem classifySparse_anonymous (ds : List TypeDesc) :
    classifySparse (anonymousAll ds) = classifySparse ds := by
  rcases ds with _ | ⟨d, _ | ⟨d', rest⟩⟩
  · rfl
  all_goals cases d <;> rfl

/-- No name and no text has a part in what can carry a type. -/
theorem classify_anonymous (d : TypeDesc) : d.anonymous.classify = d.classify := by
  cases d with
  | array elem => exact classifyArray_anonymous elem
  | list args => exact classifyList_anonymous args
  | sparseMap args => exact classifySparse_anonymous args
  | _ => rfl

/-- The second descriptor is an element of the first. -/
inductive Holds : TypeDesc → TypeDesc → Prop
  | array (elem : TypeDesc) : Holds (.array elem) elem
  | list {args : List TypeDesc} {d : TypeDesc} : d ∈ args → Holds (.list args) d
  | sparseMap {args : List TypeDesc} {d : TypeDesc} : d ∈ args → Holds (.sparseMap args) d
  | map {args : List TypeDesc} {d : TypeDesc} : d ∈ args → Holds (.map args) d

end TypeDesc

/-! ## The steps of a description -/

/-- The type of an argument that is described. -/
def Argument.type? : Argument → Option TypeExpr
  | .type t => if t.isInfer then none else some t
  | _ => none

/-- The types among the arguments of a segment, without those left open. -/
def Arguments.types : Arguments → List TypeExpr
  | .angle _ args _ => args.filterMap Argument.type?
  | _ => []

theorem describeArguments_eq (known : KnownTypes) (args : List Argument) :
    describeArguments known args =
      (args.filterMap Argument.type?).map (TypeExpr.describe known) := by
  induction args with
  | nil => rfl
  | cons a rest ih =>
    cases a with
    | type t =>
      rw [describeArguments_type, ih, List.filterMap_cons, Argument.type?]
      cases t.isInfer <;> rfl
    | _ => exact ih

theorem Arguments.describeTypes_eq (known : KnownTypes) (args : Arguments) :
    args.describeTypes known = args.types.map (TypeExpr.describe known) := by
  cases args with
  | none | signature spelling => rfl
  | angle turbofish args trailing => exact describeArguments_eq known args

/-- The last word of a path. -/
def PathExpr.last? (p : PathExpr) : Option String := p.segments.getLast?.map Segment.name

/-- A description of the first type goes on to the second. -/
inductive TypeExpr.Enters (known : KnownTypes) : TypeExpr → TypeExpr → Prop
  | paren (t : TypeExpr) : Enters known (.paren t) t
  | group (t : TypeExpr) : Enters known (.group t) t
  | argument {rooted : Bool} {segments : List Segment} {name : String} {args : Arguments}
      {t : TypeExpr} (hlast : segments.getLast? = some (.mk name args))
      (hunlisted : known.conformance name = .none)
      (hname : name = "Vec" ∨ name = "SparseMap" ∨ name = "HashMap" ∨ name = "BTreeMap")
      (ht : t ∈ args.types) : Enters known (.path (.mk rooted segments)) t
  | slice {rooted : Bool} {segments : List Segment} {args : Arguments} {elem : TypeExpr}
      (hlast : segments.getLast? = some (.mk "Box" args))
      (hunlisted : known.conformance "Box" = .none)
      (helem : args.only?.bind TypeExpr.slice? = some elem) :
      Enters known (.path (.mk rooted segments)) elem

/-- The first type has the second in it, in a place to which a description goes. -/
abbrev TypeExpr.Reaches (known : KnownTypes) : TypeExpr → TypeExpr → Prop :=
  Relation.ReflTransGen (TypeExpr.Enters known)

section Steps

variable {known : KnownTypes}

theorem Arguments.sizeOf_lt_of_mem_types {args : Arguments} {t : TypeExpr} (h : t ∈ args.types) :
    sizeOf t < sizeOf args := by
  cases args with
  | none | signature spelling => cases h
  | angle turbofish args trailing =>
    obtain ⟨a, ha, ht⟩ := List.mem_filterMap.1 h
    have hmem := List.sizeOf_lt_of_mem ha
    cases a with
    | type t' =>
      have : t' = t := by
        rw [Argument.type?] at ht
        split at ht
        · cases ht
        · exact Option.some.inj ht
      simp_all only [Argument.type.sizeOf_spec, Arguments.angle.sizeOf_spec]
      omega
    | _ => cases ht

theorem Arguments.sizeOf_lt_of_only? {args : Arguments} {elem : TypeExpr}
    (h : args.only?.bind TypeExpr.slice? = some elem) : sizeOf elem < sizeOf args := by
  obtain ⟨t, ht, helem⟩ := Option.bind_eq_some_iff.1 h
  unfold Arguments.only? at ht
  split at ht
  · cases ht
    cases t with
    | slice =>
      cases helem
      simp only [TypeExpr.slice.sizeOf_spec, Argument.type.sizeOf_spec, List.cons.sizeOf_spec,
        Arguments.angle.sizeOf_spec]
      omega
    | _ => cases helem
  · cases ht

theorem TypeExpr.Enters.sizeOf_lt {t u : TypeExpr} (h : Enters known t u) :
    sizeOf u < sizeOf t := by
  have hsegment {segments : List Segment} {name : String} {args : Arguments}
      (hlast : segments.getLast? = some (.mk name args)) : sizeOf args < sizeOf segments := by
    have := List.sizeOf_lt_of_mem (List.mem_of_getLast? hlast)
    rw [Segment.mk.sizeOf_spec] at this
    omega
  cases h with
  | paren | group => simp
  | argument hlast _ _ ht =>
    have := hsegment hlast
    have := Arguments.sizeOf_lt_of_mem_types ht
    simp only [TypeExpr.path.sizeOf_spec, PathExpr.mk.sizeOf_spec]
    omega
  | slice hlast _ helem =>
    have := hsegment hlast
    have := Arguments.sizeOf_lt_of_only? helem
    simp only [TypeExpr.path.sizeOf_spec, PathExpr.mk.sizeOf_spec]
    omega

/-- What holds of a type if it holds of those that its description goes on to holds of all types. -/
theorem TypeExpr.enters_induction (known : KnownTypes) {P : TypeExpr → Prop}
    (step : ∀ t, (∀ u, Enters known t u → P u) → P t) (t : TypeExpr) : P t :=
  step t fun u _ => enters_induction known step u
termination_by sizeOf t
decreasing_by exact Enters.sizeOf_lt ‹_›

end Steps

/-! ## Paths by their last segments -/

/-- Takes all but the last segment from every path.  What is kept as tokens may hold paths too, and
goes. -/
def PathExpr.shortening : Rewriting where
  type := id
  path p := .mk false p.segments.getLast?.toList
  spelling _ := []

/-- The type with every path in it cut down to its last segment. -/
def TypeExpr.unqualified (t : TypeExpr) : TypeExpr := t.rewrite PathExpr.shortening

section Unqualified

variable (known : KnownTypes)

theorem TypeExpr.unqualified_path (rooted : Bool) (segments : List Segment) :
    (path (.mk rooted segments)).unqualified =
      path (.mk false
        (segments.getLast?.map (Segment.rewrite PathExpr.shortening)).toList) := by
  rw [← List.getLast?_map, ← rewriteSegments_eq_map]
  rfl

theorem TypeExpr.isInfer_unqualified (t : TypeExpr) : t.unqualified.isInfer = t.isInfer := by
  cases t <;> rfl

theorem TypeExpr.slice?_unqualified (t : TypeExpr) :
    t.unqualified.slice? = t.slice?.map TypeExpr.unqualified := by
  cases t <;> rfl

theorem Argument.type?_rewrite_shortening (a : Argument) :
    (a.rewrite PathExpr.shortening).type? = a.type?.map TypeExpr.unqualified := by
  cases a with
  | type t =>
    change (if t.unqualified.isInfer then none else some t.unqualified) = _
    rw [t.isInfer_unqualified, type?]
    cases t.isInfer <;> rfl
  | _ => rfl

theorem filterMap_type?_rewriteArguments (args : List Argument) :
    (rewriteArguments PathExpr.shortening args).filterMap Argument.type? =
      (args.filterMap Argument.type?).map TypeExpr.unqualified := by
  induction args with
  | nil => rfl
  | cons a rest ih =>
    rw [rewriteArguments, List.filterMap_cons, List.filterMap_cons,
      Argument.type?_rewrite_shortening, ih]
    cases a.type? <;> rfl

theorem Arguments.types_rewrite_shortening (args : Arguments) :
    (args.rewrite PathExpr.shortening).types = args.types.map TypeExpr.unqualified := by
  cases args with
  | none | signature spelling => rfl
  | angle turbofish args trailing => exact filterMap_type?_rewriteArguments args

/-- Leading segments of paths only get into names and texts. -/
theorem TypeExpr.anonymous_describe_unqualified (t : TypeExpr) :
    (t.unqualified.describe known).anonymous = (t.describe known).anonymous := by
  induction t using enters_induction known with
  | step t ih =>
    cases t with
    | paren t => exact ih t (.paren t)
    | group t => exact ih t (.group t)
    | path p =>
      obtain ⟨rooted, segments⟩ := p
      rw [unqualified_path, describe, describe, PathExpr.describe_eq, PathExpr.describe_eq]
      cases hlast : segments.getLast? with
      | none => rfl
      | some s =>
        obtain ⟨name, args⟩ := s
        have hargs (hunlisted : known.conformance name = .none)
            (hname : name = "Vec" ∨ name = "SparseMap" ∨ name = "HashMap" ∨ name = "BTreeMap") :
            anonymousAll ((args.rewrite PathExpr.shortening).describeTypes known) =
              anonymousAll (args.describeTypes known) := by
          rw [anonymousAll_eq_map, anonymousAll_eq_map, Arguments.describeTypes_eq,
            Arguments.describeTypes_eq, args.types_rewrite_shortening, List.map_map, List.map_map,
            List.map_map]
          exact List.map_congr_left fun u hu => ih u (.argument hlast hunlisted hname hu)
        refine Segment.describe_related (R := fun d d' => d.anonymous = d'.anonymous) rfl
          (args.isNone_rewrite _) (fun _ => rfl) (fun _ _ => rfl) (fun hunlisted hname => ?_)
          (fun hunlisted hname => ?_) (fun hunlisted hname => ?_) fun hunlisted hname => ?_
        · exact congrArg TypeDesc.list (hargs hunlisted (.inl hname))
        · exact congrArg TypeDesc.sparseMap (hargs hunlisted (.inr (.inl hname)))
        · exact congrArg TypeDesc.map (hargs hunlisted (.inr (.inr hname)))
        · subst hname
          rw [Arguments.describeSlice?_eq, Arguments.describeSlice?_eq, Arguments.only?_rewrite]
          cases honly : args.only? with
          | none => rfl
          | some t =>
            rw [Option.map_some, Option.bind_some, Option.bind_some, ← unqualified,
              t.slice?_unqualified]
            cases hslice : t.slice? with
            | none => rfl
            | some elem =>
              have helem : args.only?.bind slice? = some elem := by
                rw [honly, Option.bind_some, hslice]
              exact congrArg TypeDesc.array (ih elem (.slice hlast hunlisted helem))
    | _ => rfl

end Unqualified

/-! ## Listed names -/

section Listed

variable {known known' : KnownTypes}

theorem PathExpr.exists_getLast?_of_last? {p : PathExpr} {name : String}
    (h : p.last? = some name) : ∃ args, p.segments.getLast? = some (.mk name args) := by
  obtain ⟨⟨_, args⟩, hlast, rfl⟩ := Option.map_eq_some_iff.1 h
  exact ⟨args, hlast⟩

/-- A listed name makes a path a declared type, whatever the path has for arguments. -/
theorem PathExpr.describe_listed {p : PathExpr} {name : String} (hlast : p.last? = some name)
    (hlisted : known.conformance name ≠ .none) :
    p.describe known = .named p.name (known.conformance name) := by
  obtain ⟨args, hargs⟩ := exists_getLast?_of_last? hlast
  obtain ⟨rooted, segments⟩ := p
  change segments.getLast? = _ at hargs
  rw [describe_eq, hargs]
  exact Segment.describe_listed hlisted

/-- What a description goes on to describe becomes the whole descriptor or an element of it. -/
theorem TypeExpr.Enters.holds {t u : TypeExpr} (h : Enters known t u) :
    t.describe known = u.describe known ∨ (t.describe known).Holds (u.describe known) := by
  cases h with
  | paren | group => exact .inl (by rw [describe])
  | argument hlast hunlisted hname ht =>
    right
    have hmem := List.mem_map_of_mem (f := describe known) ht
    rw [← Arguments.describeTypes_eq] at hmem
    rw [describe, PathExpr.describe_eq, hlast]
    rcases hname with rfl | rfl | rfl | rfl
    · simpa only [Segment.describe_list hunlisted] using .list hmem
    · simpa only [Segment.describe_sparseMap hunlisted] using .sparseMap hmem
    · simpa only [Segment.describe_map (.inl rfl) hunlisted] using .map hmem
    · simpa only [Segment.describe_map (.inr rfl) hunlisted] using .map hmem
  | slice hlast hunlisted helem =>
    right
    rw [describe, PathExpr.describe_eq, hlast]
    simpa only [Segment.describe_box hunlisted, Arguments.describeSlice?_eq, helem] using .array _

theorem TypeExpr.Reaches.holds {t u : TypeExpr} (h : Reaches known t u) :
    Relation.ReflTransGen TypeDesc.Holds (t.describe known) (u.describe known) := by
  induction h with
  | refl => exact .refl
  | tail _ henters ih =>
    rcases henters.holds with heq | hholds
    · rwa [← heq]
    · exact ih.tail hholds

/-! ## Lists that agree -/

/-- A description asks the lists for nothing but the last segments of the paths that it reaches. -/
theorem TypeExpr.describe_congr (t : TypeExpr)
    (h : ∀ p name, t.Reaches known (.path p) → p.last? = some name →
      known.conformance name = known'.conformance name) :
    t.describe known = t.describe known' := by
  induction t using enters_induction known with
  | step t ih =>
    have ih' (u : TypeExpr) (hu : Enters known t u) : u.describe known = u.describe known' :=
      ih u hu fun p name hp => h p name (hp.head hu)
    cases t with
    | paren t => exact ih' t (.paren t)
    | group t => exact ih' t (.group t)
    | path p =>
      obtain ⟨rooted, segments⟩ := p
      rw [describe, describe, PathExpr.describe_eq, PathExpr.describe_eq]
      cases hlast : segments.getLast? with
      | none => rfl
      | some s =>
        obtain ⟨name, args⟩ := s
        have hargs (hunlisted : known.conformance name = .none)
            (hname : name = "Vec" ∨ name = "SparseMap" ∨ name = "HashMap" ∨ name = "BTreeMap") :
            args.describeTypes known = args.describeTypes known' := by
          rw [Arguments.describeTypes_eq, Arguments.describeTypes_eq]
          exact List.map_congr_left fun u hu => ih' u (.argument hlast hunlisted hname hu)
        have hlastWord : (PathExpr.mk rooted segments).last? = some name :=
          congrArg (Option.map Segment.name) hlast
        refine Segment.describe_related (R := Eq) (h _ name .refl hlastWord) rfl (fun _ => rfl)
          (fun _ _ => rfl) (fun hunlisted hname => ?_) (fun hunlisted hname => ?_)
          (fun hunlisted hname => ?_) fun hunlisted hname => ?_
        · exact congrArg TypeDesc.list (hargs hunlisted (.inl hname))
        · exact congrArg TypeDesc.sparseMap (hargs hunlisted (.inr (.inl hname)))
        · exact congrArg TypeDesc.map (hargs hunlisted (.inr (.inr hname)))
        · subst hname
          rw [Arguments.describeSlice?_eq, Arguments.describeSlice?_eq]
          cases helem : args.only?.bind slice? with
          | none => rfl
          | some elem => exact congrArg TypeDesc.array (ih' elem (.slice hlast hunlisted helem))
    | _ => rfl

end Listed

namespace KnownTypes

variable {known : KnownTypes} {name other : String}

theorem conformance_record_of_ne (h : other ≠ name) :
    (known.record name).conformance other = known.conformance other := by
  simp [conformance, record, h]

theorem conformance_serializable_of_ne (h : other ≠ name) :
    (known.serializable name).conformance other = known.conformance other := by
  simp [conformance, serializable, h]

end KnownTypes

namespace TypeExpr

/-- Types that differ in leading segments of paths only have descriptors that differ in names and
texts only, so they are carried in the same way.  A path whose last segment is listed is a declared
type with the listed conformance wherever a description reaches it.  One more name on either list
changes nothing for the types in which no description reaches a path with that last segment. -/
theorem describe_by_last_segments (known : KnownTypes) :
    (∀ t t' : TypeExpr, t.unqualified = t'.unqualified →
      (t.describe known).anonymous = (t'.describe known).anonymous ∧
      (t.describe known).classify = (t'.describe known).classify) ∧
    (∀ (t : TypeExpr) (p : PathExpr) (name : String), t.Reaches known (.path p) →
      p.last? = some name → known.conformance name ≠ .none →
      (path p).describe known = .named p.name (known.conformance name) ∧
      Relation.ReflTransGen TypeDesc.Holds (t.describe known)
        (.named p.name (known.conformance name))) ∧
    ∀ (t : TypeExpr) (name : String),
      (∀ p : PathExpr, t.Reaches known (.path p) → p.last? ≠ some name) →
      t.describe (known.record name) = t.describe known ∧
      t.describe (known.serializable name) = t.describe known := by
  refine ⟨fun t t' h => ?_, fun t p name hreach hlast hlisted => ?_, fun t name h => ?_⟩
  · have hanonymous : (t.describe known).anonymous = (t'.describe known).anonymous := by
      rw [← anonymous_describe_unqualified, h, anonymous_describe_unqualified]
    refine ⟨hanonymous, ?_⟩
    rw [← TypeDesc.classify_anonymous, hanonymous, TypeDesc.classify_anonymous]
  · have hpath : (path p).describe known = .named p.name (known.conformance name) :=
      PathExpr.describe_listed hlast hlisted
    exact ⟨hpath, hpath ▸ hreach.holds⟩
  · have hne {p : PathExpr} {other : String} (hreach : t.Reaches known (.path p))
        (hlast : p.last? = some other) : other ≠ name :=
      fun hother => h p hreach (hother ▸ hlast)
    constructor
    · exact (t.describe_congr fun p other hreach hlast =>
        (KnownTypes.conformance_record_of_ne (hne hreach hlast)).symm).symm
    · exact (t.describe_congr fun p other hreach hlast =>
        (KnownTypes.conformance_serializable_of_ne (hne hreach hlast)).symm).symm

end TypeExpr

/-- A list of declared strings, with the given words before each of its two paths. -/
def Sample.declaredStrings (leading : List String) : TypeExpr :=
  .path ((PathExpr.ofNames true leading).snoc (.mk "Vec" (.angle false
    [.type (.path ((PathExpr.ofNames true leading).snoc (.mk "String" .none)))] false)))

namespace TypeExpr

/-- What a description reaches in such a list when its strings are records. -/
theorem eq_of_declaredStrings_reaches {leading : List String} {u : TypeExpr}
    (h : (Sample.declaredStrings leading).Reaches (KnownTypes.none.record "String") u) :
    u = Sample.declaredStrings leading ∨
      u = .path ((PathExpr.ofNames true leading).snoc (.mk "String" .none)) := by
  induction h with
  | refl => exact .inl rfl
  | tail _ henters ih =>
    rcases ih with rfl | rfl
    · cases henters with
      | argument hlast _ _ ht =>
        rw [List.getLast?_concat] at hlast
        cases hlast
        exact .inr (List.mem_singleton.1 ht)
      | slice hlast => simp [PathExpr.segments] at hlast
    · cases henters with
      | argument hlast hunlisted =>
        rw [List.getLast?_concat] at hlast
        cases hlast
        exact absurd hunlisted (by decide)
      | slice hlast => simp [PathExpr.segments] at hlast

theorem describe_by_last_segments_declared :
    let known := KnownTypes.none.record "String"
    let plain := Sample.declaredStrings []
    let t := Sample.declaredStrings ["text"]
    (t.describe known).classify = (plain.describe known).classify ∧
    Relation.ReflTransGen TypeDesc.Holds (t.describe known)
      (.named "::text::String" ⟨true, false⟩) ∧
    t.describe (known.serializable "Vector") = t.describe known := by
  intro known plain t
  obtain ⟨hclassify, hlisted, hunlisted⟩ := describe_by_last_segments known
  have hreach :
      t.Reaches known (.path ((PathExpr.ofNames true ["text"]).snoc (.mk "String" .none))) :=
    .single (.argument rfl rfl (.inl rfl) List.mem_cons_self)
  refine ⟨(hclassify t plain rfl).2, (hlisted t _ "String" hreach rfl (by decide)).2,
    (hunlisted t "Vector" fun p hp => ?_).2⟩
  rcases eq_of_declaredStrings_reaches hp with heq | heq <;> cases heq <;> decide

end TypeExpr

end Relay
