import Relay.Interface.Synthesis
import Relay.Proofs.Interface.LastSegments
import Relay.Proofs.Source.TypePhrases

/-!
# Types made for descriptors

The type that is made for a descriptor, and the text of the descriptor, differ only in what they put
in front of the built-in names: all that is needed to reach them from anywhere, or nothing.  Either
way the type is plain, so it is read back, and it is described by the descriptor that it was made
for.
-/

namespace Relay

/-! ## The vocabulary -/

/-- The names that a description knows by itself. -/
def builtinNames : List String :=
  ScalarKind.all.map ScalarKind.sourceName ++ ["String", "CharSeq", "Handle", "Size", "SizeF",
    "Vec", "SparseMap", "HashMap", "BTreeMap", "Box"]

/-- No built-in name is listed. -/
def KnownTypes.SparesBuiltins (known : KnownTypes) : Prop :=
  ∀ name ∈ builtinNames, known.conformance name = .none

instance (known : KnownTypes) : Decidable known.SparesBuiltins :=
  inferInstanceAs (Decidable (∀ name ∈ builtinNames, known.conformance name = .none))

/-- A descriptor in which all names are paths of words.  Their last words are listed as the
descriptor says, and those of unlisted ones are not built in. -/
inductive TypeDesc.Spoken (known : KnownTypes) : TypeDesc → Prop
  | scalar (kind : ScalarKind) : Spoken known (.scalar kind)
  | text : Spoken known .text
  | charSeq : Spoken known .charSeq
  | handle : Spoken known .handle
  | size : Spoken known .size
  | sizeF : Spoken known .sizeF
  | array {elem : TypeDesc} (helem : Spoken known elem) : Spoken known (.array elem)
  | list {args : List TypeDesc} (hargs : ∀ d ∈ args, Spoken known d) : Spoken known (.list args)
  | sparseMap {args : List TypeDesc} (hargs : ∀ d ∈ args, Spoken known d) :
    Spoken known (.sparseMap args)
  | map {args : List TypeDesc} (hargs : ∀ d ∈ args, Spoken known d) : Spoken known (.map args)
  | named {p : PathExpr} {last : String} (hp : p.IsPlain) (hlast : p.last? = some last)
    (hbuiltin : known.conformance last = .none → last ∉ builtinNames) :
    Spoken known (.named p.name (known.conformance last))

/-! ## Types by what is in front of built-in names -/

mutual

/-- A type for a descriptor, given what goes in front of built-in names. -/
def TypeDesc.typeFrom (lead : String → PathExpr) : TypeDesc → TypeExpr
  | .scalar kind => .path (.ofNames false [kind.sourceName])
  | .text => .path ((lead "String").snoc (.mk "String" .none))
  | .charSeq => .path ((lead "CharSeq").snoc (.mk "CharSeq" .none))
  | .handle => .path ((lead "Handle").snoc (.mk "Handle" .none))
  | .size => .path ((lead "Size").snoc (.mk "Size" .none))
  | .sizeF => .path ((lead "SizeF").snoc (.mk "SizeF" .none))
  | .array elem =>
    .path ((lead "Box").snoc (.mk "Box"
      (.angle false ([.slice (elem.typeFrom lead)].map .type) false)))
  | .list args =>
    .path ((lead "Vec").snoc (.mk "Vec" (.angle false ((typesFrom lead args).map .type) false)))
  | .sparseMap args =>
    .path ((lead "SparseMap").snoc
      (.mk "SparseMap" (.angle false ((typesFrom lead args).map .type) false)))
  | .map args =>
    .path ((lead "HashMap").snoc
      (.mk "HashMap" (.angle false ((typesFrom lead args).map .type) false)))
  | .named name _ => .ofText name
  | .other text => .ofText text

def typesFrom (lead : String → PathExpr) : List TypeDesc → List TypeExpr
  | [] => []
  | d :: rest => d.typeFrom lead :: typesFrom lead rest

end

/-- Where the built-in names come from. -/
def PathExpr.home (runtime : PathExpr) : String → PathExpr
  | "String" => .ofNames true ["std", "string"]
  | "Box" => .ofNames true ["std", "boxed"]
  | "Vec" => .ofNames true ["std", "vec"]
  | "HashMap" => .ofNames true ["std", "collections"]
  | _ => runtime

mutual

theorem TypeDesc.typeExpr_eq (runtime : PathExpr) :
    ∀ d : TypeDesc, d.typeExpr runtime = d.typeFrom runtime.home
  | .scalar _ | .text | .charSeq | .handle | .size | .sizeF | .named _ _ | .other _ => rfl
  | .array elem => by rw [TypeDesc.typeExpr, elem.typeExpr_eq runtime]; rfl
  | .list args | .sparseMap args | .map args => by
    rw [TypeDesc.typeExpr, typeExprs_eq runtime args]; rfl

theorem typeExprs_eq (runtime : PathExpr) :
    ∀ ds : List TypeDesc, typeExprs runtime ds = typesFrom runtime.home ds
  | [] => rfl
  | d :: rest => by rw [typeExprs, d.typeExpr_eq runtime, typeExprs_eq runtime rest, typesFrom]

end

theorem typesFrom_eq_map (lead : String → PathExpr) (ds : List TypeDesc) :
    typesFrom lead ds = ds.map (TypeDesc.typeFrom lead) := by
  induction ds with
  | nil => rfl
  | cons d rest ih => rw [typesFrom, ih, List.map_cons]

/-! ## Names -/

open Lexer in
/-- A path of words is rendered by its name. -/
theorem PathExpr.renders_name {p : PathExpr} (hp : ∀ s ∈ p.segments, s.IsPlain) :
    Renders p.tokens p.name.toList := by
  obtain ⟨rooted, segments⟩ := p
  have hwords : Renders (separated (Token.operator "::") false (segments.map Segment.tokens))
      ("::".intercalate (segments.map Segment.name)).toList := by
    refine renders_intercalate (fun _ _ => renders_colons) ?_
    rw [List.forall₂_map_left_iff, List.forall₂_map_right_iff, List.forall₂_same]
    rintro ⟨name, args⟩ hs
    obtain ⟨hwritten, -, rfl⟩ := hp _ hs
    exact renders_word hwritten
  rw [tokens, tokensOfSegments_eq_map, name, String.toList_append]
  cases rooted with
  | true => exact (renders_colons hwords).1
  | false => exact hwords

/-- A path of words is read from its name. -/
theorem PathExpr.readPath_name {p : PathExpr} (hp : ∀ s ∈ p.segments, s.IsPlain)
    (hne : p.segments ≠ []) : Source.readPath p.name = .ok p :=
  Source.read_of_renders (fun _ => Source.phrase?_path hp hne) (renders_name hp)

theorem PathExpr.ne_nil_of_last? {p : PathExpr} {last : String} (h : p.last? = some last) :
    p.segments ≠ [] := by
  intro hnil
  rw [last?, hnil] at h
  cases h

/-- The name of a declared type is read as the path that it is. -/
theorem TypeExpr.ofText_name {p : PathExpr} (hp : p.IsPlain) (hne : p.segments ≠ []) :
    ofText p.name = .path p := by
  rw [ofText, Source.readType_of_renders (.path hp hne) (PathExpr.renders_name hp.segments)]

/-! ## Reading back -/

theorem PathExpr.IsPlain.home {runtime : PathExpr} (h : runtime.IsPlain) (name : String) :
    (runtime.home name).IsPlain := by
  have hstd {module : String}
      (hmodule : (["std", module].all fun name =>
        isWord name.toList && Grammar.isPathName name) = true) :
      (ofNames true ["std", module]).IsPlain :=
    isPlain_ofNames (fun _ => written_of_all hmodule) true
  unfold PathExpr.home
  split
  case h_5 => exact h
  all_goals exact hstd (by decide +kernel)

section Spoken

variable {known : KnownTypes} {lead : String → PathExpr} {d : TypeDesc}

/-- Every built-in name is a word that can stand in a path and have arguments. -/
theorem written_of_mem_builtinNames {name : String} (h : name ∈ builtinNames) :
    Source.Written name ∧ Grammar.isPathName name = true := by
  have hall : (builtinNames.all fun name =>
      isWord name.toList && Grammar.isPathName name) = true := by
    decide +kernel
  exact written_of_all hall h

theorem ScalarKind.sourceName_mem_builtinNames (kind : ScalarKind) :
    kind.sourceName ∈ builtinNames := by
  cases kind <;> decide

theorem TypeDesc.Spoken.isPlain_typeFrom (hd : d.Spoken known)
    (hlead : ∀ name, (lead name).IsPlain) : (d.typeFrom lead).IsPlain := by
  have hword {p : PathExpr} (hp : p.IsPlain) {name : String} (hname : name ∈ builtinNames) :
      (TypeExpr.path (p.snoc (.mk name .none))).IsPlain := by
    obtain ⟨hwritten, hpath⟩ := written_of_mem_builtinNames hname
    exact .path (hp.snoc hwritten hpath) (p.snoc_ne_nil _)
  have happlied {name : String} {types : List TypeExpr} (hname : name ∈ builtinNames)
      (htypes : ∀ t ∈ types, t.IsPlain) :
      (TypeExpr.path
        ((lead name).snoc (.mk name (.angle false (types.map .type) false)))).IsPlain := by
    obtain ⟨hwritten, hpath⟩ := written_of_mem_builtinNames hname
    exact .applied (hlead name) hwritten hpath htypes
  induction hd with
  | scalar kind =>
    have hnone := PathExpr.isPlain_ofNames (List.forall_mem_nil _) false
    exact hword hnone kind.sourceName_mem_builtinNames
  | text | charSeq | handle | size | sizeF => exact hword (hlead _) (by decide)
  | array _ ih => exact happlied (by decide) (List.forall_mem_singleton.2 (.slice ih))
  | list _ ih | sparseMap _ ih | map _ ih =>
    rw [typeFrom, typesFrom_eq_map]
    exact happlied (by decide) (List.forall_mem_map.2 ih)
  | named hp hlast =>
    rw [typeFrom, TypeExpr.ofText_name hp (PathExpr.ne_nil_of_last? hlast)]
    exact .path hp (PathExpr.ne_nil_of_last? hlast)

/-! ## Describing -/

theorem PathExpr.describe_snoc (p : PathExpr) (s : Segment) :
    (p.snoc s).describe known = s.describe known (p.snoc s) := by
  rw [snoc, describe_eq, List.getLast?_concat]

/-- A built-in name is described in the same way as if nothing were listed. -/
theorem KnownTypes.SparesBuiltins.describe_word (hknown : known.SparesBuiltins) {name : String}
    (hname : name ∈ builtinNames) (whole : PathExpr) :
    (Segment.mk name .none).describe known whole = (Segment.mk name .none).describe .none whole :=
  Segment.describe_related (R := Eq) (hknown name hname) rfl (fun _ => rfl) (fun _ _ => rfl)
    (fun _ _ => rfl) (fun _ _ => rfl) (fun _ _ => rfl) fun _ _ => rfl

/-- A name that is neither listed nor built in is that of a declared type. -/
theorem Segment.describe_declared {name : String} (hname : name ∉ builtinNames) (args : Arguments)
    (whole : PathExpr) :
    (Segment.mk name args).describe known whole = .named whole.name (known.conformance name) := by
  have hne {builtin : String} (h : builtin ∈ builtinNames) : name ≠ builtin := by
    rintro rfl
    exact hname h
  have hscalar : ScalarKind.ofSourceName? name = none := by
    rw [ScalarKind.ofSourceName?, List.find?_eq_none]
    intro kind _ hkind
    exact hne kind.sourceName_mem_builtinNames (beq_iff_eq.1 hkind).symm
  unfold Segment.describe
  rw [hscalar]
  split
  · rfl
  · next hlisted =>
    rw [Decidable.not_not.1 hlisted]
    split
    · next h => cases h
    · split
      case h_11 => rfl
      all_goals exact absurd rfl (hne (by decide))

theorem TypeExpr.IsPlain.isInfer {t : TypeExpr} (h : t.IsPlain) : t.isInfer = false := by
  cases h <;> rfl

theorem Arguments.describeTypes_plain {types : List TypeExpr} (h : ∀ t ∈ types, t.IsPlain) :
    (Arguments.angle false (types.map .type) false).describeTypes known =
      types.map (TypeExpr.describe known) := by
  have htypes : (types.map Argument.type).filterMap Argument.type? = types := by
    induction types with
    | nil => rfl
    | cons t types ih =>
      rw [List.forall_mem_cons] at h
      have ht : (Argument.type t).type? = some t := by
        rw [Argument.type?, h.1.isInfer]
        rfl
      rw [List.map_cons, List.filterMap_cons, ht, ih h.2]
  rw [Arguments.describeTypes_eq, Arguments.types, htypes]

/-- The type that is made for a descriptor is described by it. -/
theorem TypeDesc.Spoken.describe_typeFrom (hd : d.Spoken known) (hknown : known.SparesBuiltins)
    (hlead : ∀ name, (lead name).IsPlain) : (d.typeFrom lead).describe known = d := by
  have hword (name : String) (hname : name ∈ builtinNames) (p : PathExpr) :
      (TypeExpr.path (p.snoc (.mk name .none))).describe known =
        (Segment.mk name .none).describe .none (p.snoc (.mk name .none)) := by
    rw [TypeExpr.describe, PathExpr.describe_snoc, hknown.describe_word hname]
  have hargs {args : List TypeDesc} (hspoken : ∀ d ∈ args, d.Spoken known)
      (ih : ∀ d ∈ args, (d.typeFrom lead).describe known = d) :
      (Arguments.angle false ((typesFrom lead args).map .type) false).describeTypes known =
        args := by
    rw [typesFrom_eq_map, Arguments.describeTypes_plain, List.map_map]
    · exact (List.map_congr_left ih).trans (List.map_id args)
    · exact List.forall_mem_map.2 fun d hd => (hspoken d hd).isPlain_typeFrom hlead
  induction hd with
  | scalar kind =>
    refine (hword _ kind.sourceName_mem_builtinNames (.ofNames false [])).trans ?_
    cases kind <;> rfl
  | text | charSeq | handle | size | sizeF => exact hword _ (by decide) _
  | @array elem _ ih =>
    rw [typeFrom, TypeExpr.describe, PathExpr.describe_snoc,
      Segment.describe_box (hknown _ (by decide))]
    exact congrArg TypeDesc.array ih
  | list hspoken ih =>
    rw [typeFrom, TypeExpr.describe, PathExpr.describe_snoc,
      Segment.describe_list (hknown _ (by decide)), hargs hspoken ih]
  | sparseMap hspoken ih =>
    rw [typeFrom, TypeExpr.describe, PathExpr.describe_snoc,
      Segment.describe_sparseMap (hknown _ (by decide)), hargs hspoken ih]
  | map hspoken ih =>
    rw [typeFrom, TypeExpr.describe, PathExpr.describe_snoc,
      Segment.describe_map (.inl rfl) (hknown _ (by decide)), hargs hspoken ih]
  | @named p last hp hlast hbuiltin =>
    rw [typeFrom, TypeExpr.ofText_name hp (PathExpr.ne_nil_of_last? hlast), TypeExpr.describe]
    by_cases hlisted : known.conformance last = .none
    · obtain ⟨args, hsegments⟩ := PathExpr.exists_getLast?_of_last? hlast
      obtain ⟨rooted, segments⟩ := p
      change segments.getLast? = _ at hsegments
      rw [PathExpr.describe_eq, hsegments]
      exact Segment.describe_declared (hbuiltin hlisted) args _
    · exact PathExpr.describe_listed hlast hlisted

/-! ## Displaying -/

open Lexer in
/-- A word with the texts of its arguments renders the path that it is. -/
theorem renders_applied {name : String} (hwritten : Source.Written name) {types : List TypeExpr}
    {texts : List String}
    (h : List.Forall₂ (fun t text => Renders t.tokens text.toList) types texts) :
    Renders (TypeExpr.path ((PathExpr.ofNames false []).snoc
        (.mk name (.angle false (types.map .type) false)))).tokens
      (name ++ "<" ++ ", ".intercalate texts ++ ">").toList := by
  have htypes : Renders (commaSeparated false (types.map TypeExpr.tokens))
      (", ".intercalate texts).toList :=
    renders_intercalate (fun _ _ => renders_comma) (List.forall₂_map_left_iff.2 h)
  have hclose : Renders [.punct '>' false none] ['>'] := .punct (by decide) nofun .nil
  have hchars : (name ++ "<" ++ ", ".intercalate texts ++ ">").toList =
      name.toList ++ '<' :: ((", ".intercalate texts).toList ++ ['>']) := by
    simp
  change Renders (.word name none :: (Arguments.angle false (types.map .type) false).tokens) _
  rw [hchars, tokens_angle]
  refine .word hwritten (endsWord_cons (by rfl) (by decide)) (.punct (by decide) nofun ?_)
  exact htypes.append hclose (endsWord_cons (by rfl) (by decide))

theorem displayAll_eq_map (ds : List TypeDesc) : displayAll ds = ds.map TypeDesc.display := by
  induction ds with
  | nil => rfl
  | cons d rest ih => rw [displayAll, ih, List.map_cons]

/-- The text of a descriptor renders the type with nothing in front of the built-in names. -/
theorem TypeDesc.Spoken.renders_display (hd : d.Spoken known) :
    Lexer.Renders (d.typeFrom fun _ => .ofNames false []).tokens d.display.toList := by
  have hword {name : String} (hname : name ∈ builtinNames) :
      Lexer.Renders [.word name none] name.toList :=
    Lexer.renders_word (written_of_mem_builtinNames hname).1
  have happlied {name : String} (hname : name ∈ builtinNames) {args : List TypeDesc}
      (ih : ∀ d ∈ args, Lexer.Renders (d.typeFrom fun _ => .ofNames false []).tokens
        d.display.toList) :
      Lexer.Renders (TypeExpr.path ((PathExpr.ofNames false []).snoc (.mk name
          (.angle false ((typesFrom (fun _ => .ofNames false []) args).map .type) false)))).tokens
        (name ++ "<" ++ ", ".intercalate (displayAll args) ++ ">").toList := by
    refine renders_applied (written_of_mem_builtinNames hname).1 ?_
    rw [typesFrom_eq_map, displayAll_eq_map, List.forall₂_map_left_iff,
      List.forall₂_map_right_iff, List.forall₂_same]
    exact ih
  induction hd with
  | scalar kind => exact hword kind.sourceName_mem_builtinNames
  | text | charSeq | handle | size | sizeF => exact hword (by decide)
  | @array elem _ ih =>
    have hslice : Lexer.Renders (TypeExpr.slice (elem.typeFrom fun _ => .ofNames false [])).tokens
        ("[" ++ elem.display ++ "]").toList := by
      have hchars : ("[" ++ elem.display ++ "]").toList =
          '[' :: (elem.display.toList ++ [']']) := by
        simp
      rw [hchars]
      exact .bracket ih .nil
    have hname : "Box" ∈ builtinNames := by decide
    have hbox := renders_applied (written_of_mem_builtinNames hname).1 (.cons hslice .nil)
    have htext : "Box" ++ "<" ++ ", ".intercalate ["[" ++ elem.display ++ "]"] ++ ">" =
        "Box<[" ++ elem.display ++ "]>" := by
      have hopen : "Box<[" = "Box" ++ "<" ++ "[" := rfl
      have hclose : "]>" = "]" ++ ">" := rfl
      rw [hopen, hclose, String.intercalate_singleton]
      simp only [String.append_assoc]
    rw [htext] at hbox
    exact hbox
  | list _ ih => exact happlied (by decide) ih
  | sparseMap _ ih => exact happlied (by decide) ih
  | map _ ih => exact happlied (by decide) ih
  | named hp hlast =>
    rw [typeFrom, TypeExpr.ofText_name hp (PathExpr.ne_nil_of_last? hlast)]
    exact PathExpr.renders_name hp.segments

end Spoken

/-! ## There and back -/

namespace TypeDesc

/-- The type that is made for a descriptor is read back from its tokens and from its text, where the
path of the runtime library has no arguments and can start a type.  What is read back is described
by the descriptor, and so is what is read from the text of the descriptor. -/
theorem describe_of_read {known : KnownTypes} (hknown : known.SparesBuiltins) {d : TypeDesc}
    (hd : d.Spoken known) :
    (∀ (text : String) (runtime : PathExpr), Source.readPath text = .ok runtime →
      (∀ s ∈ runtime.segments, s.args = .none) →
      (runtime.isRooted = true ∨ ∀ s ∈ runtime.segments.head?, s.name ≠ "try") →
      Source.phrase? (fun g => g.type true) (d.typeExpr runtime).tokens =
        some (d.typeExpr runtime) ∧
      Source.readType (d.typeExpr runtime).text = .ok (d.typeExpr runtime) ∧
      (d.typeExpr runtime).describe known = d) ∧
    ∃ t, Source.readType d.display = .ok t ∧ t.describe known = d := by
  refine ⟨fun text runtime hread hbare hstart => ?_, ?_⟩
  · have hruntime : runtime.IsPlain :=
      ⟨fun s hs => Source.isPlain_of_readPath hread hs (hbare s hs), hstart⟩
    have hplain : (d.typeExpr runtime).IsPlain := by
      rw [d.typeExpr_eq]
      exact hd.isPlain_typeFrom hruntime.home
    refine ⟨Source.phrase?_type hplain (agree_refl _),
      Source.readType_of_renders hplain (Lexer.renders_type hplain), ?_⟩
    rw [d.typeExpr_eq]
    exact hd.describe_typeFrom hknown hruntime.home
  · have hbare (_ : String) : (PathExpr.ofNames false []).IsPlain :=
      PathExpr.isPlain_ofNames (List.forall_mem_nil _) false
    exact ⟨_, Source.readType_of_renders (hd.isPlain_typeFrom hbare) hd.renders_display,
      hd.describe_typeFrom hknown hbare⟩

theorem describe_of_read_points :
    let known := KnownTypes.none.record "Point"
    let d := TypeDesc.list [.array (.named "geo::Point" ⟨true, false⟩)]
    let runtime := PathExpr.ofNames true ["courier"]
    known.SparesBuiltins ∧ d.Spoken known ∧ Source.readPath "::courier" = .ok runtime ∧
    Source.readType (d.typeExpr runtime).text = .ok (d.typeExpr runtime) ∧
    (d.typeExpr runtime).describe known = d ∧
    ∃ t, Source.readType "Vec<Box<[geo::Point]>>" = .ok t ∧ t.describe known = d := by
  intro known d runtime
  have hwords : (["courier", "geo", "Point"].all fun name =>
      isWord name.toList && Grammar.isPathName name) = true := by
    decide +kernel
  have hcourier : runtime.IsPlain :=
    PathExpr.isPlain_ofNames
      (fun _ hname => written_of_all hwords (List.mem_singleton.1 hname ▸ by decide)) true
  have hruntime : Source.readPath "::courier" = .ok runtime :=
    PathExpr.readPath_name hcourier.segments (List.cons_ne_nil _ _)
  have hpoint : (PathExpr.ofNames false ["geo", "Point"]).IsPlain :=
    PathExpr.isPlain_ofNames (fun _ hname => written_of_all hwords (List.mem_cons_of_mem _ hname))
      false
  have hknown : known.SparesBuiltins := by decide +kernel
  have hd : d.Spoken known :=
    .list (List.forall_mem_singleton.2 (.array (.named hpoint rfl nofun)))
  obtain ⟨htype, htext⟩ := describe_of_read hknown hd
  obtain ⟨-, hread, hdescribe⟩ :=
    htype _ runtime hruntime (fun s hs => (hcourier.segments s hs).bare) (.inl rfl)
  exact ⟨hknown, hd, hruntime, hread, hdescribe, htext⟩

/-- A path of the runtime library that starts with `try` is read as a path, but with it in front of
a built-in name no type is read. -/
theorem typeExpr_try_unread :
    KnownTypes.none.SparesBuiltins ∧ charSeq.Spoken .none ∧
    Source.readPath "try" = .ok (.ofNames false ["try"]) ∧
    (charSeq.typeExpr (.ofNames false ["try"])).text = "try :: CharSeq" ∧
    Source.phrase? (fun g => g.type true) (charSeq.typeExpr (.ofNames false ["try"])).tokens =
      none ∧
    Source.readType "try :: CharSeq" = .error .phrase := by
  have hwords : (["try", "CharSeq"].all fun name =>
      isWord name.toList && Grammar.isPathWord name) = true := by
    decide +kernel
  have hplain (s : Segment) (hs : s ∈ (PathExpr.ofNames false ["try", "CharSeq"]).segments) :
      s.IsPlain := by
    obtain ⟨name, hname, rfl⟩ := List.mem_map.1 hs
    have hword := List.all_eq_true.1 hwords name hname
    rw [Bool.and_eq_true] at hword
    exact ⟨.plain hword.1, hword.2, rfl⟩
  have hpath : Source.readPath (PathExpr.ofNames false ["try"]).name =
      .ok (.ofNames false ["try"]) :=
    PathExpr.readPath_name (fun s hs => hplain s (List.mem_append_left _ hs)) (List.cons_ne_nil _ _)
  have htext : (charSeq.typeExpr (.ofNames false ["try"])).text = "try :: CharSeq" := by
    decide +kernel
  have hunread : Source.readType (charSeq.typeExpr (.ofNames false ["try"])).text =
      .error .phrase := by
    refine Source.read_of_renders (x := none) (fun ts hts => ?_)
      (Lexer.legible_path fun s hs => Lexer.legible_plain (hplain s hs)).renders
    obtain ⟨p, us, rfl, -⟩ := agree_word hts
    exact Source.phrase?_try p us
  exact ⟨by decide +kernel, .charSeq, hpath, htext, Source.phrase?_try _ _, htext ▸ hunread⟩

end TypeDesc

end Relay
