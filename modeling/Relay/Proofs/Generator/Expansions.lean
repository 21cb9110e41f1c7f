import Relay.Generator.Expansion
import Relay.Proofs.Generator.Arguments
import Relay.Proofs.Generator.Endings
import Relay.Proofs.Interface.LastSegments

/-!
# Expansions

What an attribute makes of an item depends on the last name and the last path among its arguments
and on which names they list, and on nothing else about how the arguments are written.  The two
lists of names are asked only whether a name is in them, and that by the descriptions of types.

Behind the item stands the code for it, or an error for each report.  Neither stands there when a
parameter is called `self` and nothing is reported, since then generation gives no answer.
-/

namespace Relay

/-! ## What arguments come to -/

namespace AttributeArgument

def name? : AttributeArgument → Option String
  | name text => some text
  | _ => none

def runtime? : AttributeArgument → Option PathExpr
  | runtime path => some path
  | _ => none

/-- The names that an argument lists among the records. -/
def recordNames : AttributeArgument → List String
  | records names => names
  | _ => []

/-- The names that an argument lists among the types with a byte form. -/
def serializableNames : AttributeArgument → List String
  | serializables names => names
  | _ => []

/-- The last of the names for the proxy. -/
def lastName (args : List AttributeArgument) : Option String := (args.filterMap name?).getLast?

/-- The last of the paths of the runtime library. -/
def lastRuntime (args : List AttributeArgument) : Option PathExpr :=
  (args.filterMap runtime?).getLast?

/-- All names that arguments list. -/
def listed (args : List AttributeArgument) : KnownTypes :=
  ⟨args.flatMap recordNames, args.flatMap serializableNames⟩

/-- Arguments that end in the same name and the same path and list the same names. -/
structure Alike (args args' : List AttributeArgument) : Prop where
  name : lastName args = lastName args'
  runtime : lastRuntime args = lastRuntime args'
  records (n : String) : n ∈ (listed args).records ↔ n ∈ (listed args').records
  serializables (n : String) :
    n ∈ (listed args).serializables ↔ n ∈ (listed args').serializables

/-- The arguments stand in a text. -/
def SpelledIn (args : List AttributeArgument) (text : String) : Prop :=
  ∃ ts, Source.readTokens text = .ok ts ∧ Spelled args ts

/-- The declaration that is made of an item: every listed name is known, and the last name is that
of the proxy. -/
def declaration (args : List AttributeArgument) (t : Transport) (item : Source.Item) :
    Declaration :=
  { item.lower (listed args) t with outputName := lastName args }

/-- The path of the runtime library: the last one, or the default. -/
def runtimePath (args : List AttributeArgument) : PathExpr :=
  (lastRuntime args).getD Declaration.defaultRuntime

end AttributeArgument

open AttributeArgument in
theorem AttributeArguments.ofList_eq (args : List AttributeArgument) :
    ofList args = ⟨lastName args, listed args, lastRuntime args⟩ := by
  induction args using List.reverseRecOn with
  | nil => rfl
  | append_singleton args a ih =>
    have hadd : ofList (args ++ [a]) = (ofList args).add a := List.foldl_concat ..
    rw [hadd, ih]
    cases a <;>
      simp [add, lastName, listed, lastRuntime, name?, runtime?, recordNames, serializableNames]

/-! ## Lists that are asked for membership -/

section Lowering

variable {known known' : KnownTypes}

theorem KnownTypes.conformance_congr (hrecords : ∀ n, n ∈ known.records ↔ n ∈ known'.records)
    (hserializables : ∀ n, n ∈ known.serializables ↔ n ∈ known'.serializables) (name : String) :
    known.conformance name = known'.conformance name := by
  refine congrArg₂ Conformance.mk (Bool.eq_iff_iff.2 ?_) (Bool.eq_iff_iff.2 ?_)
  · rw [List.contains_iff_mem, List.contains_iff_mem, hrecords]
  · rw [List.contains_iff_mem, List.contains_iff_mem, hserializables]

namespace Source

variable (h : ∀ name, known.conformance name = known'.conformance name)

include h

theorem Param.lower_congr (p : Param) (index : Nat) :
    p.lower known index = p.lower known' index := by
  unfold lower
  rw [p.type.describe_congr fun _ name _ _ => h name]

theorem Signature.lower_congr (s : Signature) : s.lower known = s.lower known' := by
  unfold lower
  simp only [Param.lower_congr h]

theorem Member.method?_congr (m : Member) : m.method? known = m.method? known' := by
  cases m with
  | method s => exact congrArg some (s.lower_congr h)
  | _ => rfl

/-- Lowering asks the lists for nothing but the conformance of names. -/
theorem Item.lower_congr (item : Item) (t : Transport) :
    item.lower known t = item.lower known' t := by
  unfold lower
  cases item.content with
  | trait trait =>
    have htrait : trait.lower known = trait.lower known' := by
      unfold Trait.lower
      rw [funext (Member.method?_congr h)]
    exact congrArg (Declaration.ofInterface · t) htrait
  | other kind name => rfl

end Source

end Lowering

namespace AttributeArgument

variable {args args' : List AttributeArgument}

theorem Alike.declaration_eq (h : Alike args args') (t : Transport) (item : Source.Item) :
    declaration args t item = declaration args' t item := by
  unfold declaration
  rw [h.name, item.lower_congr (KnownTypes.conformance_congr h.records h.serializables) t]

theorem Alike.runtimePath_eq (h : Alike args args') : runtimePath args = runtimePath args' := by
  rw [runtimePath, h.runtime, runtimePath]

/-- Arguments with nothing wrong about them leave the item in its place. -/
theorem SpelledIn.expand_eq {text : String} (h : SpelledIn args text) (t : Transport)
    (item : String) : expand t text item = (do
      let _ ← Source.readTokens item
      let i ← Source.readItem item
      return .followed ((declaration args t i).generate (runtimePath args))) := by
  obtain ⟨ts, hts, hspelled⟩ := h
  have hargs := AttributeArguments.ofTokens_eq_ok.2 ⟨args, hspelled, rfl⟩
  rw [AttributeArguments.ofList_eq] at hargs
  unfold expand
  rw [hts]
  cases Source.readTokens item with
  | error fault => rfl
  | ok its =>
    simp only [bind, Except.bind]
    rw [hargs]
    rfl

end AttributeArgument

/-! ## What stands behind an item -/

/-- What stands in the place of an item, given how the item is printed. -/
def Expansion.tokens? (printed : List Token) : Expansion → Option (List Token)
  | refused fault => some (compileError fault.message)
  | followed g => g.code?.map (printed ++ ·)

/-- No code that is generated is a row of errors. -/
theorem Generated.tokens_ne_errors (o : Generated) (reports : List Diagnostic) :
    o.tokens ≠ reports.flatMap Diagnostic.compileError := by
  have hmark : Token.operator "#" = [.punct '#' false none] := rfl
  have hcode : o.tokens.head? = some (.punct '#' false none) := by
    unfold tokens Emission.proxyCode Emission.proxyType codeDoc
    rw [hmark]
    cases o.emission.transport <;> simp only [List.append_assoc, List.cons_append, List.head?_cons]
  intro h
  rw [h] at hcode
  cases reports with
  | nil => cases hcode
  | cons report rest => cases hcode

namespace AttributeArgument

variable {args : List AttributeArgument} {t : Transport} {text : String} {item : Source.Item}

/-- Of the names in an item that is read, only that of a parameter called `self` can be one that
cannot stand in code. -/
theorem misnamed_declaration_iff (hread : Source.readItem text = .ok item) :
    (declaration args t item).Misnamed ↔ (declaration args t item).Unreported ∧
      ∃ s ∈ item.signatures, ∃ p ∈ s.params, p.name = some "self" := by
  have hspellable : (declaration args t item).Spellable ↔
      ∀ name ∈ item.names, plainName name ∉ unescapableWords :=
    Source.Item.spellable_lower_iff (Source.Item.written_of_readItem hread) (listed args) t
  refine and_congr_right fun _ => ?_
  rw [hspellable, ← Source.Item.exists_unescapable_iff hread]
  simp only [not_forall, exists_prop, Decidable.not_not]

end AttributeArgument

theorem Source.readTokens_of_readItem {text : String} {item : Item} (h : readItem text = .ok item) :
    ∃ ts, readTokens text = .ok ts := by
  cases hts : readTokens text with
  | error fault =>
    unfold readItem read at h
    rw [hts] at h
    cases h
  | ok ts => exact ⟨ts, rfl⟩

/-! ## Expansions that are run -/

/-- The code that is put behind an item. -/
def Expansion.generated? : Expansion → Option Generated
  | refused _ => none
  | followed g => g.output?

theorem Expansion.generated?_eq_some {e : Expansion} {o : Generated} :
    e.generated? = some o ↔ e = .followed (.accepted o) := by
  cases e with
  | refused fault => simp [generated?]
  | followed g => simp [generated?, Generation.output?_eq_some]

/-- A path without arguments in words: whether it is rooted, and its segments. -/
def PathExpr.words? (p : PathExpr) : Option (Bool × List String) :=
  if Grammar.isSimple p then some (p.isRooted, p.segments.map Segment.name) else none

theorem PathExpr.eq_ofNames {p : PathExpr} {isRooted : Bool} {names : List String}
    (h : p.words? = some (isRooted, names)) : p = .ofNames isRooted names := by
  obtain ⟨isRooted', segments⟩ := p
  obtain ⟨hsimple, hwords⟩ := Option.ite_none_right_eq_some.1 h
  obtain ⟨rfl, rfl⟩ := Prod.mk.inj (Option.some.inj hwords)
  have hbare : ∀ s ∈ segments, Segment.mk s.name .none = s := by
    intro s hs
    have harguments := List.all_eq_true.1 hsimple s hs
    rcases s with ⟨name, _ | _ | _⟩
    · rfl
    · cases harguments
    · cases harguments
  have hsegments : (segments.map Segment.name).map (fun name => Segment.mk name .none) =
      segments := by
    rw [List.map_map]
    exact (List.map_congr_left hbare).trans segments.map_id'
  exact congrArg (PathExpr.mk isRooted') hsegments.symm

namespace AttributeArgument

/-- What counts of arguments, with the path of the runtime library in words. -/
structure Gist where
  name : Option String
  listed : KnownTypes
  runtime : Option (Bool × List String)
deriving DecidableEq

def gist (args : List AttributeArgument) : Gist :=
  ⟨lastName args, listed args, (lastRuntime args).bind PathExpr.words?⟩

/-- What counts of the arguments in a text. -/
def gistOf? (text : String) : Option Gist := do
  let ts ← (Source.readTokens text).toOption
  let (args, _) ← (ArgumentReader.items ArgumentReader.argument ts).toOption
  return gist args

theorem exists_spelledIn {text : String} {g : Gist} (h : gistOf? text = some g) :
    ∃ args, SpelledIn args text ∧ gist args = g := by
  obtain ⟨ts, hts, h⟩ := Option.bind_eq_some_iff.1 h
  obtain ⟨⟨args, rest⟩, hread, hgist⟩ := Option.bind_eq_some_iff.1 h
  obtain ⟨-, hrow⟩ := ArgumentReader.items_argument.1 (toOption_eq_some.1 hread)
  exact ⟨args, ⟨ts, toOption_eq_some.1 hts, .row hrow⟩, Option.some.inj hgist⟩

theorem lastRuntime_of_gist {args : List AttributeArgument} {isRooted : Bool}
    {names : List String} (h : (gist args).runtime = some (isRooted, names)) :
    lastRuntime args = some (.ofNames isRooted names) := by
  obtain ⟨p, hp, hwords⟩ := Option.bind_eq_some_iff.1 h
  rw [hp, PathExpr.eq_ofNames hwords]

end AttributeArgument

namespace Sample

/-- Arguments with a name and a path that do not count, because others follow. -/
def orderly : String :=
  "name = \"First\", records(Point), crate = a, serial(Style), records(Pin), name = \"Sheet\", " ++
    "crate = rt"

/-- Arguments that come to the same, with longer paths, in one list, and repeated. -/
def shuffled : String :=
  "serial(text::Style, Style), crate = rt, name = r\"Sheet\", records(::geo::Pin, Point, Pin,),"

def drawing : String :=
  "trait Canvas { fn draw(&self, at: Point, style: Style); }"

end Sample

/-! ## Arguments and expansions -/

open AttributeArgument in
/-- Arguments that end in the same name and the same path and list the same names make the same of
every item, however they are written.  Behind the item comes the code for it, which is no row of
errors, or an error for each report in order.  There is no answer where a parameter is called `self`
and nothing is reported. -/
theorem expand_by_arguments {arguments arguments' : String} {args args' : List AttributeArgument}
    (h : SpelledIn args arguments) (h' : SpelledIn args' arguments') (halike : Alike args args')
    (t : Transport) (item : String) :
    expand t arguments item = expand t arguments' item ∧
    ∀ i, Source.readItem item = .ok i →
      ∃ g, (declaration args t i).generate (runtimePath args) = g ∧
        expand t arguments item = .ok (.followed g) ∧
        ((∃ o, g = .accepted o ∧
            (∀ printed, (Expansion.followed g).tokens? printed =
              some (printed ++ (o.emission.proxyCode ++ o.emission.dispatcherCode))) ∧
            ∀ reports : List Diagnostic, o.emission.proxyCode ++ o.emission.dispatcherCode ≠
              reports.flatMap Diagnostic.compileError) ∨
          (∃ report reports, g = .rejected (report :: reports) ∧
            ∀ printed, (Expansion.followed g).tokens? printed =
              some (printed ++ (report :: reports).flatMap Diagnostic.compileError)) ∨
          g = .unspeakable ∧ ∀ printed, (Expansion.followed g).tokens? printed = none) ∧
        (g = .unspeakable ↔ (declaration args t i).Unreported ∧
          ∃ s ∈ i.signatures, ∃ p ∈ s.params, p.name = some "self") := by
  constructor
  · rw [h.expand_eq, h'.expand_eq, halike.runtimePath_eq]
    simp only [halike.declaration_eq]
  · intro i hread
    have hexpand : expand t arguments item =
        .ok (.followed ((declaration args t i).generate (runtimePath args))) := by
      obtain ⟨ts, hts⟩ := Source.readTokens_of_readItem hread
      rw [h.expand_eq, hts, hread]
      rfl
    rw [← misnamed_declaration_iff hread]
    refine ⟨_, rfl, hexpand, ?_⟩
    rcases Declaration.generate_cases (runtimePath args) (declaration args t i) with
      ⟨⟨o, ho⟩ | ⟨report, reports, hreports⟩, hnot⟩ | ⟨hnone, hmisnamed⟩
    · rw [ho]
      exact ⟨.inl ⟨o, rfl, fun _ => rfl, o.tokens_ne_errors⟩, nofun, fun h => absurd h hnot⟩
    · rw [hreports]
      exact ⟨.inr (.inl ⟨report, reports, rfl, fun _ => rfl⟩), nofun, fun h => absurd h hnot⟩
    · rw [hnone]
      exact ⟨.inr (.inr ⟨rfl, fun _ => rfl⟩), fun _ => hmisnamed, fun _ => rfl⟩

open AttributeArgument Sample in
theorem expand_by_arguments_shuffled : ∃ args args',
    SpelledIn args orderly ∧ SpelledIn args' shuffled ∧ Alike args args' ∧
    expand .crossProcess orderly drawing = expand .crossProcess shuffled drawing ∧
    ∃ o, expand .crossProcess orderly drawing = .ok (.followed (.accepted o)) ∧
      ∀ printed, (Expansion.followed (.accepted o)).tokens? printed =
        some (printed ++ (o.emission.proxyCode ++ o.emission.dispatcherCode)) := by
  obtain ⟨args, hspelled, hgist⟩ := exists_spelledIn (show gistOf? orderly =
    some ⟨some "Sheet", ⟨["Point", "Pin"], ["Style"]⟩, some (false, ["rt"])⟩ by decide +kernel)
  obtain ⟨args', hspelled', hgist'⟩ := exists_spelledIn (show gistOf? shuffled =
    some ⟨some "Sheet", ⟨["Pin", "Point", "Pin"], ["Style", "Style"]⟩, some (false, ["rt"])⟩ by
      decide +kernel)
  have halike : Alike args args' := by
    have hlisted : listed args = _ := congrArg Gist.listed hgist
    have hlisted' : listed args' = _ := congrArg Gist.listed hgist'
    refine ⟨(congrArg Gist.name hgist).trans (congrArg Gist.name hgist').symm, ?_, ?_, ?_⟩
    · rw [lastRuntime_of_gist (congrArg Gist.runtime hgist),
        lastRuntime_of_gist (congrArg Gist.runtime hgist')]
    · rw [hlisted, hlisted']
      grind
    · rw [hlisted, hlisted']
      grind
  have haccepted : ((expand .crossProcess orderly drawing).toOption.bind
      Expansion.generated?).isSome = true := by
    decide +kernel
  have hitem : (Source.readItem drawing).toOption.isSome = true := by
    decide +kernel
  obtain ⟨hsame, hends⟩ := expand_by_arguments hspelled hspelled' halike .crossProcess drawing
  refine ⟨args, args', hspelled, hspelled', halike, hsame, ?_⟩
  obtain ⟨o, ho⟩ := Option.isSome_iff_exists.1 haccepted
  obtain ⟨e, he, ho⟩ := Option.bind_eq_some_iff.1 ho
  obtain rfl := Expansion.generated?_eq_some.1 ho
  have hexpand := toOption_eq_some.1 he
  obtain ⟨i, hi⟩ := Option.isSome_iff_exists.1 hitem
  obtain ⟨g, -, hg, hleft, -⟩ := hends i (toOption_eq_some.1 hi)
  rw [hexpand] at hg
  cases hg
  rcases hleft with ⟨o, ho, htokens, -⟩ | ⟨_, _, ho, -⟩ | ⟨ho, -⟩
  · cases ho
    exact ⟨o, hexpand, htokens⟩
  · cases ho
  · cases ho

open AttributeArgument Sample in
/-- An item in whose place an attribute without arguments puts nothing. -/
theorem expand_selfish : SpelledIn [] "" ∧ (∃ i, Source.readItem selfish = .ok i) ∧
    ∃ e, expand .sameProcess "" selfish = .ok e ∧ ∀ printed, e.tokens? printed = none := by
  have hitem : (Source.readItem selfish).toOption.isSome = true := by
    decide +kernel
  have htokens : (expand .sameProcess "" selfish).toOption.map
      (fun e => (e.tokens? []).isSome) = some false := by
    decide +kernel
  obtain ⟨i, hi⟩ := Option.isSome_iff_exists.1 hitem
  obtain ⟨e, he, hnone⟩ := Option.map_eq_some_iff.1 htokens
  refine ⟨⟨[], rfl, .none⟩, ⟨i, toOption_eq_some.1 hi⟩, e, toOption_eq_some.1 he, fun printed => ?_⟩
  cases e with
  | refused fault => cases hnone
  | followed g =>
    cases g with
    | unspeakable => rfl
    | _ => cases hnone

end Relay
