import Relay.Proofs.Generator.Endings
import Relay.Proofs.Source.Continuations

/-!
# One interface on both transports

An interface can have a proxy for calls in the same process and one for calls across processes, and
both implement the same trait.  What can be sent across processes can be sent in the same process,
so an interface that is accepted for the first is accepted for the second, and the code for the two
looks the same from outside.  What only calls in the same process can have are parameters without a
category.

The two generations are compared site by site: a report that does not depend on categories is made
for both transports or for none.  For the name of the proxy this needs more than that, since the
transports put different endings behind the name of the interface.
-/

namespace Relay

/-! ## Names of proxies -/

theorem Transport.ending_suffix (t : Transport) : Ending t.suffix.toList := by
  have hword : t.suffix.toList.all continuesWord = true := by cases t <;> rfl
  have hsolid : (t.suffix.toList.all fun c => !Lexer.isBlank c) = true := by cases t <;> decide
  refine ⟨List.all_eq_true.1 hword, fun c hc => ?_, by cases t <;> decide⟩
  simpa using List.all_eq_true.1 hsolid c hc

/-- Whether the default name of a proxy can be read does not depend on the transport. -/
theorem Declared.Interface.readable_proxyName {i : Interface} (t t' : Transport)
    (outputName : Option String) (hname : ∃ word, Source.readName i.name = .ok word)
    (hproxy : ∃ word, Source.readName (i.proxyName t outputName) = .ok word) :
    ∃ word, Source.readName (i.proxyName t' outputName) = .ok word := by
  cases outputName with
  | some name => exact hproxy
  | none =>
    obtain ⟨word, hname⟩ := hname
    rcases Source.readName_append hname with hword | hnone | hsecond
    · exact ⟨_, hword _ t'.ending_suffix⟩
    · exact ⟨_, hnone _ t'.ending_suffix⟩
    · obtain ⟨word', hproxy⟩ := hproxy
      exact absurd hproxy (hsecond _ t.ending_suffix word')

/-! ## Reports for both transports -/

namespace Declared.Interface

/-- The report is one of a parameter that has no category. -/
def Uncarried (i : Interface) (report : Diagnostic) : Prop :=
  ∃ m ∈ i.methods, ∃ p ∈ m.params,
    report.interface = i.name ∧ report.method = some m.signature ∧ report.param = some p.name ∧
      (report.cause.kind = .unsupportedParameterType ∧ p.desc.classify = .unsupported ∨
        report.cause.kind = .unknownGenericArgument ∧
          ∃ wrapper, p.desc.classify = .unknownArgument wrapper)

end Declared.Interface

theorem Violation.reported {i : Declared.Interface} {t : Transport} {proxy : String}
    {position : Option Position} {s : Site} {kind : DiagnosticKind} {d : Diagnostic}
    (h : Violation i t proxy position s kind d) : Reported i t proxy position s d := by
  have hkind : kind = d.cause.kind := by cases h <;> rfl
  rwa [hkind] at h

/-- A report is made for the other transport as well, or is one of a parameter without category. -/
theorem Reported.transport {i : Declared.Interface} {t t' : Transport} {proxy proxy' : String}
    {position : Option Position} {s : Site} {d : Diagnostic}
    (hproxy : (∃ word, Source.readName proxy' = .ok word) →
      ∃ word, Source.readName proxy = .ok word)
    (hreported : Reported i t proxy position s d) :
    (∃ d', Reported i t' proxy' position s d') ∨ t = .crossProcess ∧ i.Uncarried d := by
  obtain ⟨kind, h⟩ := hreported.violation
  cases h with
  | generic h => exact .inl ⟨_, (Violation.generic h).reported⟩
  | member h => exact .inl ⟨_, (Violation.member h).reported⟩
  | result hm h => exact .inl ⟨_, (Violation.result hm h).reported⟩
  | signature hm h => exact .inl ⟨_, (Violation.signature hm h).reported⟩
  | unqueued hm hp h => exact .inl ⟨_, (Violation.unqueued hm hp h).reported⟩
  | uncarried hm hp _ ht h =>
    exact .inr ⟨ht, _, List.mem_of_getElem? hm, _, List.mem_of_getElem? hp, rfl, rfl, rfl,
      .inl ⟨rfl, h⟩⟩
  | incomplete hm hp _ ht h =>
    exact .inr ⟨ht, _, List.mem_of_getElem? hm, _, List.mem_of_getElem? hp, rfl, rfl, rfl,
      .inr ⟨rfl, _, h⟩⟩
  | interfaceName h => exact .inl ⟨_, (Violation.interfaceName h).reported⟩
  | outputName h =>
    refine .inl ⟨_, (Violation.outputName fun word' hword' => ?_).reported⟩
    obtain ⟨word, hword⟩ := hproxy ⟨word', hword'⟩
    exact h word hword

namespace Declared.Interface

variable {i : Interface} {t t' : Transport} {outputName : Option String}
  {position : Option Position}

/-- When nothing is wrong for one transport, everything that is wrong for the other one are
parameters without a category. -/
theorem uncarried_of_no_problems (h : i.problems t outputName position = []) {report : Diagnostic}
    (hreport : report ∈ i.problems t' outputName position) :
    t' = .crossProcess ∧ i.Uncarried report := by
  have hparts := h
  simp only [problems, List.append_eq_nil_iff, Option.toList_eq_nil_iff,
    nameProblem?_eq_none] at hparts
  obtain ⟨⟨-, hname⟩, hproxy⟩ := hparts
  obtain ⟨s, hreported⟩ := (i.lists_problems t' outputName position).mem_iff.1 hreport
  have hother : (∃ report', Reported i t (i.proxyName t outputName) position s report') ∨
      t' = .crossProcess ∧ i.Uncarried report :=
    hreported.transport fun _ => readable_proxyName t t' outputName hname hproxy
  rcases hother with ⟨report', hreported'⟩ | huncarried
  · have hmem := (i.lists_problems t outputName position).mem_iff.2 ⟨s, hreported'⟩
    rw [h] at hmem
    cases hmem
  · exact huncarried

end Declared.Interface

/-! ## Code for both transports -/

/-- Two functions take the same parameters under the same name.  The second one may have a note of
the platform level that it needs. -/
structure FunctionCode.SharesSignature (f g : FunctionCode) : Prop where
  name : f.name = g.name
  params : f.params = g.params
  result : f.result = g.result
  plain : f.attributes = []
  level : g.attributes = [] ∨
    ∃ level : Nat, g.attributes = codeDoc ("Requires platform level " ++ toString level ++ ".")

/-- The codes of an interface for calls in the same process and across processes look the same: they
implement the same trait and announce the same constants, and each method has the same signature in
the proxies and the same number in the dispatchers. -/
structure Declared.Interface.SharedBy (i : Interface) (runtime : PathExpr) (near far : Generated) :
    Prop where
  trait : near.emission.trait = far.emission.trait
  constants : near.emission.constants = far.emission.constants
  parts : ∃ parts parts' : Halves, parts.PartsOf near ∧ parts'.PartsOf far ∧
    parts.Match runtime .sameProcess i ∧ parts'.Match runtime .crossProcess i ∧
    List.Forall₂ FunctionCode.SharesSignature parts.methods parts'.methods ∧
    parts.arms.map ArmCode.pattern = parts'.arms.map ArmCode.pattern

/-- Two codes of the same method, of which the first is for calls in the same process. -/
structure MethodCode.Twin (near far : MethodCode) : Prop where
  id : near.id = far.id
  name : near.name = far.name
  word : near.word = far.word
  params (f : String → TypeExpr → List Token) :
    (near.params.flatMap fun p => f p.word p.type) = far.params.flatMap fun p => f p.word p.type
  level : near.minLevel = none

namespace MethodCode

variable {runtime : PathExpr} {id : UInt32} {m : Declared.Method}

theorem named_of_code? {p : MethodPlan} {c : MethodCode} (h : p.code? runtime = some c) :
    c.name = p.name ∧ c.minLevel = p.minLevel? := by
  simp only [MethodPlan.code?, Option.bind_eq_bind, Option.bind_eq_some_iff, Option.pure_def,
    Option.some.injEq] at h
  obtain ⟨word, -, params, -, rfl⟩ := h
  exact ⟨rfl, rfl⟩

/-- Without categories no platform level is needed. -/
theorem minLevel?_eq_none {p : MethodPlan} (h : p.Follows .sameProcess id m) :
    p.minLevel? = none := by
  have hparams := h.params
  have hnone : (p.params.filterMap fun q => q.category.bind Category.minLevel?) = [] := by
    generalize m.params = params, p.params = planned at hparams ⊢
    induction hparams with
    | nil => rfl
    | cons hq _ ih => rw [List.filterMap_cons_none (by rw [hq.2]; rfl), ih]
  rw [MethodPlan.minLevel?, hnone]
  rfl

theorem Of.words_eq {t t' : Transport} {c c' : MethodCode} (h : c.Of runtime t id m)
    (h' : c'.Of runtime t' id m) : c.words = c'.words := by
  refine List.right_unique_forall₂' ?_ h.words h'.words
  intro p word word' hword hword'
  exact Option.some.inj (hword.symm.trans hword')

theorem twin_of_plans {p p' : MethodPlan} {near far : MethodCode}
    (hp : p.Follows .sameProcess id m) (hnear : p.code? runtime = some near)
    (hp' : p'.Follows .crossProcess id m) (hfar : p'.code? runtime = some far) :
    near.Twin far := by
  have hof := MethodPlan.of_code? hp hnear
  have hof' := MethodPlan.of_code? hp' hfar
  obtain ⟨hname, hlevel⟩ := named_of_code? hnear
  obtain ⟨hname', -⟩ := named_of_code? hfar
  exact {
    id := hof.id.trans hof'.id.symm
    name := by rw [hname, hname', hp.name, hp'.name]
    word := Option.some.inj (hof.word.symm.trans hof'.word)
    params := fun f => by rw [hof.flatMap_params, hof'.flatMap_params, hof.words_eq hof']
    level := hlevel.trans (minLevel?_eq_none hp) }

end MethodCode

namespace MethodCode.Twin

variable {near far : MethodCode} (h : near.Twin far) (e e' : Emission)

include h

theorem sharesSignature : (e.methodFunction near).SharesSignature (e'.methodFunction far) := by
  refine ⟨h.word, ?_, rfl, ?_, ?_⟩
  · exact congrArg (code "& self" ++ ·) (h.params fun word type =>
      code "," ++ codeWord word ++ code ":" ++ type.tokens)
  · rw [Emission.methodFunction, h.level]
  · rw [Emission.methodFunction]
    cases far.minLevel with
    | none => exact .inl rfl
    | some level => exact .inr ⟨level, rfl⟩

theorem idConstant_eq : Emission.idConstant near = Emission.idConstant far := by
  rw [Emission.idConstant, Emission.idConstant, h.id, h.name]

theorem pattern_eq : (e.armCode near).pattern = (e'.armCode far).pattern :=
  congrArg codeId h.id

end MethodCode.Twin

theorem Emission.constants_eq {e e' : Emission} (hinterface : e.interface = e'.interface)
    (hlastId : e.lastId = e'.lastId)
    (hmethods : List.Forall₂ MethodCode.Twin e.methods e'.methods) :
    e.constants = e'.constants := by
  have hids := map_eq_map_of_forall₂ hmethods fun _ _ h => h.idConstant_eq
  rw [constants, constants, hinterface, hlastId, List.flatMap_def, List.flatMap_def, hids]

/-! ## Declarations for both transports -/

namespace Declaration

variable {runtime : PathExpr} {d : Declaration} {i : Declared.Interface}

section

variable {o : Generated} (hcontent : d.content = .interface i)
  (h : d.generate runtime = .accepted o)

include hcontent h

/-- What the emission for an accepted interface has from its declaration. -/
theorem emission_of_accepted :
    o.emission.runtime = runtime ∧ o.emission.transport = d.transport ∧
      o.emission.interface = i.name ∧ o.emission.lastId = (Registry.ofInterface i).lastId ∧
      Source.readName i.name = .ok o.emission.trait := by
  obtain ⟨-, hemit⟩ := accepted_of_generate hcontent h
  obtain ⟨trait, proxy, methods, htrait, -, -, rfl⟩ := Declared.Interface.emit?_eq_some.1 hemit
  exact ⟨rfl, rfl, rfl, rfl, htrait⟩

theorem match_of_accepted : o.emission.halves.Match runtime d.transport i := by
  obtain ⟨hruntime, htransport, -⟩ := emission_of_accepted hcontent h
  have hcodes := codes_of_accepted hcontent h
  rw [← hruntime, ← htransport] at hcodes ⊢
  exact Emission.match_of hcodes

end

/-- The same declaration with its calls taking some way. -/
def via (d : Declaration) (t : Transport) : Declaration := { d with transport := t }

section

variable {near far : Generated} (hcontent : d.content = .interface i)
  (hnear : (d.via .sameProcess).generate runtime = .accepted near)
  (hfar : (d.via .crossProcess).generate runtime = .accepted far)

include hcontent hnear hfar

theorem twins_of_accepted :
    List.Forall₂ MethodCode.Twin near.emission.methods far.emission.methods := by
  have hplans := plans_of_accepted (d := d.via .sameProcess) hcontent hnear
  have hplans' := plans_of_accepted (d := d.via .crossProcess) hcontent hfar
  refine (forall₂_comp hplans.flip hplans').imp ?_
  rintro c c' ⟨⟨id, m⟩, ⟨p, hp, hc⟩, p', hp', hc'⟩
  exact MethodCode.twin_of_plans hp hc hp' hc'

theorem shared_of_accepted : i.SharedBy runtime near far := by
  have htwins := twins_of_accepted hcontent hnear hfar
  have hmatch := match_of_accepted (d := d.via .sameProcess) hcontent hnear
  have hmatch' := match_of_accepted (d := d.via .crossProcess) hcontent hfar
  obtain ⟨-, -, hinterface, hlastId, htrait⟩ :=
    emission_of_accepted (d := d.via .sameProcess) hcontent hnear
  obtain ⟨-, -, hinterface', hlastId', htrait'⟩ :=
    emission_of_accepted (d := d.via .crossProcess) hcontent hfar
  refine ⟨Except.ok.inj (htrait.symm.trans htrait'), ?_, near.emission.halves,
    far.emission.halves, Emission.partsOf near, Emission.partsOf far, hmatch, hmatch', ?_, ?_⟩
  · exact Emission.constants_eq (hinterface.trans hinterface'.symm)
      (hlastId.trans hlastId'.symm) htwins
  · rw [Emission.halves, Emission.halves, List.forall₂_map_left_iff, List.forall₂_map_right_iff]
    exact htwins.imp fun _ _ h => h.sharesSignature _ _
  · rw [Emission.halves, Emission.halves, List.map_map, List.map_map]
    exact map_eq_map_of_forall₂ htwins fun _ _ h => h.pattern_eq _ _

end

theorem spellable_via {t t' : Transport} {o : Generated} (hcontent : d.content = .interface i)
    (h : (d.via t).generate runtime = .accepted o) : (d.via t').Spellable := by
  intro i' hcontent'
  cases hcontent.symm.trans hcontent'
  exact spellable_of_accepted (d := d.via t) hcontent h

/-- An interface that is accepted for calls across processes is accepted for calls in the same
process, and the code for both looks the same from outside.  One that is accepted for the second
only has reports for the first, all of them of parameters that have no category. -/
theorem surfaces_agree (runtime : PathExpr) {d : Declaration} {i : Declared.Interface}
    (hcontent : d.content = .interface i) :
    (∀ far, (d.via .crossProcess).generate runtime = .accepted far →
      ∃ near, (d.via .sameProcess).generate runtime = .accepted near ∧
        i.SharedBy runtime near far) ∧
    ∀ near, (d.via .sameProcess).generate runtime = .accepted near →
      (∀ far, (d.via .crossProcess).generate runtime ≠ .accepted far) →
        ∃ reports, (d.via .crossProcess).generate runtime = .rejected reports ∧ reports ≠ [] ∧
          ∀ report ∈ reports, i.Uncarried report := by
  constructor
  · intro far hfar
    obtain ⟨hproblems, -⟩ := accepted_of_generate (d := d.via .crossProcess) hcontent hfar
    have hnone : i.problems .sameProcess d.outputName d.position = [] := by
      refine List.eq_nil_iff_forall_not_mem.2 fun report hreport => ?_
      cases (Declared.Interface.uncarried_of_no_problems hproblems hreport).1
    have hunreported : (d.via .sameProcess).Unreported := ⟨i, hcontent, hnone⟩
    obtain ⟨near, hnear⟩ := exists_accepted runtime hunreported (spellable_via hcontent hfar)
    exact ⟨near, hnear, shared_of_accepted hcontent hnear hfar⟩
  · intro near hnear hrejected
    obtain ⟨hproblems, -⟩ := accepted_of_generate (d := d.via .sameProcess) hcontent hnear
    have hsome : i.problems .crossProcess d.outputName d.position ≠ [] := by
      intro hnone
      have hunreported : (d.via .crossProcess).Unreported := ⟨i, hcontent, hnone⟩
      obtain ⟨far, hfar⟩ := exists_accepted runtime hunreported (spellable_via hcontent hnear)
      exact hrejected far hfar
    refine ⟨_, generate_of_problems (d := d.via .crossProcess) hcontent hsome, hsome, ?_⟩
    intro report hreport
    exact (Declared.Interface.uncarried_of_no_problems hproblems hreport).2

end Declaration

namespace Sample

/-- An interface with parameters that have no category, one of them for want of an element type. -/
def atlas : Declared.Interface where
  name := "Atlas"
  visibility := .everyone
  methods := [
    ⟨"open", [⟨"legend", .map [], none, none, none⟩, ⟨"scale", .scalar .int, none, none, none⟩],
      none, none, none⟩,
    ⟨"turn", [⟨"pages", .list [], none, none, none⟩], none, none, none⟩]
  isGeneric := false
  otherItems := []
  position := none

end Sample

open Sample in
/-- One interface that is accepted for both transports, and one that is accepted for one of them. -/
theorem Declaration.surfaces_agree_atlas :
    (∃ near far,
      (ofInterface beacon .sameProcess).generate defaultRuntime = .accepted near ∧
      (ofInterface beacon .crossProcess).generate defaultRuntime = .accepted far ∧
      beacon.SharedBy defaultRuntime near far) ∧
    ∃ reports, (ofInterface atlas .crossProcess).generate defaultRuntime = .rejected reports ∧
      reports.map (fun d => d.cause.kind) = [.unsupportedParameterType, .unknownGenericArgument] ∧
      ∀ report ∈ reports, atlas.Uncarried report := by
  have haccepted {d : Declaration}
      (h : (d.generate defaultRuntime).output?.isSome = true) :
      ∃ o, d.generate defaultRuntime = .accepted o := by
    cases hd : d.generate defaultRuntime with
    | accepted o => exact ⟨o, rfl⟩
    | _ =>
      rw [hd] at h
      cases h
  constructor
  · obtain ⟨far, hfar⟩ := haccepted (d := ofInterface beacon .crossProcess) (by decide +kernel)
    obtain ⟨hsurface, -⟩ :=
      surfaces_agree defaultRuntime (d := ofInterface beacon .crossProcess) (i := beacon) rfl
    obtain ⟨near, hnear, hshared⟩ := hsurface far hfar
    exact ⟨near, far, hnear, hfar, hshared⟩
  · obtain ⟨near, hnear⟩ := haccepted (d := ofInterface atlas .sameProcess) (by decide +kernel)
    obtain ⟨-, hsurface⟩ :=
      surfaces_agree defaultRuntime (d := ofInterface atlas .sameProcess) (i := atlas) rfl
    have hkinds : ((ofInterface atlas .crossProcess).generate defaultRuntime).diagnostics.map
        (fun d => d.cause.kind) = [.unsupportedParameterType, .unknownGenericArgument] := by
      decide +kernel
    obtain ⟨reports, hreports, -, huncarried⟩ := hsurface near hnear fun far hfar => by
      change (ofInterface atlas .crossProcess).generate defaultRuntime = .accepted far at hfar
      rw [hfar] at hkinds
      cases hkinds
    refine ⟨reports, hreports, ?_, huncarried⟩
    change (ofInterface atlas .crossProcess).generate defaultRuntime = .rejected reports at hreports
    rw [hreports] at hkinds
    exact hkinds

end Relay
