import Relay.Interface.Lowering
import Relay.Proofs.Generator.Halves
import Relay.Proofs.Source.PlainWords

/-!
# How generation ends

Generation gives code or at least one report, unless emission is reached and a name of a method or
parameter cannot stand in code.  By hand any text can be declared as a name.  The names of an item
are words, and of all words only five cannot stand in code: those that have no raw form.  In source
text one of them can be the name of a parameter, as in the pattern `ref self`.
-/

namespace Relay

/-! ## Names that cannot stand in code -/

theorem not_spellable_iff {name : String} : ¬ Spellable name ↔
    (∀ word, Source.readName name ≠ .ok word) ∧
      (isWord name.toList = false ∨ name ∈ unescapableWords) := by
  unfold Spellable identifier?
  cases Source.readName name with
  | ok word => simp
  | error fault =>
    by_cases hword : isWord name.toList = true
    · by_cases hescape : name ∈ unescapableWords <;> simp [hword, hescape]
    · simp [hword]

theorem MethodCode.Of.spellable {runtime : PathExpr} {t : Transport} {id : UInt32}
    {m : Declared.Method} {c : MethodCode} (h : c.Of runtime t id m) : m.Spellable := by
  have hparams := h.params.imp (S := fun p q => Spellable p.name ∧ ParamCode.Of runtime t p q)
    fun p q hq => ⟨Option.isSome_iff_exists.2 ⟨_, hq.word⟩, hq⟩
  exact ⟨Option.isSome_iff_exists.2 ⟨_, h.word⟩, ((List.forall₂_and_left _ _).1 hparams).1⟩

theorem Declared.Interface.map_snd_numbered (i : Interface) :
    i.numbered.map Prod.snd = i.methods := by
  apply List.ext_getElem?
  intro k
  rw [List.getElem?_map, getElem?_numbered, Option.map_map]
  exact Option.map_id'

namespace Declaration

variable {runtime : PathExpr} {d : Declaration}

theorem spellable_of_accepted {i : Declared.Interface} {o : Generated}
    (hcontent : d.content = .interface i) (h : d.generate runtime = .accepted o) :
    ∀ m ∈ i.methods, m.Spellable := by
  have hcodes := (codes_of_accepted hcontent h).imp
    (S := fun (e : UInt32 × Declared.Method) c =>
      e.2.Spellable ∧ MethodCode.Of runtime d.transport e.1 e.2 c)
    fun _ _ hc => ⟨hc.spellable, hc⟩
  rw [← i.map_snd_numbered, List.forall_mem_map]
  exact ((List.forall₂_and_left _ _).1 hcodes).1

/-- An interface with which nothing is wrong before its code is made. -/
def Unreported (d : Declaration) : Prop :=
  ∃ i, d.content = .interface i ∧ i.problems d.transport d.outputName d.position = []

/-- Nothing is wrong with what was declared but the name of a method or parameter, and that is not
looked at before the code is made. -/
def Misnamed (d : Declaration) : Prop := d.Unreported ∧ ¬ d.Spellable

theorem generate_of_unreported (runtime : PathExpr) (h : d.Unreported) :
    (∃ o, d.generate runtime = .accepted o) ∨ d.generate runtime = .unspeakable := by
  obtain ⟨i, hcontent, hproblems⟩ := h
  unfold generate
  rw [hcontent]
  dsimp only
  rw [hproblems]
  cases i.emit? d.transport d.outputName runtime with
  | some output => exact .inl ⟨output, rfl⟩
  | none => exact .inr rfl

theorem exists_report (runtime : PathExpr) (h : ¬ d.Unreported) :
    ∃ report reports, d.generate runtime = .rejected (report :: reports) := by
  cases hcontent : d.content with
  | other kind =>
    unfold generate
    rw [hcontent]
    exact ⟨_, _, rfl⟩
  | interface i =>
    have hproblems : i.problems d.transport d.outputName d.position ≠ [] := by
      intro hnone
      exact h ⟨i, hcontent, hnone⟩
    obtain ⟨report, reports, hreports⟩ := List.exists_cons_of_ne_nil hproblems
    exact ⟨report, reports, by rw [generate_of_problems hcontent hproblems, hreports]⟩

theorem exists_accepted (runtime : PathExpr) (h : d.Unreported) (hnames : d.Spellable) :
    ∃ o, d.generate runtime = .accepted o := by
  obtain ⟨i, hcontent, hproblems⟩ := h
  obtain ⟨o, ho, -⟩ := exists_generate hcontent (hnames i hcontent) hproblems
  exact ⟨o, ho⟩

theorem generate_of_misnamed (runtime : PathExpr) (h : d.Misnamed) :
    d.generate runtime = .unspeakable := by
  rcases generate_of_unreported runtime h.1 with ⟨o, ho⟩ | hnone
  · exact absurd (fun i hcontent => spellable_of_accepted hcontent ho) h.2
  · exact hnone

theorem generate_cases (runtime : PathExpr) (d : Declaration) :
    ((∃ o, d.generate runtime = .accepted o) ∨
      ∃ report reports, d.generate runtime = .rejected (report :: reports)) ∧ ¬ d.Misnamed ∨
    d.generate runtime = .unspeakable ∧ d.Misnamed := by
  by_cases hproblems : d.Unreported
  · by_cases hnames : d.Spellable
    · exact .inl ⟨.inl (exists_accepted runtime hproblems hnames), fun h => h.2 hnames⟩
    · exact .inr ⟨generate_of_misnamed runtime ⟨hproblems, hnames⟩, hproblems, hnames⟩
  · exact .inl ⟨.inr (exists_report runtime hproblems), fun h => hproblems h.1⟩

end Declaration

/-! ## Names of items -/

theorem isWord_append {cs ds : List Char} (hcs : isWord cs = true)
    (hds : ds.all continuesWord = true) : isWord (cs ++ ds) = true := by
  cases cs with
  | nil => cases hcs
  | cons c rest =>
    rw [isWord, Bool.and_eq_true] at hcs
    rw [List.cons_append, isWord, List.all_append, hcs.1, hcs.2, hds]
    rfl

/-- Of all words, those cannot stand in code that have no raw form. -/
theorem spellable_word_iff {word : String} (hword : isWord word.toList = true) :
    Spellable word ↔ word ∉ unescapableWords := by
  have hreserved : ∀ word ∈ unescapableWords, isName word = false := by decide
  refine ⟨fun hspellable hescape => ?_, spellable_of_word hword⟩
  refine not_spellable_iff.2 ⟨fun name hname => ?_, .inr hescape⟩ hspellable
  have hisName := (Source.readName_word hword hname).2
  rw [hreserved word hescape] at hisName
  cases hisName

namespace Source

theorem continuesWord_of_isDigit {c : Char} (h : c.isDigit = true) : continuesWord c = true := by
  have hdigits : ∀ n < 58, 48 ≤ n → Text.inRanges n Text.identifierRest = true := by
    decide
  have hbounds : 48 ≤ c.toNat ∧ c.toNat ≤ 57 := by
    simpa [Char.isDigit, UInt32.le_iff_toNat_le] using h
  rw [continuesWord, hdigits c.toNat (by omega) hbounds.1, Bool.or_true]

theorem isWord_placeholder (index : Nat) : Relay.isWord (placeholder index).toList = true := by
  have hdigits : (toString index).toList.all continuesWord = true := by
    rw [List.all_eq_true, Nat.toString_eq_repr, Nat.toList_repr]
    intro c hc
    exact continuesWord_of_isDigit (Nat.isDigit_of_mem_toDigits (by decide) (by decide) hc)
  rw [placeholder, String.toList_append]
  have hfront : isWord "__arg".toList = true := by rfl
  exact isWord_append hfront hdigits

theorem spellable_placeholder (index : Nat) : Spellable (placeholder index) := by
  have hfront : ∀ word ∈ unescapableWords, word.toList.take 5 ≠ "__arg".toList := by decide
  refine spellable_of_word (isWord_placeholder index) fun hescape => hfront _ hescape ?_
  rw [placeholder, String.toList_append]
  rfl

theorem Param.spellable_lower_iff {p : Param} (h : ∀ name ∈ p.name, Written name)
    (known : KnownTypes) (index : Nat) : Spellable (p.lower known index).name ↔
      ∀ name ∈ p.name, plainName name ∉ unescapableWords := by
  change Spellable (p.loweredName index) ↔ _
  unfold Param.loweredName
  cases hname : p.name with
  | none => exact ⟨fun _ => nofun, fun _ => spellable_placeholder index⟩
  | some name =>
    simp only [Option.mem_some_iff, forall_eq']
    exact spellable_word_iff (h name hname).isWord

/-- The names of a method and of those of its parameters that have one. -/
def Signature.names (s : Signature) : List String :=
  s.name.word :: s.params.filterMap Param.name

theorem Signature.forall_mem_names {s : Signature} {P : String → Prop} :
    (∀ name ∈ s.names, P name) ↔ P s.name.word ∧ ∀ p ∈ s.params, ∀ name ∈ p.name, P name := by
  simp only [names, List.forall_mem_cons, List.mem_filterMap]
  exact and_congr_right fun _ => ⟨fun h p hp name hname => h name ⟨p, hp, hname⟩,
    fun h name ⟨p, hp, hname⟩ => h p hp name hname⟩

theorem Signature.spellable_lower_iff {s : Signature} (h : ∀ name ∈ s.names, Written name)
    (known : KnownTypes) : (s.lower known).Spellable ↔
      ∀ name ∈ s.names, plainName name ∉ unescapableWords := by
  rw [forall_mem_names] at h ⊢
  refine and_congr (spellable_word_iff h.1.isWord) ?_
  have hparam (p : Param) (hp : p ∈ s.params) := Param.spellable_lower_iff (h.2 p hp) known
  simp only [Signature.lower, List.forall_mem_iff_getElem, List.length_mapIdx, List.getElem_mapIdx]
  exact forall₂_congr fun index hindex => hparam _ (List.getElem_mem hindex) index

def Member.signature? : Member → Option Signature
  | .method s => some s
  | _ => none

/-- The methods of a trait. -/
def Item.signatures (item : Item) : List Signature :=
  match item.content with
  | .trait t => t.members.filterMap Member.signature?
  | .other _ _ => []

/-- The names of the methods of a trait and of their parameters. -/
def Item.names (item : Item) : List String := item.signatures.flatMap Signature.names

theorem Trait.methods_lower (t : Trait) (known : KnownTypes) : (t.lower known).methods =
    (t.members.filterMap Member.signature?).map (Signature.lower known) := by
  rw [lower, List.map_filterMap]
  refine List.filterMap_congr fun member _ => ?_
  cases member <;> rfl

theorem Item.transport_lower (item : Item) (known : KnownTypes) (transport : Transport) :
    (item.lower known transport).transport = transport := by
  unfold lower
  cases item.content <;> rfl

/-- Only traits have code. -/
theorem Item.interface_of_accepted {item : Item} {known : KnownTypes} {transport : Transport}
    {runtime : PathExpr} {o : Generated}
    (h : (item.lower known transport).generate runtime = .accepted o) :
    ∃ i, (item.lower known transport).content = .interface i ∧
      i.methods = item.signatures.map (Signature.lower known) := by
  unfold lower at h ⊢
  unfold signatures
  cases hcontent : item.content with
  | other kind name =>
    rw [hcontent] at h
    cases h
  | trait t => exact ⟨t.lower known, rfl, t.methods_lower known⟩

theorem Item.spellable_lower_iff {item : Item} (h : ∀ name ∈ item.names, Written name)
    (known : KnownTypes) (transport : Transport) : (item.lower known transport).Spellable ↔
      ∀ name ∈ item.names, plainName name ∉ unescapableWords := by
  rw [Item.names, List.forall_mem_flatMap] at h ⊢
  have hmethods : (item.lower known transport).Spellable ↔
      ∀ s ∈ item.signatures, (s.lower known).Spellable := by
    unfold Item.lower Item.signatures
    cases item.content with
    | other kind name => exact ⟨fun _ => nofun, fun _ => nofun⟩
    | trait t =>
      rw [← List.forall_mem_map (P := Declared.Method.Spellable), ← t.methods_lower known]
      refine ⟨fun hall => hall _ rfl, fun hall i hi => ?_⟩
      cases hi
      exact hall
  rw [hmethods]
  exact forall₂_congr fun s hs => Signature.spellable_lower_iff (h s hs) known

section Read

variable {text : String} {item : Item} (h : readItem text = .ok item)

include h

theorem Item.named_of_readItem : ∀ s ∈ item.signatures, s.Named := by
  have hnamed := Source.named_of_readItem h
  intro s hs
  unfold Item.signatures at hs
  cases hcontent : item.content with
  | other kind name =>
    rw [hcontent] at hs
    cases hs
  | trait t =>
    rw [hcontent] at hs hnamed
    obtain ⟨member, hmember, hmethod⟩ := List.mem_filterMap.1 hs
    cases member with
    | method s' =>
      cases hmethod
      exact hnamed _ hmember
    | _ => cases hmethod

theorem Item.written_of_readItem : ∀ name ∈ item.names, Written name := by
  rw [Item.names, List.forall_mem_flatMap]
  intro s hs
  have hnamed := Item.named_of_readItem h s hs
  rw [Signature.forall_mem_names]
  exact ⟨hnamed.written, fun p hp name hname => (hnamed.params p hp name hname).1⟩

/-- In an item that was read, only a parameter can be called by a word that has no raw form, and
only by `self`. -/
theorem Item.exists_unescapable_iff :
    (∃ name ∈ item.names, plainName name ∈ unescapableWords) ↔
      ∃ s ∈ item.signatures, ∃ p ∈ s.params, p.name = some "self" := by
  constructor
  · rintro ⟨name, hname, hescape⟩
    obtain ⟨s, hs, hname⟩ := List.mem_flatMap.1 hname
    have hnamed := Item.named_of_readItem h s hs
    rcases List.mem_cons.1 hname with rfl | hparam
    · exact absurd hescape (hnamed.written.plainName_not_mem hnamed.isName)
    · obtain ⟨p, hp, hpname⟩ := List.mem_filterMap.1 hparam
      obtain ⟨hwritten, hisName | rfl⟩ := hnamed.params p hp name hpname
      · exact absurd hescape (hwritten.plainName_not_mem hisName)
      · exact ⟨s, hs, p, hp, hpname⟩
  · rintro ⟨s, hs, p, hp, hself⟩
    refine ⟨"self", List.mem_flatMap.2 ⟨s, hs, ?_⟩, by decide⟩
    exact List.mem_cons_of_mem _ (List.mem_filterMap.2 ⟨p, hp, hself⟩)

end Read

end Source

/-- Generation gives code or at least one report, unless the declaration is misnamed.  One that was
lowered from an item is misnamed only by a word that has no raw form, and if the item is read from
text only by a parameter called `self`. -/
theorem Declaration.generate_ends (runtime : PathExpr) :
    (∀ d : Declaration,
      ((∃ o, d.generate runtime = .accepted o) ∨
        ∃ report reports, d.generate runtime = .rejected (report :: reports)) ∧ ¬ d.Misnamed ∨
      d.generate runtime = .unspeakable ∧ d.Misnamed) ∧
    (∀ (item : Source.Item) (known : KnownTypes) (transport : Transport),
      (∀ name ∈ item.names, Source.Written name) →
        ((item.lower known transport).Misnamed ↔ (item.lower known transport).Unreported ∧
          ∃ name ∈ item.names, plainName name ∈ unescapableWords)) ∧
    ∀ (text : String) (item : Source.Item) (known : KnownTypes) (transport : Transport),
      Source.readItem text = .ok item →
        ((item.lower known transport).Misnamed ↔ (item.lower known transport).Unreported ∧
          ∃ s ∈ item.signatures, ∃ p ∈ s.params, p.name = some "self") := by
  have hwritten (item : Source.Item) (known : KnownTypes) (transport : Transport)
      (hitem : ∀ name ∈ item.names, Source.Written name) : (item.lower known transport).Misnamed ↔
        (item.lower known transport).Unreported ∧
          ∃ name ∈ item.names, plainName name ∈ unescapableWords := by
    refine and_congr_right fun _ => ?_
    rw [Source.Item.spellable_lower_iff hitem known transport]
    simp only [not_forall, exists_prop, Decidable.not_not]
  refine ⟨generate_cases runtime, hwritten, fun text item known transport hread => ?_⟩
  rw [hwritten item known transport (Source.Item.written_of_readItem hread),
    Source.Item.exists_unescapable_iff hread]

namespace Sample

/-- An interface with a method whose name is no word. -/
def garbled : Declared.Interface where
  name := "Bad"
  visibility := .inherited
  methods := [⟨"a b", [⟨"x", .text, none, none, none⟩], none, none, none⟩]
  isGeneric := false
  otherItems := []
  position := none

/-- Source text with a parameter that is called `self`. -/
def selfish : String := "trait Bad { fn f(&self, ref self: i32); }"

end Sample

open Sample in
theorem Declaration.generate_garbled :
    (ofInterface garbled .crossProcess).generate defaultRuntime = .unspeakable := by
  have hproblems : (garbled.problems .crossProcess none none).isEmpty = true := by
    decide +kernel
  have hname : (identifier? "a b").isSome = false := by
    decide +kernel
  refine generate_of_misnamed _ ⟨⟨garbled, rfl, List.isEmpty_iff.1 hproblems⟩, fun hnames => ?_⟩
  have hspellable : Relay.Spellable "a b" := (hnames garbled rfl _ List.mem_cons_self).1
  rw [Relay.Spellable, hname] at hspellable
  cases hspellable

open Sample in
/-- An item of source text for which there is neither code nor a report. -/
theorem Declaration.generate_ends_selfish :
    ∃ item, Source.readItem selfish = .ok item ∧
      (item.lower .none .crossProcess).generate defaultRuntime = .unspeakable := by
  have hevaluated : (Source.readItem selfish).toOption.map (fun item =>
      (item.signatures.map fun s => s.params.map Source.Param.name,
        ((item.lower .none .crossProcess).generate defaultRuntime).diagnostics)) =
      some ([[some "self"]], []) := by
    decide +kernel
  cases hread : Source.readItem selfish with
  | error fault =>
    rw [hread] at hevaluated
    cases hevaluated
  | ok item =>
    rw [hread] at hevaluated
    obtain ⟨hnames, hreports⟩ := Prod.mk.inj (Option.some.inj hevaluated)
    have hself : ∃ s ∈ item.signatures, ∃ p ∈ s.params, p.name = some "self" := by
      obtain ⟨s, hs, hparams⟩ := List.mem_map.1 (hnames ▸ List.mem_cons_self)
      obtain ⟨p, hp, hself⟩ := List.mem_map.1 (hparams ▸ List.mem_cons_self)
      exact ⟨s, hs, p, hp, hself⟩
    have hunreported : (item.lower .none .crossProcess).Unreported := by
      by_contra hreported
      obtain ⟨report, reports, hgenerate⟩ := exists_report defaultRuntime hreported
      rw [hgenerate] at hreports
      cases hreports
    obtain ⟨hends, -, hlowered⟩ := generate_ends defaultRuntime
    have hmisnamed : (item.lower .none .crossProcess).Misnamed :=
      (hlowered selfish item .none .crossProcess hread).2 ⟨hunreported, hself⟩
    rcases hends (item.lower .none .crossProcess) with ⟨-, hnot⟩ | ⟨hnone, -⟩
    · exact absurd hmisnamed hnot
    · exact ⟨item, rfl, hnone⟩

end Relay
