import Mathlib.Data.List.Nodup
import Mathlib.Data.Option.Basic
import Relay.Proofs.Generator.Endings

/-!
# Names of parameters

A parameter without a name is named after its place, and nobody looks whether another parameter is
called like that.  So names that are given apart stay apart in lowering unless a given name is the
one that is made for some place, and then there are two parameters of one name.  Emitted code keeps
it that way: a name can be found again in the word that binds the parameter, and it is the key under
which the argument travels.
-/

namespace Relay

/-! ## Words of names -/

/-- A name of one word stands in code as the word, with `r#` in front or without. -/
theorem plainName_identifier? {name word : String} (hname : isWord name.toList = true)
    (h : identifier? name = some word) : plainName word = name := by
  unfold identifier? at h
  split at h
  · next hread =>
    cases h
    rw [(Source.readName_word hname hread).1, Source.plainName_of_word hname]
  · split at h
    · cases h
      exact Source.plainName_raw name
    · cases h

/-! ## Names of a signature -/

namespace Source

theorem placeholder_injective : Function.Injective placeholder := by
  intro i j h
  have hdigits : Nat.toDigits 10 i = Nat.toDigits 10 j := by
    simpa [placeholder, ← String.toList_inj, String.toList_append, Nat.toList_repr] using h
  have hvalue (n : Nat) : Nat.ofDigitChars 10 (Nat.toDigits 10 n) 0 = n :=
    Nat.ofDigitChars_toDigits (by decide) (by decide)
  rw [← hvalue i, hdigits, hvalue j]

namespace Param

variable {p : Param} {index : Nat}

/-- The name that a parameter is given, without its `r#`. -/
def given? (p : Param) : Option String := p.name.map plainName

theorem loweredName_of_given {name : String} (h : p.given? = some name) :
    p.loweredName index = name := by
  obtain ⟨written, hwritten, rfl⟩ := Option.map_eq_some_iff.1 h
  rw [loweredName, hwritten]

theorem loweredName_of_none (h : p.given? = none) : p.loweredName index = placeholder index := by
  rw [loweredName, Option.map_eq_none_iff.1 h]

end Param

namespace Signature

variable {s : Signature}

/-- The names that parameters have after lowering. -/
def loweredNames (s : Signature) : List String :=
  s.params.mapIdx fun index p => p.loweredName index

/-- The names that parameters are given are different. -/
def GivenApart (s : Signature) : Prop := (s.params.filterMap Param.given?).Nodup

/-- A parameter is called what is made up for another one, which has no name. -/
def Clashes (s : Signature) : Prop :=
  ∃ (i j : Nat) (p q : Param), s.params[i]? = some p ∧ p.given? = none ∧
    s.params[j]? = some q ∧ q.given? = some (placeholder i)

theorem map_name_lower (s : Signature) (known : KnownTypes) :
    (s.lower known).params.map Declared.Param.name = s.loweredNames := by
  rw [lower, loweredNames, List.mapIdx_eq_zipIdx_map, List.mapIdx_eq_zipIdx_map, List.map_map]
  rfl

theorem getElem?_loweredNames {index : Nat} {p : Param} (h : s.params[index]? = some p) :
    s.loweredNames[index]? = some (p.loweredName index) := by
  rw [loweredNames, List.getElem?_mapIdx, h, Option.map_some]

theorem not_nodup_of_clashes (h : s.Clashes) : ¬ s.loweredNames.Nodup := by
  obtain ⟨i, j, p, q, hp, hnone, hq, hname⟩ := h
  have hp' := getElem?_loweredNames hp
  have hq' := getElem?_loweredNames hq
  rw [Param.loweredName_of_none hnone] at hp'
  rw [Param.loweredName_of_given hname] at hq'
  intro hnodup
  obtain rfl := (List.getElem?_inj (List.getElem?_eq_some_iff.1 hp').1 hnodup).1
    (hp'.trans hq'.symm)
  obtain rfl := Option.some.inj (hp.symm.trans hq)
  cases hnone.symm.trans hname

theorem nodup_of_not_clashes (hgiven : s.GivenApart) (h : ¬ s.Clashes) :
    s.loweredNames.Nodup := by
  rw [GivenApart, List.Nodup, List.pairwise_filterMap, List.pairwise_iff_getElem] at hgiven
  rw [List.Nodup, List.pairwise_iff_getElem]
  simp only [loweredNames, List.length_mapIdx, List.getElem_mapIdx]
  intro i j hi hj hij heq
  have hp := List.getElem?_eq_getElem hi
  have hq := List.getElem?_eq_getElem hj
  have happart := hgiven i j hi hj hij
  generalize s.params[i] = p, s.params[j] = q at *
  cases hpname : p.given? with
  | none =>
    rw [Param.loweredName_of_none hpname] at heq
    cases hqname : q.given? with
    | none =>
      rw [Param.loweredName_of_none hqname] at heq
      exact hij.ne (placeholder_injective heq)
    | some name =>
      rw [Param.loweredName_of_given hqname] at heq
      exact h ⟨i, j, p, q, hp, hpname, hq, heq ▸ hqname⟩
  | some name =>
    rw [Param.loweredName_of_given hpname] at heq
    cases hqname : q.given? with
    | none =>
      rw [Param.loweredName_of_none hqname] at heq
      exact h ⟨j, i, q, p, hq, hqname, hp, heq ▸ hpname⟩
    | some name' =>
      rw [Param.loweredName_of_given hqname] at heq
      exact happart name hpname name' hqname heq

theorem nodup_loweredNames_iff (h : s.GivenApart) : s.loweredNames.Nodup ↔ ¬ s.Clashes :=
  ⟨fun hnodup hclashes => not_nodup_of_clashes hclashes hnodup, nodup_of_not_clashes h⟩

end Signature

end Source

/-! ## Names in emitted code -/

namespace MethodCode.Of

variable {runtime : PathExpr} {t : Transport} {id : UInt32} {m : Declared.Method} {c : MethodCode}

theorem nodup_words_iff (h : c.Of runtime t id m)
    (hnames : ∀ p ∈ m.params, isWord p.name.toList = true) :
    c.words.Nodup ↔ (m.params.map Declared.Param.name).Nodup := by
  have hplain : m.params.map Declared.Param.name = c.words.map plainName :=
    map_eq_map_of_forall₂ ((List.forall₂_and_left _ _).2 ⟨hnames, h.words⟩)
      fun p word hword => (plainName_identifier? hword.1 hword.2).symm
  have hspelled : (m.params.map Declared.Param.name).map identifier? = c.words.map some := by
    rw [List.map_map]
    exact map_eq_map_of_forall₂ h.words fun _ _ hword => hword
  constructor
  · intro hnodup
    have hsome := hnodup.map (Option.some_injective String)
    rw [← hspelled] at hsome
    exact List.Nodup.of_map identifier? hsome
  · intro hnodup
    rw [hplain] at hnodup
    exact List.Nodup.of_map plainName hnodup

theorem keys_writes (h : c.Of runtime .crossProcess id m) :
    c.writes.map Write.key = m.params.map Declared.Param.name := by
  rw [← List.zipIdx_map_fst 0 m.params, List.map_map]
  refine (map_eq_map_of_forall₂ h.writes ?_).symm
  rintro ⟨p, index⟩ w ⟨category, -, rfl⟩
  rfl

theorem keys_reads (h : c.Of runtime .crossProcess id m) :
    c.reads.map Read.key = m.params.map Declared.Param.name := by
  refine (map_eq_map_of_forall₂ h.reads ?_).symm
  rintro p r ⟨category, -, rfl⟩
  rfl

end MethodCode.Of

namespace Source

variable {runtime : PathExpr} {known : KnownTypes} {transport : Transport} {item : Item}

theorem Param.isWord_loweredName {p : Param} (h : ∀ name ∈ p.name, Written name) (index : Nat) :
    isWord (p.loweredName index).toList = true := by
  unfold loweredName
  cases hname : p.name with
  | none => exact isWord_placeholder index
  | some name => exact (h name hname).isWord

theorem Signature.isWord_lower {s : Signature} (h : ∀ name ∈ s.names, Written name) :
    ∀ p ∈ (s.lower known).params, isWord p.name.toList = true := by
  rw [forall_mem_names] at h
  intro p hp
  obtain ⟨index, hindex, rfl⟩ := List.mem_mapIdx.1 hp
  exact Param.isWord_loweredName (h.2 _ (List.getElem_mem hindex)) index

/-- The code of an accepted item has one part for each of its methods. -/
theorem Item.codes_of_accepted {o : Generated}
    (h : (item.lower known transport).generate runtime = .accepted o) :
    List.Forall₂ (fun s c => ∃ id, MethodCode.Of runtime transport id (s.lower known) c)
      item.signatures o.emission.methods := by
  obtain ⟨i, hcontent, hmethods⟩ := Item.interface_of_accepted h
  have hcodes : List.Forall₂ (fun m c => ∃ id, MethodCode.Of runtime transport id m c)
      i.methods o.emission.methods := by
    rw [← i.map_snd_numbered, List.forall₂_map_left_iff, ← item.transport_lower known transport]
    exact (Declaration.codes_of_accepted hcontent h).imp fun numbered c hc => ⟨numbered.1, hc⟩
  rw [hmethods, List.forall₂_map_left_iff] at hcodes
  exact hcodes

end Source

/-- Lowering gives the parameters of a method different names unless one is called what is made up
for another.  So it is with the words that bind the parameters in emitted code, and with the keys
under which the arguments are written and read. -/
theorem Source.Signature.nodup_iff {s : Signature} (h : s.GivenApart) (runtime : PathExpr)
    (known : KnownTypes) (transport : Transport) :
    (((s.lower known).params.map Declared.Param.name).Nodup ↔ ¬ s.Clashes) ∧
    ∀ (item : Item) (o : Generated) (k : Nat),
      (∀ name ∈ item.names, Written name) → item.signatures[k]? = some s →
      (item.lower known transport).generate runtime = .accepted o →
        ∃ c, o.emission.methods[k]? = some c ∧ (c.words.Nodup ↔ ¬ s.Clashes) ∧
          (transport = .crossProcess →
            ((c.writes.map Write.key).Nodup ↔ ¬ s.Clashes) ∧
            ((c.reads.map Read.key).Nodup ↔ ¬ s.Clashes)) := by
  rw [s.map_name_lower known, nodup_loweredNames_iff h]
  refine ⟨Iff.rfl, fun item o k hwritten hs haccepted => ?_⟩
  obtain ⟨c, hc, id, hcode⟩ : ∃ c, o.emission.methods[k]? = some c ∧
      ∃ id, MethodCode.Of runtime transport id (s.lower known) c :=
    exists_getElem?_of_forall₂ (Item.codes_of_accepted haccepted) hs
  have hnames : ∀ name ∈ s.names, Written name := fun name hname =>
    hwritten name (List.mem_flatMap.2 ⟨s, List.mem_of_getElem? hs, hname⟩)
  have hwords := hcode.nodup_words_iff (isWord_lower hnames)
  rw [s.map_name_lower known, nodup_loweredNames_iff h] at hwords
  refine ⟨c, hc, hwords, ?_⟩
  rintro rfl
  rw [hcode.keys_writes, hcode.keys_reads, s.map_name_lower known, nodup_loweredNames_iff h]
  exact ⟨Iff.rfl, Iff.rfl⟩

namespace Sample

/-- A trait with one method that takes two numbers, whose patterns may be no names. -/
def pairing (first second : Option String) : Source.Item where
  content := .trait ⟨⟨"Pair", none⟩, .inherited, false, [.method ⟨⟨"set", none⟩, false, false, false,
    some ⟨true, false⟩, [⟨first, .path (.ofNames false ["i32"]), none⟩,
      ⟨second, .path (.ofNames false ["i32"]), none⟩], none⟩]⟩
  position := none

end Sample

namespace Source.Signature

open Sample

theorem nodup_iff_pairing : ∃ (s : Signature) (o : Generated) (c : MethodCode),
    (pairing none (some "arg0")).signatures[0]? = some s ∧ s.GivenApart ∧
      s.loweredNames = ["__arg0", "arg0"] ∧
      ((pairing none (some "arg0")).lower .none .crossProcess).generate
        Declaration.defaultRuntime = .accepted o ∧
      o.emission.methods[0]? = some c ∧ c.words.Nodup ∧ (c.writes.map Write.key).Nodup := by
  have haccepted : (((pairing none (some "arg0")).lower .none .crossProcess).generate
      Declaration.defaultRuntime).output?.isSome = true := by
    decide +kernel
  have hwritten : ∀ name ∈ (pairing none (some "arg0")).names, Written name := by
    have hwords : ∀ name ∈ ["set", "arg0"], isWord name.toList = true := by decide
    exact fun name hname => .plain (hwords name hname)
  obtain ⟨o, ho⟩ := Option.isSome_iff_exists.1 haccepted
  rw [Generation.output?_eq_some] at ho
  obtain ⟨s, hs⟩ : ∃ s, (pairing none (some "arg0")).signatures = [s] := ⟨_, rfl⟩
  have happart : s.GivenApart := by
    cases hs
    exact List.nodup_singleton _
  have hlowered : s.loweredNames = ["__arg0", "arg0"] := by
    cases hs
    rfl
  obtain ⟨hnames, hcodes⟩ := nodup_iff happart Declaration.defaultRuntime .none .crossProcess
  have hclear : ¬ s.Clashes := by
    rw [← hnames, s.map_name_lower, hlowered]
    decide
  have hs0 : (pairing none (some "arg0")).signatures[0]? = some s := by rw [hs]; rfl
  obtain ⟨c, hc, hwords, hkeys⟩ := hcodes _ o 0 hwritten hs0 ho
  exact ⟨s, o, c, hs0, happart, hlowered, ho, hc, hwords.2 hclear, (hkeys rfl).1.2 hclear⟩

/-- Names that are given apart become the same name. -/
theorem clashes_pairing : ∃ s : Signature, (pairing (some "__arg1") none).signatures = [s] ∧
    s.GivenApart ∧ (s.lower .none).params.map Declared.Param.name = ["__arg1", "__arg1"] ∧
      ¬ ((s.lower .none).params.map Declared.Param.name).Nodup := by
  obtain ⟨s, hs⟩ : ∃ s, (pairing (some "__arg1") none).signatures = [s] := ⟨_, rfl⟩
  have hlowered : (s.lower .none).params.map Declared.Param.name = ["__arg1", "__arg1"] := by
    cases hs
    rfl
  refine ⟨s, hs, ?_, hlowered, ?_⟩
  · cases hs
    exact List.nodup_singleton _
  · rw [hlowered]
    decide

end Source.Signature

end Relay
