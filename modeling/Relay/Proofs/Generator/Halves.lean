import Relay.Proofs.Generator.Emitted
import Relay.Proofs.Generator.Reports

/-!
# Agreement of the two halves

The calling half of emitted code writes the arguments of a method and sends them under a number; the
receiving half finds the method by the number and reads the arguments.  The two are spelled by
different functions.  Here both are read off from the emitted tokens and compared with the
declaration: each method has its number in both, and each parameter has one write and one read, in
the order of declaration and with the same key and category.
-/

namespace Relay

/-! ## What is declared -/

/-- The methods of an interface with their numbers, which count from one. -/
def Declared.Interface.numbered (i : Interface) : List (UInt32 × Method) :=
  (i.methods.zipIdx 1).map fun (m, n) => (UInt32.ofNat n, m)

/-- The numbered methods with parameters. -/
def Declared.Interface.carrying (i : Interface) : List (UInt32 × Method) :=
  i.numbered.filter fun (_, m) => !m.params.isEmpty

/-! ## What is emitted for a method -/

/-- The function writes the arguments of a method into a bundle: each of them once, as a field of
the tuple that it is given, in order, under the name of its parameter and with the accessor of its
category. -/
structure FunctionCode.Marshals (runtime : PathExpr) (id : UInt32) (m : Declared.Method)
    (f : FunctionCode) : Prop where
  name : f.name = "marshal_" ++ toString id.toNat
  params : f.params = code "args :" ++
    (TypeExpr.tuple (m.params.map (Declared.Param.codeType runtime)) true).tokens
  writes : ∃ rest writes, f.body = code "let mut data =" ++
      (runtime.within ["Bundle", "new"]).tokens ++ Token.paren [] ++ code ";" ++ rest ∧
    calls rest = writes ++ [⟨none, "Ok", code "data"⟩] ∧
    List.Forall₂ (fun (p, index) call => ∃ c, p.desc.classify = .transportable c ∧
        call = ⟨some "data", "put_" ++ c.stem, codeString p.name ++ code "," ++
          c.passing.argument (code "args ." ++ codeIndex index)⟩)
      m.params.zipIdx writes

/-- The function makes the arguments of a method from a bundle: a tuple with one read for each of
them, in order, under the name of its parameter and with the accessor of its category. -/
structure FunctionCode.Unmarshals (runtime : PathExpr) (id : UInt32) (m : Declared.Method)
    (f : FunctionCode) : Prop where
  name : f.name = "unmarshal_" ++ toString id.toNat
  params : f.params = code "data : &" ++ (runtime.within ["Bundle"]).tokens
  reads : ∃ reads, f.body = code ":: std :: result :: Result :: Ok" ++
      Token.paren (Token.paren (reads.flatMap fun read => read ++ code ",")) ∧
    List.Forall₂ (fun p read => ∃ c, p.desc.classify = .transportable c ∧
        calls read = [⟨some "data", "get_" ++ c.stem, codeString p.name⟩])
      m.params reads

/-- The function is the method of the proxy: it takes the parameters of the method and sends them
under its number. -/
structure FunctionCode.Sends (runtime : PathExpr) (t : Transport) (id : UInt32)
    (m : Declared.Method) (f : FunctionCode) : Prop where
  name : identifier? m.name = some f.name
  sends : ∃ words, List.Forall₂ (fun p word => identifier? p.name = some word) m.params words ∧
    f.params = code "& self" ++ ((m.params.zip words).flatMap fun (p, word) =>
      code "," ++ codeWord word ++ code ":" ++ (p.codeType runtime).tokens) ∧
    calls f.body = Emission.sending runtime t id words

/-- The arm is taken for the number of the method, reads its arguments if there are any, and calls
the method with all of them in order. -/
structure ArmCode.Receives (t : Transport) (id : UInt32) (m : Declared.Method) (a : ArmCode) :
    Prop where
  pattern : a.pattern = codeId id
  reads : t = .crossProcess → m.params ≠ [] → (calls a.body).head? =
    some ⟨none, "unmarshal_" ++ toString id.toNat, code "envelope . payload" ++ Token.paren []⟩
  calls : ∃ word, identifier? m.name = some word ∧
    calls (firstStatement (a.handler (!m.params.isEmpty))) =
      Emission.passing word m.params.length

/-! ## What is emitted for an interface -/

/-- The parts of emitted code that belong to single methods. -/
structure Halves where
  marshals : List FunctionCode
  methods : List FunctionCode
  unmarshals : List FunctionCode
  arms : List ArmCode

/-- The parts stand in emitted code, and nothing else in it is there for a method but the constants
of the proxy.  The first block is the type of the proxy, the next two are its functions and its
methods, then follow the same for the dispatcher, whose last block has the arms and one more for
all other numbers. -/
structure Halves.PartsOf (h : Halves) (o : Generated) : Prop where
  marshals : (blocks o.tokens)[1]? = some (o.emission.constants ++
    o.emission.withoutMethods.proxyMembers ++ h.marshals.flatMap FunctionCode.tokens)
  methods : (blocks o.tokens)[2]? = some (h.methods.flatMap FunctionCode.tokens)
  unmarshals : (blocks o.tokens)[4]? = some (o.emission.dispatcherFunctions ++
    h.unmarshals.flatMap FunctionCode.tokens)
  arms : lastBlock (lastBlock (lastBlock o.tokens)) = h.arms.flatMap ArmCode.tokens ++
    (code "_ =>" ++ o.emission.library ["Outcome", "unknown"] ++
      Token.paren (codeString o.emission.interface ++ code ", what") ++ code ",")

/-- The parts are those of the methods of an interface, one for one and in order. -/
structure Halves.Match (h : Halves) (runtime : PathExpr) (t : Transport)
    (i : Declared.Interface) : Prop where
  marshals : t = .crossProcess →
    List.Forall₂ (fun (id, m) f => f.Marshals runtime id m) i.carrying h.marshals
  methods : List.Forall₂ (fun (id, m) f => f.Sends runtime t id m) i.numbered h.methods
  unmarshals : t = .crossProcess →
    List.Forall₂ (fun (id, m) f => f.Unmarshals runtime id m) i.carrying h.unmarshals
  arms : List.Forall₂ (fun (id, m) a => a.Receives t id m) i.numbered h.arms

/-! ## From the declaration to the code -/

/-- The code is for a parameter. -/
structure ParamCode.Of (runtime : PathExpr) (t : Transport) (p : Declared.Param) (q : ParamCode) :
    Prop where
  key : q.key = p.name
  word : identifier? p.name = some q.word
  type : q.type = p.codeType runtime
  category : t = .crossProcess → ∃ c, p.desc.classify = .transportable c ∧ q.category = some c

/-- The code is for a method and all of its parameters. -/
structure MethodCode.Of (runtime : PathExpr) (t : Transport) (id : UInt32) (m : Declared.Method)
    (c : MethodCode) : Prop where
  id : c.id = id
  word : identifier? m.name = some c.word
  params : List.Forall₂ (fun p q => ParamCode.Of runtime t p q) m.params c.params

section

variable {runtime : PathExpr} {t : Transport} {id : UInt32} {m : Declared.Method}

theorem PlannedParam.of_code? {p : Declared.Param} {q : PlannedParam} {code : ParamCode}
    (hq : q.Carries t p) (h : q.code? runtime = some code) : code.Of runtime t p := by
  obtain ⟨rfl, hcategory⟩ := hq
  obtain ⟨word, hword, rfl⟩ := Option.map_eq_some_iff.1 h
  refine ⟨rfl, hword, rfl, ?_⟩
  rintro rfl
  exact hcategory

theorem MethodPlan.of_code? {p : MethodPlan} {code : MethodCode} (hp : p.Follows t id m)
    (h : p.code? runtime = some code) : code.Of runtime t id m := by
  simp only [MethodPlan.code?, Option.bind_eq_bind, Option.bind_eq_some_iff, Option.pure_def,
    Option.some.injEq] at h
  obtain ⟨word, hword, params, hparams, rfl⟩ := h
  refine ⟨hp.id, hp.name ▸ hword, ?_⟩
  refine (forall₂_comp hp.params (forall₂_of_mapM hparams)).imp ?_
  rintro p code ⟨q, hq, hcode⟩
  exact PlannedParam.of_code? hq hcode

end

namespace Declared.Interface

variable {i : Interface} {t : Transport}

theorem getElem?_numbered (k : Nat) :
    i.numbered[k]? = i.methods[k]?.map fun m => (UInt32.ofNat (k + 1), m) := by
  simp only [numbered, List.getElem?_map, List.getElem?_zipIdx, Option.map_map, Nat.add_comm 1 k]
  rfl

theorem length_numbered : i.numbered.length = i.methods.length := by
  rw [numbered, List.length_map, List.length_zipIdx]

theorem PlannedBy.numbered {plans : List MethodPlan} (h : i.PlannedBy t plans) :
    List.Forall₂ (fun (id, m) p => p.Follows t id m) i.numbered plans := by
  refine forall₂_of_getElem? (h.1.trans length_numbered.symm) fun k n hn => ?_
  rw [getElem?_numbered] at hn
  obtain ⟨m, hm, rfl⟩ := Option.map_eq_some_iff.1 hn
  exact h.2 k m hm

end Declared.Interface

/-! ## Writes and reads -/

namespace MethodCode

variable {runtime : PathExpr} {t : Transport} {id : UInt32} {m : Declared.Method} {c : MethodCode}

theorem Of.writes (h : c.Of runtime .crossProcess id m) :
    List.Forall₂ (fun (p, index) w => ∃ c, p.desc.classify = .transportable c ∧
      w = ⟨c, p.name, field index⟩) m.params.zipIdx c.writes := by
  have hparams := h.params
  rw [MethodCode.writes]
  -- Fields are counted from any number on, since the rest of the parameters does not start at zero.
  generalize m.params = params, c.params = codes, 0 = first at hparams ⊢
  induction hparams generalizing first with
  | nil => exact .nil
  | @cons p q _ _ hp _ ih =>
    obtain ⟨category, hclassify, hcategory⟩ := hp.category rfl
    have hwrite : (q.category.map fun c => (⟨c, q.key, field first⟩ : Write)) =
        some ⟨category, p.name, field first⟩ := by rw [hcategory, hp.key, Option.map_some]
    simp only [List.zipIdx_cons, List.filterMap_cons, hwrite]
    exact .cons ⟨category, hclassify, rfl⟩ (ih (first + 1))

theorem Of.reads (h : c.Of runtime .crossProcess id m) :
    List.Forall₂ (fun p r => ∃ c, p.desc.classify = .transportable c ∧ r = ⟨c, p.name⟩)
      m.params c.reads := by
  have hparams := h.params
  rw [MethodCode.reads]
  generalize m.params = params, c.params = codes at hparams ⊢
  induction hparams with
  | nil => exact .nil
  | @cons p q _ _ hp _ ih =>
    obtain ⟨category, hclassify, hcategory⟩ := hp.category rfl
    have hread : (q.category.map fun c => (⟨c, q.key⟩ : Read)) = some ⟨category, p.name⟩ := by
      rw [hcategory, hp.key, Option.map_some]
    simp only [List.filterMap_cons, hread]
    exact .cons ⟨category, hclassify, rfl⟩ ih

theorem Of.isEmpty_params (h : c.Of runtime t id m) : c.params.isEmpty = m.params.isEmpty := by
  have hparams := h.params
  generalize m.params = params, c.params = codes at hparams ⊢
  cases hparams <;> rfl

theorem Of.length_params (h : c.Of runtime t id m) : c.params.length = m.params.length :=
  h.params.length_eq.symm

theorem Of.words (h : c.Of runtime t id m) :
    List.Forall₂ (fun p word => identifier? p.name = some word) m.params c.words :=
  forall₂_map h.params fun _ _ hq => hq.word

theorem Of.types (h : c.Of runtime t id m) :
    c.params.map ParamCode.type = m.params.map (Declared.Param.codeType runtime) := by
  have hparams := h.params
  generalize m.params = params, c.params = codes at hparams ⊢
  induction hparams with
  | nil => rfl
  | cons hp _ ih => rw [List.map_cons, List.map_cons, ih, hp.type]

theorem Of.flatMap_params (h : c.Of runtime t id m) (f : String → TypeExpr → List Token) :
    (c.params.flatMap fun p => f p.word p.type) =
      (m.params.zip c.words).flatMap fun (p, word) => f word (p.codeType runtime) := by
  have hparams := h.params
  rw [MethodCode.words]
  generalize m.params = params, c.params = codes at hparams ⊢
  induction hparams with
  | nil => rfl
  | cons hp _ ih =>
    rw [List.flatMap_cons, ih, hp.type, List.map_cons, List.zip_cons_cons, List.flatMap_cons]

end MethodCode

/-! ## The parts for a method -/

namespace Emission

variable {e : Emission} {id : UInt32} {m : Declared.Method} {c : MethodCode}

theorem marshals_of (h : c.Of e.runtime .crossProcess id m) :
    (e.marshalFunction c).Marshals e.runtime id m := by
  refine ⟨by rw [← h.id]; rfl, ?_, marshalling c, c.writes.map Write.call, rfl,
    calls_marshalling c, ?_⟩
  · rw [← h.types]
    rfl
  · refine forall₂_map h.writes ?_
    rintro ⟨p, index⟩ w ⟨category, hclassify, rfl⟩
    exact ⟨category, hclassify, rfl⟩

theorem unmarshals_of (h : c.Of e.runtime .crossProcess id m) :
    (e.unmarshalFunction c).Unmarshals e.runtime id m := by
  refine ⟨by rw [← h.id]; rfl, rfl, c.reads.map (Read.tokens "data"), ?_, ?_⟩
  · rw [unmarshalFunction, commaSeparated_true]
  · refine forall₂_map h.reads ?_
    rintro p r ⟨category, hclassify, rfl⟩
    exact ⟨category, hclassify, calls_read _⟩

theorem sends_of (h : c.Of e.runtime e.transport id m) :
    (e.methodFunction c).Sends e.runtime e.transport id m := by
  refine ⟨h.word, c.words, h.words, ?_, ?_⟩
  · rw [← h.flatMap_params fun word type =>
      code "," ++ codeWord word ++ code ":" ++ type.tokens]
    rfl
  · rw [← h.id]
    exact e.calls_send c

theorem receives_of (h : c.Of e.runtime e.transport id m) :
    (e.armCode c).Receives e.transport id m := by
  refine ⟨by rw [← h.id]; rfl, fun ht hparams => ?_, c.word, h.word, ?_⟩
  · rw [← h.id]
    refine e.calls_receive c ht fun hempty => hparams ?_
    have := h.params
    rw [hempty] at this
    exact List.forall₂_nil_right_iff.1 this
  · rw [← h.isEmpty_params, handler_armCode, calls_delivery, h.length_params]

/-! ## The parts of the whole -/

/-- The parts of emitted code that belong to single methods. -/
def halves (e : Emission) : Halves where
  marshals := if e.transport.serializes then e.carrying.map e.marshalFunction else []
  methods := e.methods.map e.methodFunction
  unmarshals := if e.transport.serializes then e.carrying.map e.unmarshalFunction else []
  arms := e.methods.map e.armCode

variable (e)

theorem crossProcessMembers_eq : e.crossProcessMembers =
    e.withoutMethods.crossProcessMembers ++ e.carrying.flatMap e.marshal := by
  have hnone : (e.withoutMethods.methods.filter fun m => !m.params.isEmpty).flatMap
      e.withoutMethods.marshal = [] := rfl
  unfold crossProcessMembers
  rw [hnone, List.append_nil]
  rfl

theorem proxyMembers_eq : e.proxyMembers =
    e.withoutMethods.proxyMembers ++ e.halves.marshals.flatMap FunctionCode.tokens := by
  have htransport : e.withoutMethods.transport = e.transport := rfl
  unfold proxyMembers
  rw [htransport, halves]
  cases e.transport with
  | sameProcess => exact (List.append_nil _).symm
  | crossProcess =>
    simp only [Transport.serializes, if_true, List.flatMap_map, tokens_marshalFunction]
    exact e.crossProcessMembers_eq

theorem dispatcherMembers_eq :
    e.dispatcherMembers = e.halves.unmarshals.flatMap FunctionCode.tokens := by
  rw [dispatcherMembers, halves]
  cases e.transport with
  | sameProcess => rfl
  | crossProcess =>
    simp only [Transport.serializes, if_true, List.flatMap_map, tokens_unmarshalFunction, carrying]

theorem partsOf (o : Generated) : o.emission.halves.PartsOf o := by
  obtain ⟨fields, hproxy⟩ := o.emission.blocks_proxyCode
  obtain ⟨fields', path, hdispatcher⟩ := o.emission.blocks_dispatcherCode
  have hblocks : blocks o.tokens =
      fields :: (o.emission.constants ++ o.emission.proxyMembers) ::
        o.emission.methods.flatMap o.emission.proxyMethod ::
        fields' :: (o.emission.dispatcherFunctions ++ o.emission.dispatcherMembers) ::
        (path ++ [o.emission.dispatchFunction]) := by
    rw [Generated.tokens, blocks_append, hproxy, hdispatcher]
    rfl
  have hlast : lastBlock o.tokens = o.emission.dispatchFunction := by
    rw [lastBlock, hblocks]
    simp only [← List.cons_append, List.getLast?_concat, Option.getD_some]
  refine ⟨?_, ?_, ?_, ?_⟩
  · rw [hblocks, proxyMembers_eq]
    exact congrArg some (List.append_assoc _ _ _).symm
  · rw [hblocks]
    simp [halves, List.flatMap_map, tokens_methodFunction]
  · rw [hblocks, dispatcherMembers_eq]
    rfl
  · rw [hlast, dispatchFunction, lastBlock_append_brace, lastBlock_append_brace]
    simp only [halves, List.flatMap_map, tokens_armCode, List.append_assoc]

variable {e}

theorem match_of {i : Declared.Interface}
    (h : List.Forall₂ (fun (id, m) c => MethodCode.Of e.runtime e.transport id m c) i.numbered
      e.methods) : e.halves.Match e.runtime e.transport i := by
  have hcarrying : List.Forall₂ (fun (id, m) c => MethodCode.Of e.runtime e.transport id m c)
      i.carrying e.carrying := by
    refine List.rel_filter ?_ h
    rintro ⟨id, m⟩ c hc
    simp [hc.isEmpty_params]
  refine ⟨fun ht => ?_, ?_, fun ht => ?_, ?_⟩
  · have hmarshals : e.halves.marshals = e.carrying.map e.marshalFunction := by
      rw [halves, ht]
      rfl
    rw [hmarshals]
    exact forall₂_map hcarrying fun _ _ hc => marshals_of (ht ▸ hc)
  · exact forall₂_map h fun _ _ hc => sends_of hc
  · have hunmarshals : e.halves.unmarshals = e.carrying.map e.unmarshalFunction := by
      rw [halves, ht]
      rfl
    rw [hunmarshals]
    exact forall₂_map hcarrying fun _ _ hc => unmarshals_of (ht ▸ hc)
  · exact forall₂_map h fun _ _ hc => receives_of hc

end Emission

/-! ## Numbers -/

/-- The arms are for the numbers from one up to the last one. -/
theorem Halves.Match.patterns {h : Halves} {runtime : PathExpr} {t : Transport}
    {i : Declared.Interface} (hmatch : h.Match runtime t i) :
    h.arms.map ArmCode.pattern =
      (List.range' 1 i.methods.length).map fun n => codeId (UInt32.ofNat n) := by
  have hpatterns : List.Forall₂ (fun (id, _) pattern => pattern = codeId id) i.numbered
      (h.arms.map ArmCode.pattern) :=
    forall₂_map hmatch.arms fun _ _ ha => ha.pattern
  have hnumbers : i.numbered.map (fun (id, _) => codeId id) =
      (List.range' 1 i.methods.length).map fun n => codeId (UInt32.ofNat n) := by
    rw [Declared.Interface.numbered, List.map_map, ← List.zipIdx_map_snd 1 i.methods, List.map_map]
    rfl
  rw [← hnumbers]
  generalize i.numbered = numbered, h.arms.map ArmCode.pattern = patterns at hpatterns ⊢
  induction hpatterns with
  | nil => rfl
  | cons hpattern _ ih => rw [List.map_cons, ← ih, hpattern]

namespace Declaration

/-- The code of an accepted interface is made from plans that follow its methods. -/
theorem plans_of_accepted {runtime : PathExpr} {d : Declaration} {i : Declared.Interface}
    {o : Generated} (hcontent : d.content = .interface i)
    (h : d.generate runtime = .accepted o) :
    List.Forall₂ (fun (id, m) c => ∃ p : MethodPlan, p.Follows d.transport id m ∧
      p.code? runtime = some c) i.numbered o.emission.methods := by
  obtain ⟨hproblems, hemit⟩ := accepted_of_generate hcontent h
  simp only [Declared.Interface.problems, List.append_eq_nil_iff] at hproblems
  obtain ⟨⟨⟨-, hparams⟩, -⟩, -⟩ := hproblems
  obtain ⟨trait, proxy, methods, -, -, hmethods, rfl⟩ := Declared.Interface.emit?_eq_some.1 hemit
  have hplans := (Declared.Interface.plannedBy_of_no_problems hparams).numbered
  exact forall₂_comp hplans (forall₂_of_mapM hmethods)

theorem codes_of_accepted {runtime : PathExpr} {d : Declaration} {i : Declared.Interface}
    {o : Generated} (hcontent : d.content = .interface i)
    (h : d.generate runtime = .accepted o) :
    List.Forall₂ (fun (id, m) c => MethodCode.Of runtime d.transport id m c) i.numbered
      o.emission.methods := by
  refine (plans_of_accepted hcontent h).imp ?_
  rintro ⟨id, m⟩ c ⟨p, hp, hc⟩
  exact MethodPlan.of_code? hp hc

/-- The code of an accepted interface consists of parts that match its methods: in both halves each
method has its number, and each parameter has one place, with the same key and category.  The arms
are for the numbers from one up to the one that is announced as the last. -/
theorem halves_agree (runtime : PathExpr) {d : Declaration} {i : Declared.Interface}
    {o : Generated} (hcontent : d.content = .interface i)
    (h : d.generate runtime = .accepted o) :
    ∃ parts : Halves, parts.PartsOf o ∧ parts.Match runtime d.transport i ∧
      (∃ front back, o.emission.constants = front ++ code "pub const LAST_METHOD_ID : u32 =" ++
        codeId o.emission.lastId ++ code ";" ++ back) ∧
      (i.methods.length < UInt32.size → parts.arms.map ArmCode.pattern =
        (List.range' 1 o.emission.lastId.toNat).map fun n =>
          [Token.literal (toString n ++ "u32") none]) := by
  have hcode := codes_of_accepted hcontent h
  obtain ⟨-, hemit⟩ := accepted_of_generate hcontent h
  obtain ⟨trait, proxy, methods, -, -, -, rfl⟩ := Declared.Interface.emit?_eq_some.1 hemit
  let e : Emission := ⟨runtime, i.name, d.transport, trait, i.visibility, proxy,
    (Registry.ofInterface i).lastId, methods⟩
  have hmatch : e.halves.Match runtime d.transport i := Emission.match_of hcode
  have hlast : e.lastId = UInt32.ofNat i.methods.length := Registry.lastId_ofInterface i
  refine ⟨e.halves, Emission.partsOf ⟨e, _⟩, hmatch, ⟨_, _, rfl⟩, fun hlength => ?_⟩
  change _ = (List.range' 1 e.lastId.toNat).map _
  rw [hmatch.patterns, hlast, UInt32.toNat_ofNat_of_lt' hlength]
  refine List.map_congr_left fun n hn => ?_
  have hle := List.mem_range'_1.1 hn
  have hn : n < UInt32.size := by omega
  rw [codeId, UInt32.toNat_ofNat_of_lt' hn]

end Declaration

namespace Sample

/-- An interface with a method without parameters and one with parameters of several categories. -/
def beacon : Declared.Interface where
  name := "Beacon"
  visibility := .everyone
  methods := [
    ⟨"dim", [], none, none, none⟩,
    ⟨"flash", [⟨"type", .text, none, none, none⟩,
      ⟨"style", .named "Style" ⟨false, true⟩, none, none, none⟩,
      ⟨"marks", .list [.named "Point" ⟨true, false⟩], none, none, none⟩], none, none, none⟩]
  isGeneric := false
  otherItems := []
  position := none

end Sample

open Sample in
theorem Declaration.halves_agree_beacon :
    ∃ o parts, (ofInterface beacon .crossProcess).generate defaultRuntime = .accepted o ∧
      Halves.PartsOf parts o ∧ parts.marshals.map FunctionCode.name = ["marshal_2"] ∧
      parts.unmarshals.map FunctionCode.name = ["unmarshal_2"] ∧
      parts.arms.map ArmCode.pattern = [[.literal "1u32" none], [.literal "2u32" none]] := by
  have haccepted :
      ((ofInterface beacon .crossProcess).generate defaultRuntime).output?.isSome = true := by
    decide +kernel
  have hcarrying : beacon.carrying.map Prod.fst = [2] := rfl
  cases h : (ofInterface beacon .crossProcess).generate defaultRuntime with
  | rejected diagnostics =>
    rw [h] at haccepted
    cases haccepted
  | unspeakable =>
    rw [h] at haccepted
    cases haccepted
  | accepted o =>
    obtain ⟨parts, hparts, hmatch, -, -⟩ := halves_agree defaultRuntime rfl h
    have hmarshals := hmatch.marshals rfl
    have hunmarshals := hmatch.unmarshals rfl
    rw [show beacon.carrying = [(2, _)] from rfl] at hmarshals hunmarshals
    obtain ⟨f, _, hf, hrest, hfs⟩ := List.forall₂_cons_left_iff.1 hmarshals
    obtain ⟨g, _, hg, hrest', hgs⟩ := List.forall₂_cons_left_iff.1 hunmarshals
    rw [List.forall₂_nil_left_iff] at hrest hrest'
    subst hrest hrest'
    refine ⟨o, parts, rfl, hparts, ?_, ?_, hmatch.patterns⟩
    · rw [hfs, List.map_singleton, hf.name]
      rfl
    · rw [hgs, List.map_singleton, hg.name]
      rfl

end Relay
