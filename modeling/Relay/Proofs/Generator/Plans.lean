import Relay.Generator.Generation
import Relay.Proofs.Lists

/-!
# Plans and names

What stands between a declaration and its code.  The methods are numbered in the order in which they
were declared, and a parameter with which nothing is wrong has a plan; so when nothing is wrong with
an interface, its plans are its methods and parameters one for one.  Code is then made for all of
them if their names can stand in code, and every word can that has a raw form.
-/

namespace Relay

theorem toOption_eq_some {α ε : Type} {e : Except ε α} {x : α} :
    e.toOption = some x ↔ e = .ok x := by
  cases e <;> simp [Except.toOption]

/-! ## Names -/

/-- The name can stand in code, if need be in its raw form. -/
def Spellable (name : String) : Prop := (identifier? name).isSome

theorem spellable_of_word {name : String} (hword : isWord name.toList = true)
    (hescape : name ∉ unescapableWords) : Spellable name := by
  unfold Spellable identifier?
  split
  · rfl
  · simp [hword, hescape]

namespace Declared

/-- The names of a method and of its parameters can stand in code. -/
def Method.Spellable (m : Method) : Prop :=
  Relay.Spellable m.name ∧ ∀ p ∈ m.params, Relay.Spellable p.name

end Declared

/-! ## Numbers -/

namespace Registry

variable {first : UInt32} {ms : List Declared.Method}

theorem map_method_number : (number first ms).map Registered.method = ms := by
  induction ms generalizing first with
  | nil => rfl
  | cons m rest ih => rw [number, List.map_cons, ih]

theorem getElem?_number (k : Nat) :
    (number first ms)[k]? = ms[k]?.map fun m => ⟨first + UInt32.ofNat k, m⟩ := by
  induction ms generalizing first k with
  | nil => rfl
  | cons m rest ih =>
    cases k with
    | zero => simp [number]
    | succ k =>
      have hnext : first + 1 + UInt32.ofNat k = first + UInt32.ofNat (k + 1) := by
        rw [UInt32.ofNat_add, UInt32.add_assoc, UInt32.add_comm (UInt32.ofNat k)]
        rfl
      rw [number, List.getElem?_cons_succ, List.getElem?_cons_succ, ih, hnext]

theorem getElem?_ofInterface (i : Declared.Interface) (k : Nat) :
    (ofInterface i).methods[k]? = i.methods[k]?.map fun m => ⟨UInt32.ofNat (k + 1), m⟩ := by
  have hnumber : 1 + UInt32.ofNat k = UInt32.ofNat (k + 1) := by
    rw [UInt32.ofNat_add, UInt32.add_comm]
    rfl
  rw [ofInterface, getElem?_number, hnumber]

theorem lastId_ofInterface (i : Declared.Interface) :
    (ofInterface i).lastId = UInt32.ofNat i.methods.length := by
  have hlength : (ofInterface i).methods.length = i.methods.length := by
    rw [ofInterface, ← List.length_map (f := Registered.method), map_method_number]
  rw [lastId, List.getLast?_eq_getElem?, getElem?_ofInterface, hlength]
  cases hcount : i.methods.length with
  | zero => rw [List.length_eq_zero_iff.1 hcount]; rfl
  | succ k =>
    have hk : k < i.methods.length := by omega
    rw [Nat.add_sub_cancel, List.getElem?_eq_getElem hk, Option.map_some]

end Registry

/-! ## Parameters -/

/-- The parameter is planned for the transport: with its category if values are to be written into a
bundle, and without one if not. -/
def PlannedParam.Carries (t : Transport) (p : Declared.Param) (q : PlannedParam) : Prop :=
  q.param = p ∧
    match t with
    | .sameProcess => q.category = none
    | .crossProcess => ∃ c, p.desc.classify = .transportable c ∧ q.category = some c

theorem Declared.Param.carries_of_plan {t : Transport} {p : Param} {q : PlannedParam}
    (h : p.plan t = .ok q) : q.Carries t p := by
  unfold plan at h
  split at h
  · cases h
  · cases t with
    | sameProcess =>
      cases h
      exact ⟨rfl, rfl⟩
    | crossProcess =>
      simp only [Transport.serializes, if_true] at h
      split at h
      · next c hclassify =>
        cases h
        exact ⟨rfl, c, hclassify, rfl⟩
      · cases h
      · cases h

theorem Registered.paramProblem?_eq_none {t : Transport} {interface : String} {m : Registered}
    {p : Declared.Param} : m.paramProblem? t interface p = none ↔ ∃ q, p.plan t = .ok q := by
  unfold paramProblem?
  cases p.plan t <;> simp

/-- When nothing is wrong with parameters, all of them are planned. -/
theorem Registered.carries_of_no_problems {t : Transport} {interface : String} {m : Registered}
    (h : m.paramProblems t interface = []) :
    List.Forall₂ (fun p q => PlannedParam.Carries t p q) m.method.params (m.plan t).params := by
  have hplanned : ∀ p ∈ m.method.params, ∃ q, p.plan t = .ok q := fun p hp =>
    paramProblem?_eq_none.1 (List.filterMap_eq_nil_iff.1 h p hp)
  rw [plan]
  generalize m.method.params = params at hplanned ⊢
  induction params with
  | nil => exact .nil
  | cons p rest ih =>
    rw [List.forall_mem_cons] at hplanned
    obtain ⟨q, hq⟩ := hplanned.1
    rw [List.filterMap_cons_some (by rw [hq]; rfl)]
    exact .cons (Declared.Param.carries_of_plan hq) (ih hplanned.2)

/-! ## Methods -/

/-- The plan is that of a method: it has its number and its name, and its parameters in order. -/
structure MethodPlan.Follows (t : Transport) (id : UInt32) (m : Declared.Method) (p : MethodPlan) :
    Prop where
  id : p.id = id
  name : p.name = m.name
  params : List.Forall₂ (fun param q => PlannedParam.Carries t param q) m.params p.params

/-- Plans of all methods of an interface, one for each, in order and numbered from one. -/
def Declared.Interface.PlannedBy (i : Interface) (t : Transport) (plans : List MethodPlan) : Prop :=
  plans.length = i.methods.length ∧
    ∀ k m, i.methods[k]? = some m →
      ∃ p : MethodPlan, plans[k]? = some p ∧ p.Follows t (UInt32.ofNat (k + 1)) m

namespace Declared.Interface

variable {i : Interface} {t : Transport} {outputName : Option String} {position : Option Position}
  {runtime : PathExpr} {o : Generated}

theorem plannedBy_of_no_problems (h : (Registry.ofInterface i).paramProblems t = []) :
    i.PlannedBy t ((Registry.ofInterface i).methods.map (Registered.plan t)) := by
  rw [Registry.paramProblems, List.flatMap_eq_nil_iff] at h
  refine ⟨?_, fun k m hm => ?_⟩
  · rw [List.length_map, Registry.ofInterface, ← List.length_map (f := Registered.method),
      Registry.map_method_number]
  · have hregistered := Registry.getElem?_ofInterface i k
    rw [hm, Option.map_some] at hregistered
    refine ⟨Registered.plan t ⟨UInt32.ofNat (k + 1), m⟩, ?_, rfl, rfl, ?_⟩
    · rw [List.getElem?_map, hregistered, Option.map_some]
    · exact Registered.carries_of_no_problems (h _ (List.mem_of_getElem? hregistered))

theorem nameProblem?_eq_none {role name : String} :
    i.nameProblem? role name position = none ↔ ∃ word, Source.readName name = .ok word := by
  unfold nameProblem?
  cases Source.readName name <;> simp

theorem emit?_eq_some : i.emit? t outputName runtime = some o ↔
    ∃ trait proxy methods, Source.readName i.name = .ok trait ∧
      Source.readName (i.proxyName t outputName) = .ok proxy ∧
      ((Registry.ofInterface i).methods.map (Registered.plan t)).mapM
        (MethodPlan.code? runtime) = some methods ∧
      o = ⟨⟨runtime, i.name, t, trait, i.visibility, proxy, (Registry.ofInterface i).lastId,
        methods⟩, (Registry.ofInterface i).methods.map (Registered.plan t)⟩ := by
  simp only [emit?, Option.bind_eq_bind, Option.bind_eq_some_iff, Option.pure_def,
    Option.some.injEq, toOption_eq_some]
  constructor
  · rintro ⟨trait, htrait, proxy, hproxy, methods, hmethods, rfl⟩
    exact ⟨trait, proxy, methods, htrait, hproxy, hmethods, rfl⟩
  · rintro ⟨trait, proxy, methods, htrait, hproxy, hmethods, rfl⟩
    exact ⟨trait, htrait, proxy, hproxy, methods, hmethods, rfl⟩

theorem mem_of_planned {m : Registered} {q : PlannedParam} (h : q ∈ (m.plan t).params) :
    q.param ∈ m.method.params := by
  obtain ⟨p, hp, hplan⟩ := List.mem_filterMap.1 h
  cases hresult : p.plan t with
  | error cause =>
    rw [hresult] at hplan
    cases hplan
  | ok q' =>
    rw [hresult] at hplan
    obtain rfl := Option.some.inj hplan
    exact (Declared.Param.carries_of_plan hresult).1 ▸ hp

theorem code?_isSome {m : Registered} (h : m.method.Spellable) :
    ((m.plan t).code? runtime).isSome := by
  obtain ⟨word, hword⟩ := Option.isSome_iff_exists.1 h.1
  have hparams : ∀ q ∈ (m.plan t).params, (q.code? runtime).isSome := by
    intro q hq
    rw [PlannedParam.code?, Option.isSome_map]
    exact h.2 q.param (mem_of_planned hq)
  obtain ⟨params, hparams⟩ := exists_mapM hparams
  have hname : identifier? (m.plan t).name = some word := hword
  simp [MethodPlan.code?, hname, hparams]

/-- When the names can stand in code, there is code. -/
theorem exists_emit (hnames : ∀ m ∈ i.methods, m.Spellable)
    (hi : ∃ word, Source.readName i.name = .ok word)
    (hproxy : ∃ word, Source.readName (i.proxyName t outputName) = .ok word) :
    ∃ o, i.emit? t outputName runtime = some o := by
  obtain ⟨trait, htrait⟩ := hi
  obtain ⟨proxy, hproxy⟩ := hproxy
  have hcode : ∀ p ∈ (Registry.ofInterface i).methods.map (Registered.plan t),
      (p.code? runtime).isSome := by
    rw [List.forall_mem_map]
    intro m hm
    apply code?_isSome
    apply hnames
    have hmethods : (Registry.ofInterface i).methods.map Registered.method = i.methods :=
      Registry.map_method_number
    rw [← hmethods]
    exact List.mem_map_of_mem hm
  obtain ⟨methods, hmethods⟩ := exists_mapM hcode
  exact ⟨_, emit?_eq_some.2 ⟨trait, proxy, methods, htrait, hproxy, hmethods, rfl⟩⟩

end Declared.Interface

/-- An interface is accepted when nothing is wrong with it and its names can stand in code. -/
theorem Declaration.accepted_of_generate {runtime : PathExpr} {d : Declaration}
    {i : Declared.Interface} {o : Generated} (hcontent : d.content = .interface i)
    (h : d.generate runtime = .accepted o) :
    i.problems d.transport d.outputName d.position = [] ∧
      i.emit? d.transport d.outputName runtime = some o := by
  unfold generate at h
  rw [hcontent] at h
  dsimp only at h
  split at h
  · next hproblems =>
    refine ⟨List.isEmpty_iff.1 hproblems, ?_⟩
    cases hemit : i.emit? d.transport d.outputName runtime with
    | none =>
      rw [hemit] at h
      cases h
    | some output =>
      rw [hemit] at h
      cases h
      rfl
  · cases h

end Relay
