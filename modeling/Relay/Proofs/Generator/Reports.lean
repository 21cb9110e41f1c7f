import Relay.Proofs.Generator.Plans

/-!
# Reports of the generator

What is wrong with a declaration is found in several passes, and what they find is one list.  Here
the list is described without them: the sites of an interface at which something can be wrong, the
order of the sites, and for each site the condition under which it is reported, and how
(`Violation`).  The generator lists exactly these reports, each once and in the order of the sites,
and it makes code exactly when there are none.

A part of the list belongs to a part of the sites, and of two parts the one in front has the sites
in front.  So the proof goes through the list by its concatenations (`Lists.append`,
`Lists.flatMap`).
-/

namespace Relay

/-! ## Sites -/

/-- Where something can be wrong with an interface. -/
inductive Site where
  | genericity
  | member (index : Nat)
  | result (method : Nat)
  | signature (method : Nat)
  | param (method index : Nat)
  | interfaceName
  | outputName

namespace Site

/-- The part of the interface, the place in it, and the place at that place. -/
def place : Site → Nat × Nat × Nat
  | genericity => (0, 0, 0)
  | member k => (1, k, 0)
  | result k => (2, k, 0)
  | signature k => (2, k, 1)
  | param k j => (3, k, j)
  | interfaceName => (4, 0, 0)
  | outputName => (5, 0, 0)

def Before (s s' : Site) : Prop :=
  Prod.Lex (· < ·) (Prod.Lex (· < ·) (· < ·)) s.place s'.place

theorem before_iff {s s' : Site} : s.Before s' ↔ s.place.1 < s'.place.1 ∨
    s.place.1 = s'.place.1 ∧ (s.place.2.1 < s'.place.2.1 ∨
      s.place.2.1 = s'.place.2.1 ∧ s.place.2.2 < s'.place.2.2) := by
  rw [Before, Prod.lex_def, Prod.lex_def]

end Site

/-! ## Violations -/

/-- What is wrong at a site of an interface that is declared for a transport, with the kind of the
report and the report. -/
inductive Violation (i : Declared.Interface) (t : Transport) (proxy : String)
    (position : Option Position) : Site → DiagnosticKind → Diagnostic → Prop
  | generic (h : i.isGeneric = true) :
    Violation i t proxy position .genericity .unsupportedSignature
      ⟨.genericInterface, i.name, none, none, i.position⟩
  | member {k : Nat} {item : String} {place : Option Position}
    (h : i.otherItems[k]? = some (item, place)) :
    Violation i t proxy position (.member k) .unsupportedSignature
      ⟨.otherMember item, i.name, none, none, place.or i.position⟩
  | result {k : Nat} {m : Declared.Method} {type : String} (hm : i.methods[k]? = some m)
    (h : m.result = some type) :
    Violation i t proxy position (.result k) .nonVoidMethod
      ⟨.returnsValue type, i.name, some m.signature, none, m.position⟩
  | signature {k : Nat} {m : Declared.Method} {reason : String} (hm : i.methods[k]? = some m)
    (h : m.unsupported = some reason) :
    Violation i t proxy position (.signature k) .unsupportedSignature
      ⟨.unsupportedMethod reason, i.name, some m.signature, none, m.position⟩
  /-- Values of the parameter cannot be queued, whatever the transport. -/
  | unqueued {k j : Nat} {m : Declared.Method} {p : Declared.Param} {reason : String}
    (hm : i.methods[k]? = some m) (hp : m.params[j]? = some p) (h : p.unsupported = some reason) :
    Violation i t proxy position (.param k j) .unsupportedSignature
      ⟨.unsupportedParam reason, i.name, some m.signature, some p.name, p.position.or m.position⟩
  | uncarried {k j : Nat} {m : Declared.Method} {p : Declared.Param}
    (hm : i.methods[k]? = some m) (hp : m.params[j]? = some p) (hqueued : p.unsupported = none)
    (ht : t = .crossProcess) (h : p.desc.classify = .unsupported) :
    Violation i t proxy position (.param k j) .unsupportedParameterType
      ⟨.noCategory p.desc.display, i.name, some m.signature, some p.name,
        p.position.or m.position⟩
  | incomplete {k j : Nat} {m : Declared.Method} {p : Declared.Param} {wrapper : String}
    (hm : i.methods[k]? = some m) (hp : m.params[j]? = some p) (hqueued : p.unsupported = none)
    (ht : t = .crossProcess) (h : p.desc.classify = .unknownArgument wrapper) :
    Violation i t proxy position (.param k j) .unknownGenericArgument
      ⟨.noElementType wrapper, i.name, some m.signature, some p.name, p.position.or m.position⟩
  | interfaceName (h : ∀ word, Source.readName i.name ≠ .ok word) :
    Violation i t proxy position .interfaceName .unsupportedSignature
      ⟨.invalidName "interface name" i.name, i.name, none, none, i.position⟩
  | outputName (h : ∀ word, Source.readName proxy ≠ .ok word) :
    Violation i t proxy position .outputName .unsupportedSignature
      ⟨.invalidName "output name" proxy, i.name, none, none, position⟩

/-- Something is wrong at the site, and is reported so. -/
def Reported (i : Declared.Interface) (t : Transport) (proxy : String) (position : Option Position)
    (s : Site) (d : Diagnostic) : Prop :=
  Violation i t proxy position s d.cause.kind d

theorem Reported.violation {i : Declared.Interface} {t : Transport} {proxy : String}
    {position : Option Position} {s : Site} {d : Diagnostic} (h : Reported i t proxy position s d) :
    ∃ kind, Violation i t proxy position s kind d :=
  ⟨_, h⟩

/-! ## The parts of the list -/

/-- A list of reports from the first parts of an interface, continued with those from the next. -/
theorem Site.lists_append {found : Site → Diagnostic → Prop} {ds es : List Diagnostic} {n : Nat}
    (h : Lists Site.Before ds fun s d => s.place.1 < n ∧ found s d)
    (h' : Lists Site.Before es fun s d => s.place.1 = n ∧ found s d) :
    Lists Site.Before (ds ++ es) fun s d => s.place.1 < n + 1 ∧ found s d := by
  refine (h.append h' ?_).congr fun s d => ?_
  · rintro s d s' d' ⟨hs, -⟩ ⟨hs', -⟩
    exact before_iff.2 (.inl (by omega))
  · rw [← or_and_right, Nat.lt_succ_iff_lt_or_eq]

theorem Declared.Param.plan_eq_error {t : Transport} {p : Param} {cause : Cause} :
    p.plan t = .error cause ↔
      (∃ reason, p.unsupported = some reason ∧ cause = .unsupportedParam reason) ∨
      p.unsupported = none ∧ t = .crossProcess ∧
        (p.desc.classify = .unsupported ∧ cause = .noCategory p.desc.display ∨
          ∃ wrapper, p.desc.classify = .unknownArgument wrapper ∧
            cause = .noElementType wrapper) := by
  unfold plan
  cases p.unsupported with
  | some reason => simp [eq_comm]
  | none =>
    cases t with
    | sameProcess => simp [Transport.serializes]
    | crossProcess => cases p.desc.classify <;> simp [Transport.serializes, eq_comm]

theorem Registered.paramProblem?_eq_some {t : Transport} {interface : String} {m : Registered}
    {p : Declared.Param} {d : Diagnostic} : m.paramProblem? t interface p = some d ↔
      ∃ cause, p.plan t = .error cause ∧ d = ⟨cause, interface, some m.method.signature,
        some p.name, p.position.or m.method.position⟩ := by
  unfold paramProblem?
  cases p.plan t <;> simp [eq_comm]

namespace Declared.Interface

variable {i : Interface} {t : Transport} {proxy : String} {position : Option Position}

/-- A report of the interface as a whole. -/
def report (i : Interface) (cause : Cause) (position : Option Position) : Diagnostic :=
  ⟨cause, i.name, none, none, position⟩

theorem lists_genericity :
    Lists Site.Before (if i.isGeneric then [i.report .genericInterface i.position] else [])
      fun s d => s.place.1 = 0 ∧ Reported i t proxy position s d := by
  have hlists : Lists Site.Before
      (if i.isGeneric then [i.report .genericInterface i.position] else []) fun s d =>
        s = .genericity ∧ i.isGeneric = true ∧ d = i.report .genericInterface i.position := by
    split
    · next hgeneric =>
      refine (Lists.toList .genericity (some _)).congr fun s d => ?_
      simp [hgeneric, eq_comm]
    · next hplain => exact .nil (by simp [hplain])
  refine hlists.congr fun s d => ⟨?_, ?_⟩
  · rintro ⟨rfl, hgeneric, rfl⟩
    exact ⟨rfl, .generic hgeneric⟩
  · rintro ⟨hplace, hreported⟩
    obtain ⟨kind, h⟩ := hreported.violation
    cases h with
    | generic h => exact ⟨rfl, h, rfl⟩
    | _ => simp [Site.place] at hplace

theorem lists_members :
    Lists Site.Before
      (i.otherItems.map fun item => i.report (.otherMember item.1) (item.2.or i.position))
      fun s d => s.place.1 = 1 ∧ Reported i t proxy position s d := by
  rw [List.map_eq_flatMap]
  refine (Lists.flatMap (fun k item _ => .toList (Site.member k) (some _)) ?_).congr
    fun s d => ⟨?_, ?_⟩
  · rintro k item s d k' item' s' d' hk ⟨rfl, -⟩ ⟨rfl, -⟩
    simp [Site.before_iff, Site.place, hk]
  · rintro ⟨k, ⟨item, place⟩, hitem, rfl, hd⟩
    obtain rfl := Option.some.inj hd
    exact ⟨rfl, .member hitem⟩
  · rintro ⟨hplace, hreported⟩
    obtain ⟨kind, h⟩ := hreported.violation
    cases h with
    | member hitem => exact ⟨_, _, hitem, rfl, rfl⟩
    | _ => simp [Site.place] at hplace

theorem lists_methods :
    Lists Site.Before (i.methods.flatMap (Method.violations i.name))
      fun s d => s.place.1 = 2 ∧ Reported i t proxy position s d := by
  refine (Lists.flatMap (fun k m _ => (Lists.toList (Site.result k) _).append
    (.toList (Site.signature k) _) ?_) ?_).congr fun s d => ⟨?_, ?_⟩
  · rintro s d s' d' ⟨rfl, -⟩ ⟨rfl, -⟩
    simp [Site.before_iff, Site.place]
  · rintro k m s d k' m' s' d' hk (⟨rfl, -⟩ | ⟨rfl, -⟩) (⟨rfl, -⟩ | ⟨rfl, -⟩) <;>
      simp [Site.before_iff, Site.place, hk]
  · rintro ⟨k, m, hm, ⟨rfl, hd⟩ | ⟨rfl, hd⟩⟩
    · obtain ⟨type, htype, rfl⟩ := Option.map_eq_some_iff.1 hd
      exact ⟨rfl, .result hm htype⟩
    · obtain ⟨reason, hreason, rfl⟩ := Option.map_eq_some_iff.1 hd
      exact ⟨rfl, .signature hm hreason⟩
  · rintro ⟨hplace, hreported⟩
    obtain ⟨kind, h⟩ := hreported.violation
    cases h with
    | result hm htype => exact ⟨_, _, hm, .inl ⟨rfl, by rw [htype]; rfl⟩⟩
    | signature hm hreason => exact ⟨_, _, hm, .inr ⟨rfl, by rw [hreason]; rfl⟩⟩
    | _ => simp [Site.place] at hplace

theorem lists_params :
    Lists Site.Before ((Registry.ofInterface i).paramProblems t)
      fun s d => s.place.1 = 3 ∧ Reported i t proxy position s d := by
  have hlists : Lists Site.Before ((Registry.ofInterface i).paramProblems t) fun s d =>
      ∃ k m, (Registry.ofInterface i).methods[k]? = some m ∧
        ∃ j p, m.method.params[j]? = some p ∧ s = .param k j ∧
          m.paramProblem? t i.name p = some d := by
    refine .flatMap (fun k m _ => ?_) ?_
    · rw [Registered.paramProblems, List.filterMap_eq_flatMap_toList]
      refine .flatMap (fun j p _ => .toList (Site.param k j) _) ?_
      rintro j p s d j' p' s' d' hj ⟨rfl, -⟩ ⟨rfl, -⟩
      simp [Site.before_iff, Site.place, hj]
    · rintro k m s d k' m' s' d' hk ⟨j, p, -, rfl, -⟩ ⟨j', p', -, rfl, -⟩
      simp [Site.before_iff, Site.place, hk]
  refine hlists.congr fun s d => ⟨?_, ?_⟩
  · rintro ⟨k, registered, hregistered, j, p, hp, rfl, hd⟩
    rw [Registry.getElem?_ofInterface] at hregistered
    obtain ⟨m, hm, rfl⟩ := Option.map_eq_some_iff.1 hregistered
    obtain ⟨cause, hcause, rfl⟩ := Registered.paramProblem?_eq_some.1 hd
    refine ⟨rfl, ?_⟩
    rcases Param.plan_eq_error.1 hcause with
      ⟨reason, hreason, rfl⟩ | ⟨hqueued, ht, ⟨hclassify, rfl⟩ | ⟨wrapper, hclassify, rfl⟩⟩
    · exact .unqueued hm hp hreason
    · exact .uncarried hm hp hqueued ht hclassify
    · exact .incomplete hm hp hqueued ht hclassify
  · rintro ⟨hplace, hreported⟩
    obtain ⟨kind, h⟩ := hreported.violation
    have hfound {k j : Nat} {m : Method} {p : Param} {cause : Cause} (hm : i.methods[k]? = some m)
        (hp : m.params[j]? = some p) (hcause : p.plan t = .error cause) :
        ∃ k' registered, (Registry.ofInterface i).methods[k']? = some registered ∧
          ∃ j' p', registered.method.params[j']? = some p' ∧ Site.param k j = .param k' j' ∧
            registered.paramProblem? t i.name p' = some ⟨cause, i.name, some m.signature,
              some p.name, p.position.or m.position⟩ := by
      refine ⟨k, ⟨UInt32.ofNat (k + 1), m⟩, ?_, j, p, hp, rfl,
        Registered.paramProblem?_eq_some.2 ⟨cause, hcause, rfl⟩⟩
      rw [Registry.getElem?_ofInterface, hm, Option.map_some]
    cases h with
    | unqueued hm hp h => exact hfound hm hp (Param.plan_eq_error.2 (.inl ⟨_, h, rfl⟩))
    | uncarried hm hp hqueued ht h =>
      exact hfound hm hp (Param.plan_eq_error.2 (.inr ⟨hqueued, ht, .inl ⟨h, rfl⟩⟩))
    | incomplete hm hp hqueued ht h =>
      exact hfound hm hp (Param.plan_eq_error.2 (.inr ⟨hqueued, ht, .inr ⟨_, h, rfl⟩⟩))
    | _ => simp [Site.place] at hplace

theorem nameProblem?_eq_some {role name : String} {d : Diagnostic} :
    i.nameProblem? role name position = some d ↔
      (∀ word, Source.readName name ≠ .ok word) ∧
        i.report (.invalidName role name) position = d := by
  unfold nameProblem? report
  cases Source.readName name <;> simp

theorem lists_interfaceName :
    Lists Site.Before (i.nameProblem? "interface name" i.name i.position).toList
      fun s d => s.place.1 = 4 ∧ Reported i t proxy position s d := by
  refine (Lists.toList .interfaceName _).congr fun s d => ⟨?_, ?_⟩
  · rintro ⟨rfl, hd⟩
    obtain ⟨hname, rfl⟩ := nameProblem?_eq_some.1 hd
    exact ⟨rfl, .interfaceName hname⟩
  · rintro ⟨hplace, hreported⟩
    obtain ⟨kind, h⟩ := hreported.violation
    cases h with
    | interfaceName hname => exact ⟨rfl, nameProblem?_eq_some.2 ⟨hname, rfl⟩⟩
    | _ => simp [Site.place] at hplace

theorem lists_outputName :
    Lists Site.Before (i.nameProblem? "output name" proxy position).toList
      fun s d => s.place.1 = 5 ∧ Reported i t proxy position s d := by
  refine (Lists.toList .outputName _).congr fun s d => ⟨?_, ?_⟩
  · rintro ⟨rfl, hd⟩
    obtain ⟨hname, rfl⟩ := nameProblem?_eq_some.1 hd
    exact ⟨rfl, .outputName hname⟩
  · rintro ⟨hplace, hreported⟩
    obtain ⟨kind, h⟩ := hreported.violation
    cases h with
    | outputName hname => exact ⟨rfl, nameProblem?_eq_some.2 ⟨hname, rfl⟩⟩
    | _ => simp [Site.place] at hplace

/-- What is wrong with an interface is listed site by site. -/
theorem lists_problems (i : Interface) (t : Transport) (outputName : Option String)
    (position : Option Position) :
    Lists Site.Before (i.problems t outputName position)
      (Reported i t (i.proxyName t outputName) position) := by
  have hgenericity : Lists Site.Before
      (if i.isGeneric then [i.report .genericInterface i.position] else []) fun s d =>
        s.place.1 < 1 ∧ Reported i t (i.proxyName t outputName) position s d := by
    simpa only [Nat.lt_one_iff] using lists_genericity
  have hlists := Site.lists_append (Site.lists_append (Site.lists_append (Site.lists_append
    (Site.lists_append hgenericity lists_members) lists_methods) lists_params)
      lists_interfaceName) lists_outputName
  refine hlists.congr fun s d => and_iff_right ?_
  cases s <;> simp [Site.place]

end Declared.Interface

/-! ## Declarations -/

def Generation.output? : Generation → Option Generated
  | accepted output => some output
  | _ => none

theorem Generation.output?_eq_some {g : Generation} {o : Generated} :
    g.output? = some o ↔ g = .accepted o := by
  cases g <;> simp [output?]

def Generation.diagnostics : Generation → List Diagnostic
  | rejected diagnostics => diagnostics
  | _ => []

namespace Declaration

/-- The names of all methods and parameters can stand in code. -/
def Spellable (d : Declaration) : Prop :=
  ∀ i, d.content = .interface i → ∀ m ∈ i.methods, m.Spellable

/-- How the generation of a declaration ends.  Something that is no interface has one report; an
interface has those of its sites, and code when it has none. -/
structure Answered (d : Declaration) (g : Generation) : Prop where
  other : ∀ kind, d.content = .other kind →
    ∃ report, g = .rejected [report] ∧ report.cause.kind = .notAnInterface ∧
      report = ⟨.otherItem kind, d.name, none, none, d.position⟩
  interface : ∀ i, d.content = .interface i →
    ∃ reports, Lists Site.Before reports
        (Reported i d.transport (i.proxyName d.transport d.outputName) d.position) ∧
      (reports = [] → ∃ o, g = .accepted o ∧ i.PlannedBy d.transport o.plans) ∧
      (reports ≠ [] → g = .rejected reports)

theorem generate_of_problems {runtime : PathExpr} {d : Declaration} {i : Declared.Interface}
    (hi : d.content = .interface i)
    (h : i.problems d.transport d.outputName d.position ≠ []) :
    d.generate runtime = .rejected (i.problems d.transport d.outputName d.position) := by
  unfold generate
  rw [hi]
  exact if_neg (mt List.isEmpty_iff.1 h)

theorem exists_generate {runtime : PathExpr} {d : Declaration} {i : Declared.Interface}
    (hi : d.content = .interface i) (hnames : ∀ m ∈ i.methods, m.Spellable)
    (h : i.problems d.transport d.outputName d.position = []) :
    ∃ o, d.generate runtime = .accepted o ∧ i.PlannedBy d.transport o.plans := by
  have hparts := h
  simp only [Declared.Interface.problems, List.append_eq_nil_iff, Option.toList_eq_nil_iff,
    Declared.Interface.nameProblem?_eq_none] at hparts
  obtain ⟨⟨⟨-, hparams⟩, hname⟩, hproxy⟩ := hparts
  obtain ⟨o, ho⟩ : ∃ o, i.emit? d.transport d.outputName runtime = some o :=
    Declared.Interface.exists_emit hnames hname hproxy
  refine ⟨o, ?_, ?_⟩
  · unfold generate
    rw [hi]
    simp only [h, List.isEmpty_nil, if_true, ho]
  · obtain ⟨trait, proxy, methods, -, -, -, rfl⟩ := Declared.Interface.emit?_eq_some.1 ho
    exact Declared.Interface.plannedBy_of_no_problems hparams

theorem answered_generate (runtime : PathExpr) {d : Declaration} (hnames : d.Spellable) :
    d.Answered (d.generate runtime) := by
  constructor
  · intro kind hother
    refine ⟨_, ?_, rfl, rfl⟩
    unfold generate
    rw [hother]
  · intro i hi
    exact ⟨_, i.lists_problems d.transport d.outputName d.position,
      exists_generate hi (hnames i hi), generate_of_problems hi⟩

theorem Answered.ne_unspeakable {d : Declaration} (h : d.Answered .unspeakable) : False := by
  cases hcontent : d.content with
  | other kind =>
    obtain ⟨report, hreport, -⟩ := h.other kind hcontent
    cases hreport
  | interface i =>
    obtain ⟨reports, -, hnone, hsome⟩ := h.interface i hcontent
    by_cases hreports : reports = []
    · obtain ⟨o, ho, -⟩ := hnone hreports
      cases ho
    · cases hsome hreports

end Declaration

/-- Generating the code for declarations does so for each of them alone: the code for those that are
accepted and the reports of the others, each in the order of declaration. -/
theorem generateAll_answered (runtime : PathExpr) {ds : List Declaration}
    (hnames : ∀ d ∈ ds, d.Spellable) :
    ∃ b, generateAll? runtime ds = some b ∧
      b.outputs = ds.filterMap (fun d => (d.generate runtime).output?) ∧
      b.diagnostics = ds.flatMap (fun d => (d.generate runtime).diagnostics) ∧
      ∀ d ∈ ds, d.Answered (d.generate runtime) := by
  induction ds with
  | nil => exact ⟨.empty, rfl, rfl, rfl, List.forall_mem_nil _⟩
  | cons d rest ih =>
    rw [List.forall_mem_cons] at hnames
    obtain ⟨b, hb, houtputs, hdiagnostics, hanswered⟩ := ih hnames.2
    have hd := Declaration.answered_generate runtime hnames.1
    have hcons : generateAll? runtime (d :: rest) = Batch.cons? runtime d b := by
      rw [generateAll?, hb, Option.bind_some]
    rw [hcons, List.forall_mem_cons, List.flatMap_cons, ← hdiagnostics]
    unfold Batch.cons?
    cases hg : d.generate runtime with
    | accepted o =>
      refine ⟨_, rfl, ?_, rfl, hg ▸ hd, hanswered⟩
      rw [houtputs, List.filterMap_cons_some (by rw [hg]; rfl)]
    | rejected diagnostics =>
      refine ⟨_, rfl, ?_, rfl, hg ▸ hd, hanswered⟩
      rw [houtputs, List.filterMap_cons_none (by rw [hg]; rfl)]
    | unspeakable => exact (hg ▸ hd).ne_unspeakable.elim

namespace Sample

/-- An interface one of whose parameters has a kept word for a name. -/
def telegraph : Declared.Interface where
  name := "Telegraph"
  visibility := .everyone
  methods := [⟨"send", [⟨"type", .text, none, none, none⟩], none, none, none⟩]
  isGeneric := false
  otherItems := []
  position := none

/-- An interface with three faults. -/
def abacus : Declared.Interface where
  name := "Abacus"
  visibility := .inherited
  methods := [⟨"add", [⟨"rods", .map [], none, none, none⟩], some "u32", none, none⟩]
  isGeneric := true
  otherItems := []
  position := none

def notices : List Declaration :=
  [.ofInterface telegraph .crossProcess, .ofOther "Slate" "a struct" .crossProcess none,
    .ofInterface abacus .crossProcess]

theorem notices_spellable : ∀ d ∈ notices, d.Spellable := by
  have hone {m : Declared.Method} {p : Declared.Param} (hm : m.params = [p])
      (hword : isWord m.name.toList = true ∧ isWord p.name.toList = true)
      (hescape : m.name ∉ unescapableWords ∧ p.name ∉ unescapableWords) : m.Spellable := by
    refine ⟨spellable_of_word hword.1 hescape.1, ?_⟩
    rw [hm, List.forall_mem_singleton]
    exact spellable_of_word hword.2 hescape.2
  simp only [notices, List.forall_mem_cons]
  refine ⟨?_, nofun, ?_, List.forall_mem_nil _⟩
  · rintro _ ⟨⟩
    exact List.forall_mem_singleton.2 (hone rfl (by decide +kernel) (by decide))
  · rintro _ ⟨⟩
    exact List.forall_mem_singleton.2 (hone rfl (by decide +kernel) (by decide))

end Sample

open Sample in
theorem generateAll_answered_notices :
    ∃ b, generateAll? Declaration.defaultRuntime notices = some b ∧ b.outputs.length = 1 ∧
      b.diagnostics.map (fun d => d.cause.kind) =
        [.notAnInterface, .unsupportedSignature, .nonVoidMethod, .unsupportedParameterType] := by
  obtain ⟨b, hb, houtputs, hdiagnostics, -⟩ :=
    generateAll_answered Declaration.defaultRuntime notices_spellable
  refine ⟨b, hb, ?_, ?_⟩
  · rw [houtputs]
    decide +kernel
  · rw [hdiagnostics]
    decide +kernel

end Relay
