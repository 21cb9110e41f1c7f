import Mathlib.Data.List.Basic
import Relay.Proofs.Generator.Endings

/-!
# What a type borrows

All that a written type borrows for less than the whole run, and all opaque types in it, wherever
they stand.  A signature of a function is left out: the lifetimes in it are those of its calls.

Lowering looks for such a loan and marks the parameter at the first that it finds.  It does not
enter the bounds of an object, nor what is bound or constrained among generic arguments, so a loan
there is hidden from it.  The walk and the list of loans go through a type alike, and the mark is
the first of the loans that are not hidden.
-/

namespace Relay

/-! ## Loans -/

/-- Something in a type for which its values do not own what they hold. -/
structure Loan where
  problem : OwnershipProblem
  /-- It stands in the bounds of an object, or where a generic argument is bound or constrained. -/
  isHidden : Bool
deriving DecidableEq, Repr

def Loan.hide (loan : Loan) : Loan := { loan with isHidden := true }

/-- The loan of a lifetime that is mentioned in a type, if it is one. -/
def loansOfLifetime (whole name : String) : List Loan :=
  if name = lastingLifetime then [] else [⟨.borrowsFor whole name, false⟩]

mutual

/-- The loans in a type, in the order in which it is written. -/
def TypeExpr.loans : TypeExpr → List Loan
  | .reference lifetime isMut elem =>
    if lifetime = some lastingLifetime then elem.loans
    else ⟨.borrowed (TypeExpr.reference lifetime isMut elem).text, false⟩ :: elem.loans
  | .implement bounds trailing =>
    let whole := (TypeExpr.implement bounds trailing).text
    ⟨.unnamed whole, false⟩ :: (loansOfBounds whole bounds).map Loan.hide
  | .object isMarked bounds trailing =>
    (loansOfBounds (TypeExpr.object isMarked bounds trailing).text bounds).map Loan.hide
  | .paren elem => elem.loans
  | .group elem => elem.loans
  | .slice elem => elem.loans
  | .array elem _ => elem.loans
  | .pointer _ elem => elem.loans
  | .tuple elems _ => loansOfTypes elems
  | .path p => p.loans p.text
  | .qualified self rest =>
    self.loans ++ loansOfSegments (TypeExpr.qualified self rest).text rest
  | .projected self via rest =>
    let whole := (TypeExpr.projected self via rest).text
    self.loans ++ (via.loans whole ++ loansOfSegments whole rest)
  | .function _ => []
  | .never => []
  | .infer => []
  | .invocation _ _ => []
  | .verbatim _ => []

def loansOfTypes : List TypeExpr → List Loan
  | [] => []
  | t :: rest => t.loans ++ loansOfTypes rest

/-- The loans in a path, given the text of the type that it stands in. -/
def PathExpr.loans (whole : String) : PathExpr → List Loan
  | .mk _ segments => loansOfSegments whole segments

def loansOfSegments (whole : String) : List Segment → List Loan
  | [] => []
  | s :: rest => s.loans whole ++ loansOfSegments whole rest

def Segment.loans (whole : String) : Segment → List Loan
  | .mk _ args => args.loans whole

def Arguments.loans (whole : String) : Arguments → List Loan
  | .angle _ args _ => loansOfArguments whole args
  | .signature _ => []
  | .none => []

def loansOfArguments (whole : String) : List Argument → List Loan
  | [] => []
  | a :: rest => a.loans whole ++ loansOfArguments whole rest

def Argument.loans (whole : String) : Argument → List Loan
  | .lifetime name => loansOfLifetime whole name
  | .type t => t.loans
  | .const _ => []
  | .binding segment t => (segment.loans whole ++ t.loans).map Loan.hide
  | .constBinding segment _ => (segment.loans whole).map Loan.hide
  | .constraint segment bounds _ =>
    (segment.loans whole ++ loansOfBounds whole bounds).map Loan.hide

def Bound.loans (whole : String) : Bound → List Loan
  | .lifetime name => loansOfLifetime whole name
  | .trait _ _ path => path.loans whole
  | .verbatim _ => []

def loansOfBounds (whole : String) : List Bound → List Loan
  | [] => []
  | b :: rest => b.loans whole ++ loansOfBounds whole rest

end

/-! ## The first loan in the open -/

/-- The problem of the first loan that is not hidden. -/
def openProblem? (loans : List Loan) : Option OwnershipProblem :=
  (loans.find? fun loan => !loan.isHidden).map Loan.problem

@[simp] theorem openProblem?_nil : openProblem? [] = none := rfl

theorem openProblem?_open (problem : OwnershipProblem) (loans : List Loan) :
    openProblem? (⟨problem, false⟩ :: loans) = some problem := rfl

@[simp] theorem openProblem?_append (loans loans' : List Loan) :
    openProblem? (loans ++ loans') = (openProblem? loans).or (openProblem? loans') := by
  rw [openProblem?, List.find?_append, Option.map_or]
  rfl

@[simp] theorem openProblem?_hide (loans : List Loan) :
    openProblem? (loans.map Loan.hide) = none := by
  rw [openProblem?, Option.map_eq_none_iff, List.find?_eq_none]
  intro loan hloan
  obtain ⟨shown, -, rfl⟩ := List.mem_map.1 hloan
  exact Bool.false_ne_true

theorem openProblem?_eq_none {loans : List Loan} :
    openProblem? loans = none ↔ ∀ loan ∈ loans, loan.isHidden = true := by
  simp [openProblem?]

mutual

/-- The walk stops at the first loan in the open. -/
theorem TypeExpr.ownershipProblem?_eq : (t : TypeExpr) →
    t.ownershipProblem? = openProblem? t.loans
  | .reference lifetime isMut elem => by
    rw [TypeExpr.ownershipProblem?, TypeExpr.loans, elem.ownershipProblem?_eq]
    split
    · rfl
    · rfl
  | .implement _ _ => by rw [TypeExpr.ownershipProblem?, TypeExpr.loans, openProblem?_open]
  | .object _ _ _ => by rw [TypeExpr.ownershipProblem?, TypeExpr.loans, openProblem?_hide]
  | .paren elem | .group elem | .slice elem | .array elem _ | .pointer _ elem => by
    rw [TypeExpr.ownershipProblem?, TypeExpr.loans, elem.ownershipProblem?_eq]
  | .tuple elems _ => by rw [TypeExpr.ownershipProblem?, TypeExpr.loans, ownershipProblemOfTypes?_eq]
  | .path p => by rw [TypeExpr.ownershipProblem?, TypeExpr.loans, p.ownershipProblem?_eq]
  | .qualified self rest => by
    rw [TypeExpr.ownershipProblem?, TypeExpr.loans, openProblem?_append, self.ownershipProblem?_eq,
      ownershipProblemOfSegments?_eq]
  | .projected self via rest => by
    rw [TypeExpr.ownershipProblem?, TypeExpr.loans, openProblem?_append, openProblem?_append,
      self.ownershipProblem?_eq, via.ownershipProblem?_eq, ownershipProblemOfSegments?_eq]
  | .function _ | .never | .infer | .invocation _ _ | .verbatim _ => rfl

theorem ownershipProblemOfTypes?_eq : (ts : List TypeExpr) →
    ownershipProblemOfTypes? ts = openProblem? (loansOfTypes ts)
  | [] => rfl
  | t :: rest => by
    rw [ownershipProblemOfTypes?, loansOfTypes, openProblem?_append, t.ownershipProblem?_eq,
      ownershipProblemOfTypes?_eq rest]

theorem PathExpr.ownershipProblem?_eq (whole : String) : (p : PathExpr) →
    p.ownershipProblem? whole = openProblem? (p.loans whole)
  | .mk _ segments => ownershipProblemOfSegments?_eq whole segments

theorem ownershipProblemOfSegments?_eq (whole : String) : (ss : List Segment) →
    ownershipProblemOfSegments? whole ss = openProblem? (loansOfSegments whole ss)
  | [] => rfl
  | s :: rest => by
    rw [ownershipProblemOfSegments?, loansOfSegments, openProblem?_append,
      s.ownershipProblem?_eq whole, ownershipProblemOfSegments?_eq whole rest]

theorem Segment.ownershipProblem?_eq (whole : String) : (s : Segment) →
    s.ownershipProblem? whole = openProblem? (s.loans whole)
  | .mk _ args => args.ownershipProblem?_eq whole

theorem Arguments.ownershipProblem?_eq (whole : String) : (args : Arguments) →
    args.ownershipProblem? whole = openProblem? (args.loans whole)
  | .angle _ args _ => ownershipProblemOfArguments?_eq whole args
  | .signature _ | .none => rfl

theorem ownershipProblemOfArguments?_eq (whole : String) : (args : List Argument) →
    ownershipProblemOfArguments? whole args = openProblem? (loansOfArguments whole args)
  | [] => rfl
  | a :: rest => by
    rw [ownershipProblemOfArguments?, loansOfArguments, openProblem?_append,
      a.ownershipProblem?_eq whole, ownershipProblemOfArguments?_eq whole rest]

theorem Argument.ownershipProblem?_eq (whole : String) : (a : Argument) →
    a.ownershipProblem? whole = openProblem? (a.loans whole)
  | .lifetime name => by
    rw [Argument.ownershipProblem?, Argument.loans, loansOfLifetime]
    split
    · rfl
    · rfl
  | .type t => t.ownershipProblem?_eq
  | .const _ => rfl
  | .binding _ _ | .constBinding _ _ | .constraint _ _ _ => by
    rw [Argument.ownershipProblem?, Argument.loans, openProblem?_hide]

end

/-! ## Types that hide nothing -/

mutual

/-- The type has no object in it, and no generic argument that binds or constrains something. -/
def TypeExpr.isPlain : TypeExpr → Bool
  | .reference _ _ elem => elem.isPlain
  | .paren elem => elem.isPlain
  | .group elem => elem.isPlain
  | .slice elem => elem.isPlain
  | .array elem _ => elem.isPlain
  | .pointer _ elem => elem.isPlain
  | .tuple elems _ => arePlainTypes elems
  | .path p => p.isPlain
  | .qualified self rest => self.isPlain && arePlainSegments rest
  | .projected self via rest => self.isPlain && (via.isPlain && arePlainSegments rest)
  | .object _ _ _ => false
  | .implement _ _ => true
  | .function _ => true
  | .never => true
  | .infer => true
  | .invocation _ _ => true
  | .verbatim _ => true

def arePlainTypes : List TypeExpr → Bool
  | [] => true
  | t :: rest => t.isPlain && arePlainTypes rest

def PathExpr.isPlain : PathExpr → Bool
  | .mk _ segments => arePlainSegments segments

def arePlainSegments : List Segment → Bool
  | [] => true
  | s :: rest => s.isPlain && arePlainSegments rest

def Segment.isPlain : Segment → Bool
  | .mk _ args => args.isPlain

def Arguments.isPlain : Arguments → Bool
  | .angle _ args _ => arePlainArguments args
  | .signature _ => true
  | .none => true

def arePlainArguments : List Argument → Bool
  | [] => true
  | a :: rest => a.isPlain && arePlainArguments rest

def Argument.isPlain : Argument → Bool
  | .lifetime _ => true
  | .type t => t.isPlain
  | .const _ => true
  | .binding _ _ => false
  | .constBinding _ _ => false
  | .constraint _ _ _ => false

end

/-- If there are loans then one of them is in the open. -/
def Shown (loans : List Loan) : Prop := openProblem? loans = none → loans = []

theorem shown_nil : Shown [] := fun _ => rfl

theorem shown_open (problem : OwnershipProblem) (loans : List Loan) :
    Shown (⟨problem, false⟩ :: loans) := nofun

theorem Shown.append {loans loans' : List Loan} (h : Shown loans) (h' : Shown loans') :
    Shown (loans ++ loans') := by
  intro hnone
  rw [openProblem?_append, Option.or_eq_none_iff] at hnone
  rw [h hnone.1, h' hnone.2, List.append_nil]

theorem shown_loansOfLifetime (whole name : String) : Shown (loansOfLifetime whole name) := by
  unfold loansOfLifetime
  split
  · exact shown_nil
  · exact shown_open _ _

mutual

theorem TypeExpr.shown_loans : (t : TypeExpr) → t.isPlain = true → Shown t.loans
  | .reference _ _ elem, h => by
    rw [TypeExpr.loans]
    split
    · exact elem.shown_loans h
    · exact shown_open _ _
  | .implement _ _, _ => by
    rw [TypeExpr.loans]
    exact shown_open _ _
  | .paren elem, h | .group elem, h | .slice elem, h | .array elem _, h | .pointer _ elem, h => by
    rw [TypeExpr.isPlain] at h
    rw [TypeExpr.loans]
    exact elem.shown_loans h
  | .tuple elems _, h => by
    rw [TypeExpr.isPlain] at h
    rw [TypeExpr.loans]
    exact shown_loansOfTypes elems h
  | .path p, h => by
    rw [TypeExpr.isPlain] at h
    rw [TypeExpr.loans]
    exact p.shown_loans p.text h
  | .qualified self rest, h => by
    rw [TypeExpr.isPlain, Bool.and_eq_true] at h
    rw [TypeExpr.loans]
    exact (self.shown_loans h.1).append (shown_loansOfSegments _ rest h.2)
  | .projected self via rest, h => by
    rw [TypeExpr.isPlain, Bool.and_eq_true, Bool.and_eq_true] at h
    rw [TypeExpr.loans]
    exact (self.shown_loans h.1).append
      ((via.shown_loans _ h.2.1).append (shown_loansOfSegments _ rest h.2.2))
  | .function _, _ | .never, _ | .infer, _ | .invocation _ _, _ | .verbatim _, _ => shown_nil

theorem shown_loansOfTypes : (ts : List TypeExpr) → arePlainTypes ts = true →
    Shown (loansOfTypes ts)
  | [], _ => shown_nil
  | t :: rest, h => by
    rw [arePlainTypes, Bool.and_eq_true] at h
    exact (t.shown_loans h.1).append (shown_loansOfTypes rest h.2)

theorem PathExpr.shown_loans (whole : String) : (p : PathExpr) → p.isPlain = true →
    Shown (p.loans whole)
  | .mk _ segments, h => shown_loansOfSegments whole segments h

theorem shown_loansOfSegments (whole : String) : (ss : List Segment) →
    arePlainSegments ss = true → Shown (loansOfSegments whole ss)
  | [], _ => shown_nil
  | s :: rest, h => by
    rw [arePlainSegments, Bool.and_eq_true] at h
    exact (s.shown_loans whole h.1).append (shown_loansOfSegments whole rest h.2)

theorem Segment.shown_loans (whole : String) : (s : Segment) → s.isPlain = true →
    Shown (s.loans whole)
  | .mk _ args, h => args.shown_loans whole h

theorem Arguments.shown_loans (whole : String) : (args : Arguments) → args.isPlain = true →
    Shown (args.loans whole)
  | .angle _ args _, h => shown_loansOfArguments whole args h
  | .signature _, _ | .none, _ => shown_nil

theorem shown_loansOfArguments (whole : String) : (args : List Argument) →
    arePlainArguments args = true → Shown (loansOfArguments whole args)
  | [], _ => shown_nil
  | a :: rest, h => by
    rw [arePlainArguments, Bool.and_eq_true] at h
    exact (a.shown_loans whole h.1).append (shown_loansOfArguments whole rest h.2)

theorem Argument.shown_loans (whole : String) : (a : Argument) → a.isPlain = true →
    Shown (a.loans whole)
  | .lifetime name, _ => shown_loansOfLifetime whole name
  | .type t, h => t.shown_loans h
  | .const _, _ => shown_nil

end

/-! ## Parameters -/

theorem Declared.Param.unsupported_of_plan {t : Transport} {p : Param} {q : PlannedParam}
    (h : p.plan t = .ok q) : p.unsupported = none := by
  unfold plan at h
  split at h
  · cases h
  · assumption

theorem Declared.Interface.supported_of_no_problems {i : Interface} {t : Transport}
    (h : (Registry.ofInterface i).paramProblems t = []) :
    ∀ m ∈ i.methods, ∀ p ∈ m.params, p.unsupported = none := by
  rw [Registry.paramProblems, List.flatMap_eq_nil_iff] at h
  have hmethods : (Registry.ofInterface i).methods.map Registered.method = i.methods :=
    Registry.map_method_number
  rw [← hmethods, List.forall_mem_map]
  intro m hm p hp
  obtain ⟨q, hq⟩ := Registered.paramProblem?_eq_none.1 (List.filterMap_eq_nil_iff.1 (h m hm) p hp)
  exact Param.unsupported_of_plan hq

namespace Source

variable {known : KnownTypes}

theorem Item.supported_of_accepted {item : Item} {transport : Transport} {runtime : PathExpr}
    {o : Generated} (h : (item.lower known transport).generate runtime = .accepted o) :
    ∀ s ∈ item.signatures, ∀ p ∈ (s.lower known).params, p.unsupported = none := by
  obtain ⟨i, hcontent, hmethods⟩ := Item.interface_of_accepted h
  obtain ⟨hproblems, -⟩ := Declaration.accepted_of_generate hcontent h
  simp only [Declared.Interface.problems, List.append_eq_nil_iff] at hproblems
  have hsupported := Declared.Interface.supported_of_no_problems hproblems.1.1.2
  rw [hmethods, List.forall_mem_map] at hsupported
  exact hsupported

/-- A parameter is marked for the first loan of its type that is not hidden, so one without a mark
has hidden loans only, and if its type hides nothing it owns all that it holds.  The parameters of an
item for which there is code are without marks. -/
theorem Param.unsupported_lower (p : Param) (known : KnownTypes) (index : Nat) :
    (p.lower known index).unsupported =
      (openProblem? p.type.loans).map OwnershipProblem.message ∧
    ((p.lower known index).unsupported = none ↔ ∀ loan ∈ p.type.loans, loan.isHidden = true) ∧
    (p.type.isPlain = true → ((p.lower known index).unsupported = none ↔ p.type.loans = [])) ∧
    ∀ (item : Item) (transport : Transport) (runtime : PathExpr) (o : Generated),
      (item.lower known transport).generate runtime = .accepted o →
        ∀ s ∈ item.signatures, p ∈ s.params → (p.lower known index).unsupported = none := by
  have hmark : (p.lower known index).unsupported =
      (openProblem? p.type.loans).map OwnershipProblem.message := by
    rw [lower, p.type.ownershipProblem?_eq]
  have hnone : (p.lower known index).unsupported = none ↔ openProblem? p.type.loans = none := by
    rw [hmark, Option.map_eq_none_iff]
  refine ⟨hmark, hnone.trans openProblem?_eq_none, fun hplain => ?_, ?_⟩
  · constructor
    · intro hunmarked
      exact p.type.shown_loans hplain (hnone.1 hunmarked)
    · intro hloans
      rw [hnone, hloans, openProblem?_nil]
  · intro item transport runtime o haccepted s hs hp
    obtain ⟨k, hk, rfl⟩ := List.mem_iff_getElem.1 hp
    -- The mark does not depend on the place of the parameter.
    have hunmarked : (s.params[k].lower known k).unsupported = none :=
      Item.supported_of_accepted haccepted s hs _ (List.mem_mapIdx.2 ⟨k, hk, rfl⟩)
    exact hunmarked

end Source

namespace Sample

/-- A trait with one method that takes a value of a type. -/
def showing (type : TypeExpr) : Source.Item where
  content := .trait ⟨⟨"Show", none⟩, .inherited, false, [.method ⟨⟨"show", none⟩, false, false,
    false, some ⟨true, false⟩, [⟨some "value", type, none⟩], none⟩]⟩
  position := none

/-- A list of texts that are kept for the whole run. -/
def lasting : TypeExpr :=
  .path (.mk false [.mk "Vec" (.angle false
    [.type (.reference (some "static") false (.path (.ofNames false ["str"])))] false)])

/-- A box of something that borrows, as only the bounds of an object say. -/
def shaded : TypeExpr :=
  .path (.mk false [.mk "Box" (.angle false
    [.type (.object true [.trait false [] (.ofNames false ["Display"]), .lifetime "_"] false)]
    false)])

end Sample

namespace Source.Param

open Sample

theorem unsupported_lower_lasting : ∃ o, ((showing lasting).lower .none .sameProcess).generate
    Declaration.defaultRuntime = .accepted o ∧ lasting.isPlain = true ∧ lasting.loans = [] := by
  have haccepted : (((showing lasting).lower .none .sameProcess).generate
      Declaration.defaultRuntime).output?.isSome = true := by
    decide +kernel
  obtain ⟨o, ho⟩ := Option.isSome_iff_exists.1 haccepted
  rw [Generation.output?_eq_some] at ho
  obtain ⟨-, -, howns, hcode⟩ := unsupported_lower ⟨some "value", lasting, none⟩ .none 0
  have hunmarked := hcode (showing lasting) .sameProcess Declaration.defaultRuntime o ho _
    List.mem_cons_self List.mem_cons_self
  have hplain : lasting.isPlain = true := by decide
  exact ⟨o, ho, hplain, (howns hplain).1 hunmarked⟩

/-- A parameter that borrows goes unmarked. -/
theorem borrows_shaded : shaded.loans = [⟨.borrowsFor "dyn Display + '_" "_", true⟩] ∧
    (lower .none ⟨some "value", shaded, none⟩ 0).unsupported = none :=
  ⟨rfl, rfl⟩

end Source.Param

end Relay
