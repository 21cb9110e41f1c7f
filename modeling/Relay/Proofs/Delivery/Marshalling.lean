import Relay.Delivery.Interface
import Relay.Proofs.Lists
import Relay.Proofs.Value.Accessors

/-!
# Arguments in a bundle

The arguments of a call are written one after the other, each under the name of its parameter, and
are read back in the same order.  When the names are distinct no argument lands on another, so what
is read back are the arguments that were written.

The induction is on the parameters, with the bundle so far general: what the later parameters write
leaves every name but their own as it was (`find?_marshal`), so the first parameter finds what it
has put there.
-/

namespace Relay

variable {U : Universe}

/-! ## The slots of types -/

namespace ArgType

variable (U) in
/-- The declared types that a type mentions obey the laws of the protocol in which their values
travel.  A type that takes part in both protocols travels as a record. -/
def Lawful : ArgType U.Name → Prop
  | declared name =>
    (∀ inst, U.record? name = some inst → @Recordable.Lawful _ inst) ∧
      (U.record? name = none → ∀ inst, U.serial? name = some inst → @Serializable.Lawful _ inst)
  | array elem => Lawful elem
  | list elem => Lawful elem
  | sparse elem => Lawful elem
  | _ => True

variable (U) in
/-- The value travels by its byte form and has none. -/
def Unwritable : (t : ArgType U.Name) → Val U t → Prop
  | declared name, v =>
    U.record? name = none ∧
      ∃ inst, U.serial? name = some inst ∧ ∃ reason, inst.write v = .error reason
  | _, _ => False

/-- The slot of a type is faithful, and only a value without a byte form is refused. -/
theorem slot?_faithful {t : ArgType U.Name} {slot : Slot (Val U t)} (h : slot? U t = some slot)
    (ht : t.Lawful U) : slot.Faithful (Unwritable U t) := by
  cases t with
  | scalar kind =>
    cases h
    exact (Accessor.scalar kind).faithful trivial
  | text | charSeq | handle | size | sizeF =>
    cases h
    exact .total _ (fun _ => rfl) (fun _ => trivial) (fun _ => rfl)
  | array elem =>
    cases elem with
    | scalar kind =>
      cases h
      exact (Accessor.scalarArray kind).faithful trivial
    | text =>
      cases h
      exact Accessor.textArray.faithful trivial
    | charSeq =>
      cases h
      exact Accessor.charSeqArray.faithful trivial
    | declared name =>
      obtain ⟨inst, hinst, rfl⟩ := Option.map_eq_some_iff.1 h
      exact (@Accessor.recordArray _ inst).faithful (ht.1 inst hinst)
    | _ => cases h
  | list elem =>
    cases elem with
    | scalar kind =>
      cases kind with
      | int =>
        cases h
        exact Accessor.intList.faithful trivial
      | _ => cases h
    | text =>
      cases h
      exact Accessor.textList.faithful trivial
    | charSeq =>
      cases h
      exact Accessor.charSeqList.faithful trivial
    | declared name =>
      obtain ⟨inst, hinst, rfl⟩ := Option.map_eq_some_iff.1 h
      exact (@Accessor.recordList _ inst).faithful (ht.1 inst hinst)
    | _ => cases h
  | sparse elem =>
    cases elem with
    | declared name =>
      obtain ⟨inst, hinst, rfl⟩ := Option.map_eq_some_iff.1 h
      exact (@Accessor.sparseRecords _ inst).faithful (ht.1 inst hinst)
    | _ => cases h
  | declared name =>
    simp only [slot?] at h
    cases hrecord : U.record? name with
    | some inst =>
      rw [hrecord] at h
      cases h
      refine ((@Accessor.record _ inst).faithful (ht.1 inst hrecord)).congr fun v => ?_
      simp [Accessor.Refuses, Unwritable, hrecord]
    | none =>
      rw [hrecord] at h
      obtain ⟨inst, hinst, rfl⟩ := Option.map_eq_some_iff.1 h
      refine ((@Accessor.serializable _ inst).faithful (ht.2 hrecord inst hinst)).congr fun v => ?_
      simp [Accessor.Refuses, Unwritable, hrecord, hinst]

end ArgType

/-! ## Interfaces with slots -/

theorem mem_of_numbered? {α : Type} {xs : List α} {id : UInt32} {x : α}
    (h : numbered? xs id = some x) : x ∈ xs := by
  unfold numbered? at h
  split at h
  · cases h
  · exact List.mem_of_getElem? h

/-- Every value of the parameter is kept in the slot of its type. -/
def SlotParam.Proper (p : SlotParam U) : Prop := ArgType.slot? U p.type = some p.slot

theorem Interface.proper_of_slot? {i : Interface U} {s : SlotInterface U} (h : i.slot? = some s) :
    ∀ m ∈ s.methods, ∀ p ∈ m.params, p.Proper := by
  obtain ⟨methods, hmethods, rfl⟩ := Option.map_eq_some_iff.1 h
  intro m hm p hp
  obtain ⟨method, -, hmethod⟩ := mem_of_mapM_eq_some hmethods m hm
  obtain ⟨params, hparams, rfl⟩ := Option.map_eq_some_iff.1 hmethod
  obtain ⟨param, -, hparam⟩ := mem_of_mapM_eq_some hparams p hp
  obtain ⟨slot, hslot, rfl⟩ := Option.map_eq_some_iff.1 hparam
  exact hslot

/-! ## Writing and reading arguments -/

/-- One of the values travels by its byte form and has none. -/
def Tuple.Unwritable : (types : List (ArgType U.Name)) → Tuple U types → Prop
  | [], _ => False
  | t :: rest, values => t.Unwritable U values.1 ∨ Tuple.Unwritable rest values.2

theorem marshal_cons {p : SlotParam U} {rest : List (SlotParam U)}
    {args : Tuple U ((p :: rest).map SlotParam.type)} {b : Bundle} :
    marshal (p :: rest) args b =
      (p.slot.write args.1).bind fun q => marshal rest args.2 (b.insert p.name q) := by
  change (b.put p.slot p.name args.1).bind (marshal rest args.2) = _
  unfold Bundle.put
  cases p.slot.write args.1 <;> rfl

theorem marshal_cons_eq_ok {p : SlotParam U} {rest : List (SlotParam U)}
    {args : Tuple U ((p :: rest).map SlotParam.type)} {b b' : Bundle} :
    marshal (p :: rest) args b = .ok b' ↔
      ∃ q, p.slot.write args.1 = .ok q ∧ marshal rest args.2 (b.insert p.name q) = .ok b' := by
  rw [marshal_cons]
  cases p.slot.write args.1 with
  | ok q =>
    simp [Except.bind]
  | error e => simp [Except.bind]

/-- Arguments leave what stands under other names as it was. -/
theorem find?_marshal {params : List (SlotParam U)} {args : Tuple U (params.map SlotParam.type)}
    {b b' : Bundle} {key : String} (hkey : key ∉ params.map SlotParam.name)
    (h : marshal params args b = .ok b') : b'.find? key = b.find? key := by
  induction params generalizing b with
  | nil =>
    cases h
    rfl
  | cons p rest ih =>
    obtain ⟨q, -, hrest⟩ := marshal_cons_eq_ok.1 h
    rw [List.map_cons, List.mem_cons, not_or] at hkey
    rw [ih hkey.2 hrest, Bundle.find?_insert, if_neg hkey.1]

section Faithful

variable {params : List (SlotParam U)} {args : Tuple U (params.map SlotParam.type)}
  {b b' : Bundle}

theorem canonical_marshal (hparams : ∀ p ∈ params, p.slot.Faithful (p.type.Unwritable U))
    (hb : b.Canonical) (h : marshal params args b = .ok b') : b'.Canonical := by
  induction params generalizing b with
  | nil =>
    cases h
    exact hb
  | cons p rest ih =>
    rw [List.forall_mem_cons] at hparams
    obtain ⟨q, hwrite, hrest⟩ := marshal_cons_eq_ok.1 h
    exact ih hparams.2 (hb.insert (hparams.1.canonical _ q hwrite) p.name) hrest

/-- What was written under distinct names is read back. -/
theorem unmarshal_of_marshal (hparams : ∀ p ∈ params, p.slot.Faithful (p.type.Unwritable U))
    (hnames : (params.map SlotParam.name).Nodup) (h : marshal params args b = .ok b') :
    unmarshal params b' = .ok args := by
  induction params generalizing b with
  | nil => rfl
  | cons p rest ih =>
    rw [List.forall_mem_cons] at hparams
    rw [List.map_cons, List.nodup_cons] at hnames
    obtain ⟨q, hwrite, hrest⟩ := marshal_cons_eq_ok.1 h
    have hfind : b'.find? p.name = some q := by
      rw [find?_marshal hnames.1 hrest, Bundle.find?_insert, if_pos rfl]
    have hfirst := Bundle.fetch_of_find? hfind (hparams.1.read_write _ q hwrite)
    rw [unmarshal, hfirst, ih hparams.2 hnames.2 hrest]
    rfl

/-- Arguments are refused exactly when one of them has no byte form. -/
theorem marshal_eq_error_iff (hparams : ∀ p ∈ params, p.slot.Faithful (p.type.Unwritable U)) :
    (∃ e, marshal params args b = .error e) ↔ Tuple.Unwritable _ args := by
  induction params generalizing b with
  | nil => exact ⟨fun ⟨_, h⟩ => (nomatch h), False.elim⟩
  | cons p rest ih =>
    rw [List.forall_mem_cons] at hparams
    have hfirst := hparams.1.refuses args.1
    rw [marshal_cons]
    cases hwrite : p.slot.write args.1 with
    | ok q =>
      have hwritable : ¬ p.type.Unwritable U args.1 := by simp [← hfirst, hwrite]
      exact (ih hparams.2).trans (or_iff_right hwritable).symm
    | error e =>
      have hunwritable : p.type.Unwritable U args.1 := hfirst.1 ⟨e, hwrite⟩
      exact ⟨fun _ => .inl hunwritable, fun _ => ⟨e, rfl⟩⟩

end Faithful

end Relay
