import Relay.Proofs.Wire.RoundTrip

/-!
# Comparing data after the round trip

Decoding gives the data back bit for bit.  To compare them with what was sent is another matter:
floating-point numbers are compared by value, and a NaN is not the same as itself.  So the comparison
of a payload with itself fails for a NaN, at whatever depth it is, and for nothing else.
-/

namespace Relay

/-! ## NaN in payloads -/

/-- A NaN stands in one of the five carriers of floating-point numbers, either in the payload itself
or in a field of one of its records. -/
inductive Payload.HoldsNaN : Payload → Prop
  | float {x : Binary32} (h : x.isNaN = true) : HoldsNaN (.scalar .float x)
  | double {x : Binary64} (h : x.isNaN = true) : HoldsNaN (.scalar .double x)
  | floatArray {xs : List Binary32} {x : Binary32} (hx : x ∈ xs) (h : x.isNaN = true) :
    HoldsNaN (.scalarArray .float xs)
  | doubleArray {xs : List Binary64} {x : Binary64} (hx : x ∈ xs) (h : x.isNaN = true) :
    HoldsNaN (.scalarArray .double xs)
  | sizeF {s : SizeF} (h : s.width.isNaN = true ∨ s.height.isNaN = true) : HoldsNaN (.sizeF s)
  | field {p : Payload} {r : Record} {e : String × Payload} (hr : r ∈ p.records)
    (he : e ∈ r.fields.entries) (h : HoldsNaN e.2) : HoldsNaN p

/-- A NaN stands in a field of the record, at some depth. -/
def Record.HoldsNaN (r : Record) : Prop := ∃ e ∈ r.fields.entries, e.2.HoldsNaN

/-- A NaN stands in an entry of the bundle, at some depth. -/
def Bundle.HoldsNaN (b : Bundle) : Prop := ∃ e ∈ b.entries, e.2.HoldsNaN

/-! ## A payload compared with itself -/

/-- Lists are compared element by element, so a list is the same as itself if its elements are. -/
theorem sameList_self {α : Type} (same : α → α → Bool) (xs : List α) :
    sameList same xs xs = true ↔ ∀ x ∈ xs, same x x = true := by
  induction xs with
  | nil => simp [sameList]
  | cons x rest ih => rw [sameList, Bool.and_eq_true, ih, List.forall_mem_cons]

theorem sameRecords_self (rs : List Record) :
    sameRecords rs rs = true ↔ ∀ r ∈ rs, r.sameValue r = true := by
  induction rs with
  | nil => simp [sameRecords]
  | cons r rest ih => rw [sameRecords, Bool.and_eq_true, ih, List.forall_mem_cons]

theorem sameFields_self (es : List (String × Payload)) :
    sameFields es es = true ↔ ∀ e ∈ es, e.2.sameValue e.2 = true := by
  induction es with
  | nil => simp [sameFields]
  | cons e rest ih =>
    rw [sameFields, Bool.and_eq_true, Bool.and_eq_true, ih, List.forall_mem_cons, beq_self_eq_true]
    simp only [true_and]

theorem sameSparse_self (es : List (Int32 × Record)) :
    sameSparse es es = true ↔ ∀ e ∈ es, e.2.sameValue e.2 = true := by
  induction es with
  | nil => simp [sameSparse]
  | cons e rest ih =>
    rw [sameSparse, Bool.and_eq_true, Bool.and_eq_true, ih, List.forall_mem_cons, beq_self_eq_true]
    simp only [true_and]

namespace Payload

theorem sameValue_scalar (kind : ScalarKind) (x : kind.Carrier) :
    (scalar kind x).sameValue (scalar kind x) = kind.sameValue x x := by
  rw [sameValue, dif_pos rfl]

theorem sameValue_scalarArray (kind : ScalarKind) (xs : List kind.Carrier) :
    (scalarArray kind xs).sameValue (scalarArray kind xs) = sameList kind.sameValue xs xs := by
  rw [sameValue, dif_pos rfl]

theorem holdsNaN_scalar_iff (kind : ScalarKind) (x : kind.Carrier) :
    (scalar kind x).HoldsNaN ↔ kind.sameValue x x = false := by
  constructor
  · intro h
    cases h with
    | float h => rw [ScalarKind.sameValue, Binary32.sameValue_self, h, Bool.not_true]
    | double h => rw [ScalarKind.sameValue, Binary64.sameValue_self, h, Bool.not_true]
    | field hr => cases hr
  · intro h
    cases kind with
    | float =>
      rw [ScalarKind.sameValue, Binary32.sameValue_self, Bool.not_eq_false'] at h
      exact .float h
    | double =>
      rw [ScalarKind.sameValue, Binary64.sameValue_self, Bool.not_eq_false'] at h
      exact .double h
    | _ => simp [ScalarKind.sameValue] at h

theorem holdsNaN_scalarArray_iff (kind : ScalarKind) (xs : List kind.Carrier) :
    (scalarArray kind xs).HoldsNaN ↔ ∃ x ∈ xs, (scalar kind x).HoldsNaN := by
  constructor
  · intro h
    cases h with
    | floatArray hx h => exact ⟨_, hx, .float h⟩
    | doubleArray hx h => exact ⟨_, hx, .double h⟩
    | field hr => cases hr
  · rintro ⟨x, hx, h⟩
    cases h with
    | float h => exact .floatArray hx h
    | double h => exact .doubleArray hx h
    | field hr => cases hr

theorem holdsNaN_sizeF_iff (s : SizeF) : (sizeF s).HoldsNaN ↔ s.sameValue s = false := by
  rw [SizeF.sameValue, Binary32.sameValue_self, Binary32.sameValue_self, ← Bool.not_or,
    Bool.not_eq_false', Bool.or_eq_true]
  constructor
  · intro h
    cases h with
    | sizeF h => exact h
    | field hr => cases hr
  · exact .sizeF

/-- The categories of the payloads that hold floating-point numbers outside of records. -/
def floatingCategories : List Category :=
  [.scalar .float, .scalar .double, .scalarArray .float, .scalarArray .double, .sizeF]

theorem holdsNaN_iff_records {p : Payload} (h : floatingCategories.contains p.category = false) :
    p.HoldsNaN ↔ ∃ r ∈ p.records, r.HoldsNaN := by
  constructor
  · intro hnan
    cases hnan with
    | field hr he hnan => exact ⟨_, hr, _, he, hnan⟩
    | _ => cases h
  · rintro ⟨r, hr, e, he, hnan⟩
    exact .field hr he hnan

end Payload

/-- A payload is the same as itself unless a NaN stands in it. -/
theorem sameValue_self :
    (∀ p : Payload, p.sameValue p = true ↔ ¬ p.HoldsNaN) ∧
      ∀ r : Record, r.sameValue r = true ↔ ¬ r.HoldsNaN := by
  apply Payload.nested_induction
  · intro p ih
    cases p with
    | scalar kind x =>
      rw [Payload.sameValue_scalar, Payload.holdsNaN_scalar_iff, Bool.not_eq_false]
    | scalarArray kind xs =>
      rw [Payload.sameValue_scalarArray, sameList_self, Payload.holdsNaN_scalarArray_iff]
      simp only [Payload.holdsNaN_scalar_iff, not_exists, not_and, Bool.not_eq_false]
    | sizeF s => rw [Payload.sameValue, Payload.holdsNaN_sizeF_iff, Bool.not_eq_false]
    | record r =>
      rw [Payload.sameValue, ih r (List.mem_singleton.2 rfl), Payload.holdsNaN_iff_records rfl]
      simp only [Payload.records, List.mem_singleton, exists_eq_left]
    | recordArray rs | recordList rs =>
      rw [Payload.sameValue, sameRecords_self, Payload.holdsNaN_iff_records rfl]
      simp only [not_exists, not_and]
      exact forall₂_congr ih
    | sparseRecords es =>
      rw [Payload.sameValue, sameSparse_self, Payload.holdsNaN_iff_records rfl]
      simp only [not_exists, not_and, Payload.records, List.forall_mem_map]
      exact forall₂_congr fun e he => ih e.2 (List.mem_map_of_mem he)
    | _ =>
      rw [Payload.sameValue, Payload.holdsNaN_iff_records rfl]
      simp [Payload.records]
  · intro name fields ih
    unfold Record.HoldsNaN
    rw [Record.sameValue, beq_self_eq_true, Bool.true_and, sameFields_self]
    simp only [not_exists, not_and]
    exact forall₂_congr ih

theorem Bundle.sameValue_self (b : Bundle) : b.sameValue b = true ↔ ¬ b.HoldsNaN := by
  unfold sameValue HoldsNaN
  rw [sameFields_self]
  simp only [not_exists, not_and]
  exact forall₂_congr fun e _ => Relay.sameValue_self.1 e.2

/-! ## Data of envelopes -/

/-- Equality of what envelopes carry, with floating-point numbers compared by value. -/
def sameData : Option Bundle → Option Bundle → Bool
  | none, none => true
  | some a, some b => a.sameValue b
  | _, _ => false

theorem sameData_self (data : Option Bundle) :
    sameData data data = true ↔ ¬ ∃ b, data = some b ∧ b.HoldsNaN := by
  cases data with
  | none => simp [sameData]
  | some b => simp [sameData, b.sameValue_self]

namespace Envelope

variable {U : Universe}

/-- What an envelope carries is equal to itself after the round trip exactly when no NaN stands
anywhere in it. -/
theorem sameData_decode {e : Envelope U} {bytes : List UInt8} (hcanonical : e.Canonical)
    (h : e.encode = .ok bytes) :
    ∃ f : Frame, Frame.decode bytes = .ok f ∧
      (sameData f.data e.data? = true ↔ ¬ ∃ b, e.data? = some b ∧ b.HoldsNaN) := by
  obtain ⟨f, hdecode, -, -, hexact⟩ := decode_encode h
  have hdata : f.data = e.data? := by
    rw [← hexact hcanonical, data?_ofFrame]
  refine ⟨f, hdecode, ?_⟩
  rw [hdata, sameData_self]

/-- A list of records, in one of which a sparse map has a record with a NaN. -/
def buried : Envelope Sample.types :=
  .withData 7 ⟨[("l", .recordList [.mk "L" [("s", .sparseRecords
    [(-1, .mk "P" [("z", .scalar .double ⟨0x7ff0000000000001⟩)])])]])]⟩

theorem sameData_decode_buried :
    buried.Canonical ∧ ∃ bytes, buried.encode = .ok bytes ∧
      ∃ f : Frame, Frame.decode bytes = .ok f ∧ sameData f.data buried.data? = false := by
  have hcanonical : buried.Canonical := by
    rintro b ⟨rfl⟩
    simp [Bundle.Canonical, CanonicalFields, Payload.Canonical, CanonicalRecords, CanonicalSparse,
      Record.Canonical, Entries.Ordered]
  have h : buried.encode = .ok [0x52, 7, 0, 0, 0, 0x50, 1, 0, 0, 0,
      1, 0, 0, 0, 0x6c, 0x33, 1, 0, 0, 0, 1, 0, 0, 0, 0x4c, 1, 0, 0, 0,
      1, 0, 0, 0, 0x73, 0x34, 1, 0, 0, 0, 255, 255, 255, 255, 1, 0, 0, 0, 0x50, 1, 0, 0, 0,
      1, 0, 0, 0, 0x7a, 0x06, 1, 0, 0, 0, 0, 0, 0xf0, 0x7f] := rfl
  obtain ⟨f, hf, hsame⟩ := sameData_decode hcanonical h
  have hnan : (⟨0x7ff0000000000001⟩ : Binary64).isNaN = true := by decide
  have hholds : ∃ b, buried.data? = some b ∧ b.HoldsNaN := by
    refine ⟨_, rfl, _, List.mem_cons_self, .field List.mem_cons_self List.mem_cons_self ?_⟩
    exact .field List.mem_cons_self List.mem_cons_self (.double hnan)
  refine ⟨hcanonical, _, h, f, hf, ?_⟩
  rw [← Bool.not_eq_true, hsame]
  exact not_not_intro hholds

end Envelope

end Relay
