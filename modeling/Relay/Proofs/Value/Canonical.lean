import Relay.Proofs.Value.Ordered
import Relay.Value.Payload

/-!
# Canonical payloads

Payloads nest through records, in four ways.  `Payload.records` is the list of the records that a
payload holds at once, and `Payload.nested_induction` is the induction that goes with it: a property
of payloads and one of records hold everywhere if each passes from the records of a payload to the
payload and from the fields of a record to the record.  The functions and predicates on nested lists
are first brought into the form of `List.map` and of a quantifier over members, so that no later
proof has to take them apart again.

`canonical` puts every level in order.  Its results are `Canonical`, and it leaves what is
`Canonical` alone.
-/

namespace Relay

/-- The records that a payload holds directly. -/
def Payload.records : Payload → List Record
  | .record r => [r]
  | .recordArray rs => rs
  | .recordList rs => rs
  | .sparseRecords es => es.map Prod.snd
  | _ => []

section Induction

set_option linter.unusedSectionVars false

variable {P : Payload → Prop} {R : Record → Prop}
  (payload : ∀ p, (∀ r ∈ p.records, R r) → P p)
  (record : ∀ name fields, (∀ e ∈ fields, P e.2) → R (.mk name fields))

include payload record

mutual

private theorem nested_payload : (p : Payload) → P p
  | .record r => payload _ (List.forall_mem_singleton.2 (nested_record r))
  | .recordArray rs => payload _ (nested_records rs)
  | .recordList rs => payload _ (nested_records rs)
  | .sparseRecords es => payload _ (List.forall_mem_map.2 (nested_sparse es))
  | .scalar _ _ | .text _ | .charSeq _ | .handle _ | .serialized _ | .scalarArray _ _
  | .textArray _ | .charSeqArray _ | .intList _ | .textList _ | .charSeqList _ | .size _
  | .sizeF _ => payload _ (List.forall_mem_nil _)

private theorem nested_record : (r : Record) → R r
  | .mk name fields => record name fields (nested_fields fields)

private theorem nested_records : (rs : List Record) → ∀ r ∈ rs, R r
  | [] => List.forall_mem_nil _
  | r :: rest => List.forall_mem_cons.2 ⟨nested_record r, nested_records rest⟩

private theorem nested_fields : (es : List (String × Payload)) → ∀ e ∈ es, P e.2
  | [] => List.forall_mem_nil _
  | (_, p) :: rest => List.forall_mem_cons.2 ⟨nested_payload p, nested_fields rest⟩

private theorem nested_sparse : (es : List (Int32 × Record)) → ∀ e ∈ es, R e.2
  | [] => List.forall_mem_nil _
  | (_, r) :: rest => List.forall_mem_cons.2 ⟨nested_record r, nested_sparse rest⟩

end

theorem Payload.nested_induction : (∀ p, P p) ∧ ∀ r, R r :=
  ⟨nested_payload payload record, nested_record payload record⟩

end Induction

/-! ## Lists of records and fields -/

theorem canonicalRecords_eq_map (rs : List Record) :
    canonicalRecords rs = rs.map Record.canonical := by
  induction rs with
  | nil => rfl
  | cons r rest ih => rw [canonicalRecords, ih, List.map_cons]

theorem canonicalFields_eq_map (es : List (String × Payload)) :
    canonicalFields es = es.map fun e => (e.1, e.2.canonical) := by
  induction es with
  | nil => rfl
  | cons e rest ih => rw [canonicalFields, ih, List.map_cons]

theorem canonicalSparse_eq_map (es : List (Int32 × Record)) :
    canonicalSparse es = es.map fun e => (e.1, e.2.canonical) := by
  induction es with
  | nil => rfl
  | cons e rest ih => rw [canonicalSparse, ih, List.map_cons]

theorem canonicalRecords_iff {rs : List Record} :
    CanonicalRecords rs ↔ ∀ r ∈ rs, r.Canonical := by
  induction rs with
  | nil => simp [CanonicalRecords]
  | cons r rest ih => rw [CanonicalRecords, ih, List.forall_mem_cons]

theorem canonicalFields_iff {es : List (String × Payload)} :
    CanonicalFields es ↔ ∀ e ∈ es, e.2.Canonical := by
  induction es with
  | nil => simp [CanonicalFields]
  | cons e rest ih => rw [CanonicalFields, ih, List.forall_mem_cons]

theorem canonicalSparse_iff {es : List (Int32 × Record)} :
    CanonicalSparse es ↔ ∀ e ∈ es, e.2.Canonical := by
  induction es with
  | nil => simp [CanonicalSparse]
  | cons e rest ih => rw [CanonicalSparse, ih, List.forall_mem_cons]

/-! ## Canonical form -/

theorem forall_mem_ofList_map {κ α : Type} [Ord κ] {f : α → α} {Q : α → Prop}
    {es : List (κ × α)} (h : ∀ e ∈ es, Q (f e.2)) :
    ∀ e ∈ Entries.ofList (es.map fun e => (e.1, f e.2)), Q e.2 := by
  intro e he
  obtain ⟨e', he', rfl⟩ := List.mem_map.1 (Entries.mem_of_mem_ofList he)
  exact h e' he'

theorem map_eq_self {α : Type} {f : α → α} {xs : List α} (h : ∀ x ∈ xs, f x = x) :
    xs.map f = xs := by
  conv => rhs; rw [← List.map_id xs]
  exact List.map_congr_left h

theorem ofList_map_eq_self {κ α : Type} [Ord κ] [Std.TransOrd κ] {f : α → α}
    {es : List (κ × α)} (hes : Entries.Ordered es) (h : ∀ e ∈ es, f e.2 = e.2) :
    Entries.ofList (es.map fun e => (e.1, f e.2)) = es := by
  have hentries : ∀ e ∈ es, (e.1, f e.2) = e := fun e he => Prod.ext rfl (h e he)
  rw [map_eq_self hentries, Entries.ofList_eq_self hes]

theorem canonical_canonical :
    (∀ p : Payload, p.canonical.Canonical) ∧ ∀ r : Record, r.canonical.Canonical := by
  apply Payload.nested_induction
  · intro p ih
    cases p with
    | record r =>
      rw [Payload.canonical, Payload.Canonical]
      exact ih r (List.mem_singleton.2 rfl)
    | recordArray rs | recordList rs =>
      rw [Payload.canonical, Payload.Canonical, canonicalRecords_iff, canonicalRecords_eq_map]
      exact List.forall_mem_map.2 ih
    | sparseRecords es =>
      rw [Payload.canonical, Payload.Canonical, canonicalSparse_iff, canonicalSparse_eq_map]
      have hvalues : ∀ e ∈ es, e.2.canonical.Canonical := fun e he =>
        ih e.2 (List.mem_map_of_mem he)
      exact ⟨Entries.ordered_ofList _, forall_mem_ofList_map hvalues⟩
    | _ => trivial
  · intro name fields ih
    rw [Record.canonical, Record.Canonical, canonicalFields_iff, canonicalFields_eq_map]
    exact ⟨Entries.ordered_ofList _, forall_mem_ofList_map ih⟩

theorem canonical_eq_self :
    (∀ p : Payload, p.Canonical → p.canonical = p) ∧
      ∀ r : Record, r.Canonical → r.canonical = r := by
  apply Payload.nested_induction
  · intro p ih hp
    cases p with
    | record r => rw [Payload.canonical, ih r (List.mem_singleton.2 rfl) hp]
    | recordArray rs | recordList rs =>
      rw [Payload.Canonical, canonicalRecords_iff] at hp
      have hrecords : ∀ r ∈ rs, r.canonical = r := fun r hr => ih r hr (hp r hr)
      rw [Payload.canonical, canonicalRecords_eq_map, map_eq_self hrecords]
    | sparseRecords es =>
      rw [Payload.Canonical, canonicalSparse_iff] at hp
      have hvalues : ∀ e ∈ es, e.2.canonical = e.2 := fun e he =>
        ih e.2 (List.mem_map_of_mem he) (hp.2 e he)
      rw [Payload.canonical, canonicalSparse_eq_map, ofList_map_eq_self hp.1 hvalues]
    | _ => rfl
  · intro name fields ih hr
    rw [Record.Canonical, canonicalFields_iff] at hr
    have hvalues : ∀ e ∈ fields, e.2.canonical = e.2 := fun e he => ih e he (hr.2 e he)
    rw [Record.canonical, canonicalFields_eq_map, ofList_map_eq_self hr.1 hvalues]

namespace Bundle

theorem canonical_canonical (b : Bundle) : b.canonical.Canonical := by
  rw [canonical, Canonical, canonicalFields_iff, canonicalFields_eq_map]
  exact ⟨Entries.ordered_ofList _,
    forall_mem_ofList_map fun e _ => Relay.canonical_canonical.1 e.2⟩

theorem Canonical.canonical_eq {b : Bundle} (h : b.Canonical) : b.canonical = b := by
  rw [Canonical, canonicalFields_iff] at h
  rw [canonical, canonicalFields_eq_map,
    ofList_map_eq_self h.1 fun e he => canonical_eq_self.1 e.2 (h.2 e he)]

end Bundle

end Relay
