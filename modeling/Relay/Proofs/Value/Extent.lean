import Relay.Proofs.Value.Canonical

/-!
# The extent of a payload

The byte format sets two limits: how deep records nest, and how long a text, a byte form or a
sequence is.  Here both are measured on the value alone, so that what can be written is said without
the writer.  An empty container of records nests no deeper than a payload without records.
-/

namespace Relay

mutual

/-- How many records stand inside one another in a payload. -/
def Payload.nesting : Payload → Nat
  | .record r => r.nesting
  | .recordArray rs => recordsNesting rs
  | .recordList rs => recordsNesting rs
  | .sparseRecords es => sparseNesting es
  | _ => 0

/-- How many records stand inside one another in a record, itself included. -/
def Record.nesting : Record → Nat
  | .mk _ fields => fieldsNesting fields + 1

def recordsNesting : List Record → Nat
  | [] => 0
  | r :: rest => max r.nesting (recordsNesting rest)

def fieldsNesting : List (String × Payload) → Nat
  | [] => 0
  | (_, p) :: rest => max p.nesting (fieldsNesting rest)

def sparseNesting : List (Int32 × Record) → Nat
  | [] => 0
  | (_, r) :: rest => max r.nesting (sparseNesting rest)

end

mutual

/-- The lengths of all texts, byte forms and sequences in a payload, whatever their depth. -/
def Payload.lengths : Payload → List Nat
  | .scalar _ _ => []
  | .text v => [v.utf8ByteSize]
  | .charSeq v => [v.text.utf8ByteSize]
  | .handle _ => []
  | .record r => r.lengths
  | .serialized bytes => [bytes.length]
  | .scalarArray _ vs => [vs.length]
  | .textArray vs => vs.length :: vs.map String.utf8ByteSize
  | .charSeqArray vs => vs.length :: vs.map fun v => v.text.utf8ByteSize
  | .recordArray rs => rs.length :: recordsLengths rs
  | .intList vs => [vs.length]
  | .textList vs => vs.length :: vs.map String.utf8ByteSize
  | .charSeqList vs => vs.length :: vs.map fun v => v.text.utf8ByteSize
  | .recordList rs => rs.length :: recordsLengths rs
  | .sparseRecords es => es.length :: sparseLengths es
  | .size _ => []
  | .sizeF _ => []

def Record.lengths : Record → List Nat
  | .mk name fields => name.utf8ByteSize :: fields.length :: fieldsLengths fields

def recordsLengths : List Record → List Nat
  | [] => []
  | r :: rest => r.lengths ++ recordsLengths rest

def fieldsLengths : List (String × Payload) → List Nat
  | [] => []
  | (key, p) :: rest => key.utf8ByteSize :: p.lengths ++ fieldsLengths rest

def sparseLengths : List (Int32 × Record) → List Nat
  | [] => []
  | (_, r) :: rest => r.lengths ++ sparseLengths rest

end

/-- How many records stand inside one another in a bundle. -/
def Bundle.nesting (b : Bundle) : Nat := fieldsNesting b.entries

/-- The lengths of all texts, byte forms and sequences in a bundle, its own entries included. -/
def Bundle.lengths (b : Bundle) : List Nat := b.entries.length :: fieldsLengths b.entries

/-- Every length fits into the four bytes that the format has for it. -/
def Payload.Sized (p : Payload) : Prop := ∀ n ∈ p.lengths, n < 4294967296

def Record.Sized (r : Record) : Prop := ∀ n ∈ r.lengths, n < 4294967296

def Bundle.Sized (b : Bundle) : Prop := ∀ n ∈ b.lengths, n < 4294967296

instance (b : Bundle) : Decidable b.Sized := inferInstanceAs (Decidable (∀ n ∈ b.lengths, _))

/-! ## Members of containers -/

section Nesting

variable {n : Nat}

theorem lt_recordsNesting {rs : List Record} :
    n < recordsNesting rs ↔ ∃ r ∈ rs, n < r.nesting := by
  induction rs with
  | nil => simp [recordsNesting]
  | cons r rest ih =>
    simp only [recordsNesting, List.mem_cons, exists_eq_or_imp, ← ih]
    omega

theorem lt_fieldsNesting {es : List (String × Payload)} :
    n < fieldsNesting es ↔ ∃ e ∈ es, n < e.2.nesting := by
  induction es with
  | nil => simp [fieldsNesting]
  | cons e rest ih =>
    simp only [fieldsNesting, List.mem_cons, exists_eq_or_imp, ← ih]
    omega

theorem lt_sparseNesting {es : List (Int32 × Record)} :
    n < sparseNesting es ↔ ∃ e ∈ es, n < e.2.nesting := by
  induction es with
  | nil => simp [sparseNesting]
  | cons e rest ih =>
    simp only [sparseNesting, List.mem_cons, exists_eq_or_imp, ← ih]
    omega

end Nesting

theorem recordsLengths_eq_flatMap (rs : List Record) :
    recordsLengths rs = rs.flatMap Record.lengths := by
  induction rs with
  | nil => rfl
  | cons r rest ih => rw [recordsLengths, ih, List.flatMap_cons]

theorem fieldsLengths_eq_flatMap (es : List (String × Payload)) :
    fieldsLengths es = es.flatMap fun e => e.1.utf8ByteSize :: e.2.lengths := by
  induction es with
  | nil => rfl
  | cons e rest ih => rw [fieldsLengths, ih, List.flatMap_cons]

theorem sparseLengths_eq_flatMap (es : List (Int32 × Record)) :
    sparseLengths es = es.flatMap fun e => e.2.lengths := by
  induction es with
  | nil => rfl
  | cons e rest ih => rw [sparseLengths, ih, List.flatMap_cons]

theorem Record.sized_mk {name : String} {fields : List (String × Payload)} :
    (Record.mk name fields).Sized ↔ name.utf8ByteSize < 4294967296 ∧
      fields.length < 4294967296 ∧
        ∀ e ∈ fields, e.1.utf8ByteSize < 4294967296 ∧ e.2.Sized := by
  simp only [Sized, lengths, fieldsLengths_eq_flatMap, List.forall_mem_cons,
    List.forall_mem_flatMap, Payload.Sized]

theorem Bundle.sized_iff {b : Bundle} :
    b.Sized ↔ b.entries.length < 4294967296 ∧
      ∀ e ∈ b.entries, e.1.utf8ByteSize < 4294967296 ∧ e.2.Sized := by
  simp only [Sized, lengths, fieldsLengths_eq_flatMap, List.forall_mem_cons,
    List.forall_mem_flatMap, Payload.Sized]

end Relay
