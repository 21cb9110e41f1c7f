import Relay.Proofs.Text.ByteOrder
import Relay.Proofs.Value.Canonical

/-!
# The levels of a payload

Every body of entries and every sparse map inside a payload is a level of its own: a sequence of
keys or of indices.  `Canonical` goes through a payload from the outside to the inside.  Here the
same is said of all levels at once, whatever their depth, with keys compared by their bytes: a
payload is canonical exactly when every level inside it ascends strictly.
-/

namespace Relay

/-- The keys of a body of entries, or the indices of a sparse map, in the order of the entries. -/
inductive Level where
  | keys (keys : List String)
  | indices (indices : List Int32)

namespace Level

/-- Keys ascend strictly by their bytes, indices as numbers. -/
def Ascending : Level → Prop
  | keys ks => ks.Pairwise fun a b => Write.textBytes a < Write.textBytes b
  | indices is => is.Pairwise fun a b => a < b

/-- The level is found inside a payload, at whatever depth. -/
inductive Inside : Level → Payload → Prop
  | body {p : Payload} {name : String} {fields : List (String × Payload)}
      (hrecord : .mk name fields ∈ p.records) : Inside (.keys (fields.map Prod.fst)) p
  | sparse (entries : List (Int32 × Record)) :
      Inside (.indices (entries.map Prod.fst)) (.sparseRecords entries)
  | deeper {l : Level} {p : Payload} {name : String} {fields : List (String × Payload)}
      {e : String × Payload} (hrecord : .mk name fields ∈ p.records) (hentry : e ∈ fields)
      (h : Inside l e.2) : Inside l p

theorem ascending_keys {entries : List (String × Payload)} :
    Ascending (.keys (entries.map Prod.fst)) ↔ Entries.Ordered entries := by
  simp only [Ascending, List.pairwise_map, Entries.Ordered, compare_eq_lt_iff_textBytes]

theorem ascending_indices {entries : List (Int32 × Record)} :
    Ascending (.indices (entries.map Prod.fst)) ↔ Entries.Ordered entries := by
  simp only [Ascending, List.pairwise_map, Entries.Ordered, Std.compare_eq_lt]

end Level

/-- A record is canonical when its own keys and all levels inside its fields ascend. -/
def Record.LevelsAscend (r : Record) : Prop :=
  Level.Ascending (.keys (r.fields.entries.map Prod.fst)) ∧
    ∀ e ∈ r.fields.entries, ∀ l, Level.Inside l e.2 → l.Ascending

theorem Payload.canonical_iff_records {p : Payload} :
    p.Canonical ↔
      (∀ r ∈ p.records, r.Canonical) ∧
        ∀ es, p = .sparseRecords es → Level.Ascending (.indices (es.map Prod.fst)) := by
  cases p with
  | record r => simp [Canonical, records]
  | recordArray rs => simp [Canonical, records, canonicalRecords_iff]
  | recordList rs => simp [Canonical, records, canonicalRecords_iff]
  | sparseRecords es =>
    simp only [Canonical, records, canonicalSparse_iff, List.forall_mem_map,
      Payload.sparseRecords.injEq, forall_eq', Level.ascending_indices]
    exact and_comm
  | _ => simp [Canonical, records]

theorem Record.canonical_mk_iff {name : String} {fields : List (String × Payload)} :
    (Record.mk name fields).Canonical ↔
      Level.Ascending (.keys (fields.map Prod.fst)) ∧ ∀ e ∈ fields, e.2.Canonical := by
  rw [Record.Canonical, canonicalFields_iff, Level.ascending_keys]

theorem Level.ascending_of_inside {l : Level} {p : Payload} (h : l.Inside p) (hp : p.Canonical) :
    l.Ascending := by
  induction h with
  | body hrecord =>
    exact (Record.canonical_mk_iff.1 ((Payload.canonical_iff_records.1 hp).1 _ hrecord)).1
  | sparse entries => exact (Payload.canonical_iff_records.1 hp).2 entries rfl
  | deeper hrecord hentry _ ih =>
    have hr := Record.canonical_mk_iff.1 ((Payload.canonical_iff_records.1 hp).1 _ hrecord)
    exact ih (hr.2 _ hentry)

theorem canonical_of_levels :
    (∀ p : Payload, (∀ l, Level.Inside l p → l.Ascending) → p.Canonical) ∧
      ∀ r : Record, r.LevelsAscend → r.Canonical := by
  apply Payload.nested_induction
  · intro p ih hlevels
    rw [Payload.canonical_iff_records]
    constructor
    · intro r hr
      obtain ⟨name, fields⟩ := r
      exact ih _ hr ⟨hlevels _ (.body hr),
        fun e he l hl => hlevels l (.deeper hr he hl)⟩
    · rintro es rfl
      exact hlevels _ (.sparse es)
  · intro name fields ih hr
    exact Record.canonical_mk_iff.2 ⟨hr.1, fun e he => ih e he (hr.2 e he)⟩

theorem Payload.canonical_iff_levels {p : Payload} :
    p.Canonical ↔ ∀ l, Level.Inside l p → l.Ascending :=
  ⟨fun hp _ hl => Level.ascending_of_inside hl hp, canonical_of_levels.1 p⟩

/-- A level of a bundle is its own keys or a level inside one of its payloads. -/
inductive Bundle.HasLevel (b : Bundle) : Level → Prop
  | own : b.HasLevel (.keys (b.entries.map Prod.fst))
  | inner {l : Level} {e : String × Payload} (hentry : e ∈ b.entries) (h : l.Inside e.2) :
      b.HasLevel l

theorem Bundle.canonical_iff_levels {b : Bundle} :
    b.Canonical ↔ ∀ l, b.HasLevel l → l.Ascending := by
  rw [Bundle.Canonical, canonicalFields_iff, ← Level.ascending_keys]
  constructor
  · rintro ⟨hkeys, hentries⟩ l hl
    cases hl with
    | own => exact hkeys
    | inner hentry h => exact Payload.canonical_iff_levels.1 (hentries _ hentry) l h
  · intro hlevels
    exact ⟨hlevels _ .own,
      fun e he => Payload.canonical_iff_levels.2 fun l hl => hlevels l (.inner he hl)⟩

end Relay
