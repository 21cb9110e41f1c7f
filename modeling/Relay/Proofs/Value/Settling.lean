import Mathlib.Data.List.Forall2
import Mathlib.Data.List.Induction
import Relay.Proofs.Value.Canonical

/-!
# Entries that settle

A byte sequence may spell entries in any order and a key more than once.  When such entries are put
into a map one after the other, a later entry takes the place of an earlier one under the same key.
Here this is said without inserting: the keys of the map ascend, and under every key the map has
what the last entry under that key has.  `Settles` says it of every level of a payload, and
`canonical` is a payload that the entries settle into.
-/

namespace Relay

namespace Entries

variable {κ α β : Type} [Ord κ]

def last? [DecidableEq κ] (key : κ) (entries : List (κ × α)) : Option α :=
  entries.reverse.lookup key

/-- The keys of the map ascend, and under every key it has what the last of the entries under that
key settles into. -/
structure Settle [DecidableEq κ] (R : α → β → Prop) (entries : List (κ × α))
    (map : List (κ × β)) : Prop where
  ordered : Ordered map
  related : ∀ key, Option.Rel R (last? key entries) (find? key map)

variable [DecidableEq κ] [Std.LawfulEqOrd κ] [Std.TransOrd κ]

theorem last?_concat (key : κ) (entries : List (κ × α)) (e : κ × α) :
    last? key (entries ++ [e]) = if key = e.1 then some e.2 else last? key entries := by
  obtain ⟨k, v⟩ := e
  simp only [last?, List.reverse_append, List.reverse_singleton, List.singleton_append]
  by_cases hkey : key = k
  · subst hkey
    simp
  · have hne : (key == k) = false := beq_false_of_ne hkey
    simp [List.lookup_cons, hne, hkey]

theorem find?_ofList (key : κ) (entries : List (κ × α)) :
    find? key (ofList entries) = last? key entries := by
  induction entries using List.reverseRecOn with
  | nil => rfl
  | append_singleton entries e ih =>
    have hstep : ofList (entries ++ [e]) = insert e.1 e.2 (ofList entries) := by
      simp [ofList]
    rw [hstep, find?_insert, last?_concat, ih]
    simp only [Std.LawfulEqOrd.compare_eq_iff_eq]

theorem last?_map (f : α → β) (key : κ) (entries : List (κ × α)) :
    last? key (entries.map fun e => (e.1, f e.2)) = (last? key entries).map f := by
  induction entries using List.reverseRecOn with
  | nil => rfl
  | append_singleton entries e ih =>
    rw [List.map_append, List.map_singleton, last?_concat, last?_concat, ih]
    split <;> rfl

theorem mem_of_last? {key : κ} {entries : List (κ × α)} {v : α} (h : last? key entries = some v) :
    (key, v) ∈ entries := by
  induction entries using List.reverseRecOn with
  | nil => cases h
  | append_singleton entries e ih =>
    rw [last?_concat] at h
    split at h
    · next hkey =>
      obtain rfl := Option.some.inj h
      subst hkey
      exact List.mem_append_right _ (List.mem_singleton.2 rfl)
    · exact List.mem_append_left _ (ih h)

/-- Entries whose values settle by a function settle into the map that they are put into. -/
theorem settle_ofList_map {R : α → β → Prop} {f : α → β} {entries : List (κ × α)}
    (h : ∀ e ∈ entries, R e.2 (f e.2)) :
    Settle R entries (ofList (entries.map fun e => (e.1, f e.2))) := by
  refine ⟨ordered_ofList _, fun key => ?_⟩
  rw [find?_ofList, last?_map]
  cases hlast : last? key entries with
  | none => exact .none
  | some v => exact .some (h _ (mem_of_last? hlast))

end Entries

mutual

/-- The second payload is what the first comes to when later entries take the place of earlier ones
at every level. -/
inductive Payload.Settles : Payload → Payload → Prop
  | flat {p : Payload} (h : p.records = []) : Payload.Settles p p
  | record {r s : Record} (h : Record.Settles r s) : Payload.Settles (.record r) (.record s)
  | recordArray {rs ss : List Record} (h : List.Forall₂ Record.Settles rs ss) :
      Payload.Settles (.recordArray rs) (.recordArray ss)
  | recordList {rs ss : List Record} (h : List.Forall₂ Record.Settles rs ss) :
      Payload.Settles (.recordList rs) (.recordList ss)
  | sparseRecords {es map : List (Int32 × Record)} (ordered : Entries.Ordered map)
      (related : ∀ i, Option.Rel Record.Settles (Entries.last? i es) (Entries.find? i map)) :
      Payload.Settles (.sparseRecords es) (.sparseRecords map)

inductive Record.Settles : Record → Record → Prop
  | mk {name : String} {fields map : List (String × Payload)} (ordered : Entries.Ordered map)
      (related : ∀ key,
        Option.Rel Payload.Settles (Entries.last? key fields) (Entries.find? key map)) :
      Record.Settles (.mk name fields) (.mk name map)

end

theorem settles_canonical :
    (∀ p : Payload, p.Settles p.canonical) ∧ ∀ r : Record, r.Settles r.canonical := by
  apply Payload.nested_induction
  · intro p ih
    cases p with
    | record r => exact .record (ih r (List.mem_singleton.2 rfl))
    | recordArray rs =>
      rw [Payload.canonical, canonicalRecords_eq_map]
      exact .recordArray (List.forall₂_map_right_iff.2 (List.forall₂_same.2 ih))
    | recordList rs =>
      rw [Payload.canonical, canonicalRecords_eq_map]
      exact .recordList (List.forall₂_map_right_iff.2 (List.forall₂_same.2 ih))
    | sparseRecords es =>
      rw [Payload.canonical, canonicalSparse_eq_map]
      have h := Entries.settle_ofList_map fun e he => ih e.2 (List.mem_map_of_mem he)
      exact .sparseRecords h.ordered h.related
    | _ => exact .flat rfl
  · intro name fields ih
    rw [Record.canonical, canonicalFields_eq_map]
    have h := Entries.settle_ofList_map ih
    exact .mk h.ordered h.related

def Bundle.Settles (b c : Bundle) : Prop := Entries.Settle Payload.Settles b.entries c.entries

theorem Bundle.settles_canonical (b : Bundle) : b.Settles b.canonical := by
  rw [Bundle.Settles, Bundle.canonical, canonicalFields_eq_map]
  exact Entries.settle_ofList_map fun e _ => Relay.settles_canonical.1 e.2

end Relay
