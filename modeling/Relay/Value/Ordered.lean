/-!
# Ordered entries

A map is kept as the list of its entries with keys strictly ascending. The operations on such lists
come first; each keeps the order, and each is described by what it does to `find?`. `OrderedMap`
bundles a list with the fact that it is ordered, so that two maps with the same entries are equal.
-/
namespace Relay

namespace Entries

variable {κ α : Type} [Ord κ]

/-- Keys strictly ascend. -/
def Ordered (entries : List (κ × α)) : Prop :=
  entries.Pairwise fun a b => compare a.1 b.1 = .lt

def find? (key : κ) : List (κ × α) → Option α
  | [] => none
  | (k, v) :: rest => if compare key k = .eq then some v else find? key rest

/-- Puts a value under a key, in the place of the one that was there. -/
def insert (key : κ) (value : α) : List (κ × α) → List (κ × α)
  | [] => [(key, value)]
  | (k, v) :: rest =>
    match compare key k with
    | .lt => (key, value) :: (k, v) :: rest
    | .eq => (key, value) :: rest
    | .gt => (k, v) :: insert key value rest

/-- Takes the entry under a key out. -/
def erase (key : κ) : List (κ × α) → List (κ × α)
  | [] => []
  | (k, v) :: rest => if compare key k = .eq then rest else (k, v) :: erase key rest

/-- Entries put one after the other into the empty map: the last under a key stays. -/
def ofList (entries : List (κ × α)) : List (κ × α) :=
  entries.foldl (fun map entry => insert entry.1 entry.2 map) []

/-! ### Order is kept -/

theorem ordered_nil : Ordered ([] : List (κ × α)) := .nil

/-- Every key of a list with one entry put in is the new key or an old one. -/
theorem mem_insert {key : κ} {value : α} {entries : List (κ × α)} {e : κ × α}
    (h : e ∈ insert key value entries) : e = (key, value) ∨ e ∈ entries := by
  induction entries with
  | nil => exact .inl (by simpa [insert] using h)
  | cons head rest ih =>
    obtain ⟨k, v⟩ := head
    unfold insert at h
    split at h
    · simpa using h
    · rcases List.mem_cons.1 h with h | h
      · exact .inl h
      · exact .inr (List.mem_cons_of_mem _ h)
    · rcases List.mem_cons.1 h with h | h
      · exact .inr (h ▸ List.mem_cons_self)
      · exact (ih h).imp id (List.mem_cons_of_mem _)

variable [Std.TransOrd κ]

theorem Ordered.insert {entries : List (κ × α)} (h : Ordered entries) (key : κ) (value : α) :
    Ordered (insert key value entries) := by
  induction entries with
  | nil => exact .cons (by simp) .nil
  | cons head rest ih =>
    obtain ⟨k, v⟩ := head
    have hrest := List.pairwise_cons.1 h
    unfold Entries.insert
    split
    · next hlt =>
      refine List.pairwise_cons.2 ⟨fun e he => ?_, h⟩
      rcases List.mem_cons.1 he with he | he
      · exact he ▸ hlt
      · exact Std.TransCmp.lt_trans hlt (hrest.1 e he)
    · next heq =>
      exact List.pairwise_cons.2
        ⟨fun e he => Std.TransCmp.lt_of_eq_of_lt heq (hrest.1 e he), hrest.2⟩
    · next hgt =>
      refine List.pairwise_cons.2 ⟨fun e he => ?_, ih hrest.2⟩
      rcases mem_insert he with he | he
      · exact he ▸ Std.OrientedCmp.lt_of_gt hgt
      · exact hrest.1 e he

omit [Std.TransOrd κ] in
theorem erase_sublist (key : κ) (entries : List (κ × α)) :
    (erase key entries).Sublist entries := by
  induction entries with
  | nil => exact .slnil
  | cons head rest ih =>
    unfold erase
    split
    · exact List.sublist_cons_self ..
    · exact ih.cons_cons _

omit [Std.TransOrd κ] in
theorem Ordered.erase {entries : List (κ × α)} (h : Ordered entries) (key : κ) :
    Ordered (erase key entries) :=
  h.sublist (erase_sublist key entries)

theorem Ordered.foldl_insert {start : List (κ × α)} (h : Ordered start)
    (entries : List (κ × α)) :
    Ordered (entries.foldl (fun map entry => Entries.insert entry.1 entry.2 map) start) := by
  induction entries generalizing start with
  | nil => exact h
  | cons e rest ih => exact ih (h.insert e.1 e.2)

theorem ordered_ofList (entries : List (κ × α)) : Ordered (ofList entries) :=
  ordered_nil.foldl_insert entries

end Entries

/-- A map as its entries in ascending order of their keys. -/
structure OrderedMap (κ α : Type) [Ord κ] where
  entries : List (κ × α)
  ordered : Entries.Ordered entries

namespace OrderedMap

variable {κ α β : Type} [Ord κ]

instance [DecidableEq κ] [DecidableEq α] : DecidableEq (OrderedMap κ α) := fun a b =>
  decidable_of_iff (a.entries = b.entries) (by cases a; cases b; simp)

/-- The map without entries. -/
def empty : OrderedMap κ α := ⟨[], Entries.ordered_nil⟩

def find? (m : OrderedMap κ α) (key : κ) : Option α := Entries.find? key m.entries

def size (m : OrderedMap κ α) : Nat := m.entries.length

/-- Whether there is no entry. -/
def isEmpty (m : OrderedMap κ α) : Bool := m.entries.isEmpty

def insert [Std.TransOrd κ] (m : OrderedMap κ α) (key : κ) (value : α) : OrderedMap κ α :=
  ⟨Entries.insert key value m.entries, m.ordered.insert key value⟩

/-- Entries put one after the other into the empty map. -/
def ofList [Std.TransOrd κ] (entries : List (κ × α)) : OrderedMap κ α :=
  ⟨Entries.ofList entries, Entries.ordered_ofList entries⟩

/-- Applies a function to every value. -/
def mapValues (f : α → β) (m : OrderedMap κ α) : OrderedMap κ β :=
  ⟨m.entries.map fun e => (e.1, f e.2), by
    simpa [Entries.Ordered, List.pairwise_map] using m.ordered⟩

end OrderedMap

/-- An integer-keyed sparse mapping. -/
abbrev SparseMap (α : Type) := OrderedMap Int32 α

end Relay
