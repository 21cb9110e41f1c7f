import Relay.Value.Ordered

/-!
# Laws of ordered entries

What inserting does to the entries, to their number and to what is found under a key; and that
putting the entries of an ordered list in one after the other gives the list back, so that
`Entries.ofList` is a projection onto the ordered lists.
-/

namespace Relay

def total {α : Type} (weight : α → Nat) (xs : List α) : Nat :=
  xs.foldr (fun x sum => weight x + sum) 0

@[simp] theorem total_nil {α : Type} (weight : α → Nat) : total weight [] = 0 := rfl

@[simp] theorem total_cons {α : Type} (weight : α → Nat) (x : α) (xs : List α) :
    total weight (x :: xs) = weight x + total weight xs := rfl

theorem total_one {α : Type} (xs : List α) : total (fun _ => 1) xs = xs.length := by
  induction xs with
  | nil => rfl
  | cons x xs ih => rw [total_cons, ih, List.length_cons, Nat.add_comm]

namespace Entries

variable {κ α : Type} [Ord κ]

/-! ## Membership and size -/

theorem mem_foldl_insert {start entries : List (κ × α)} {e : κ × α}
    (h : e ∈ entries.foldl (fun map entry => insert entry.1 entry.2 map) start) :
    e ∈ start ∨ e ∈ entries := by
  induction entries generalizing start with
  | nil => exact .inl h
  | cons head rest ih =>
    rcases ih h with hstart | hrest
    · rcases mem_insert hstart with rfl | hold
      · exact .inr List.mem_cons_self
      · exact .inl hold
    · exact .inr (List.mem_cons_of_mem _ hrest)

theorem mem_of_mem_ofList {entries : List (κ × α)} {e : κ × α} (h : e ∈ ofList entries) :
    e ∈ entries := by
  simpa using mem_foldl_insert h

/-- Whatever weight entries have, inserting adds at most the weight of the new entry: one that is
replaced takes its weight away. -/
theorem total_insert_le (weight : κ × α → Nat) (key : κ) (value : α) (entries : List (κ × α)) :
    total weight (insert key value entries) ≤ weight (key, value) + total weight entries := by
  induction entries with
  | nil => exact Nat.le_refl _
  | cons head rest ih =>
    obtain ⟨k, v⟩ := head
    unfold insert
    split <;> simp only [total_cons] <;> omega

theorem total_foldl_insert_le (weight : κ × α → Nat) (start entries : List (κ × α)) :
    total weight (entries.foldl (fun map entry => insert entry.1 entry.2 map) start) ≤
      total weight start + total weight entries := by
  induction entries generalizing start with
  | nil => exact Nat.le_refl _
  | cons head rest ih =>
    obtain ⟨k, v⟩ := head
    have hhead := total_insert_le weight k v start
    have hrest := ih (insert k v start)
    simp only [List.foldl_cons, total_cons]
    omega

theorem total_ofList_le (weight : κ × α → Nat) (entries : List (κ × α)) :
    total weight (ofList entries) ≤ total weight entries := by
  simpa [ofList] using total_foldl_insert_le weight [] entries

theorem length_ofList_le (entries : List (κ × α)) : (ofList entries).length ≤ entries.length := by
  simpa only [total_one] using total_ofList_le (fun _ => 1) entries

/-! ## Ordered lists are fixed -/

section Trans

variable [Std.TransOrd κ]

/-- An entry above all others goes to the end. -/
theorem insert_of_above {key : κ} {value : α} {entries : List (κ × α)}
    (h : ∀ e ∈ entries, compare e.1 key = .lt) :
    insert key value entries = entries ++ [(key, value)] := by
  induction entries with
  | nil => rfl
  | cons head rest ih =>
    have hgt : compare key head.1 = .gt := Std.OrientedCmp.gt_of_lt (h head List.mem_cons_self)
    unfold insert
    rw [hgt]
    simp only [List.cons_append, List.cons.injEq, true_and]
    exact ih fun e he => h e (List.mem_cons_of_mem _ he)

theorem foldl_insert_of_ordered {start entries : List (κ × α)} (h : Ordered (start ++ entries)) :
    entries.foldl (fun map entry => insert entry.1 entry.2 map) start = start ++ entries := by
  induction entries generalizing start with
  | nil => simp
  | cons head rest ih =>
    have habove : ∀ e ∈ start, compare e.1 head.1 = .lt := fun e he =>
      (List.pairwise_append.1 h).2.2 e he head List.mem_cons_self
    have hstep : start ++ head :: rest = (start ++ [head]) ++ rest := by simp
    rw [List.foldl_cons, insert_of_above habove, hstep]
    exact ih (hstep ▸ h)

theorem ofList_eq_self {entries : List (κ × α)} (h : Ordered entries) : ofList entries = entries :=
  foldl_insert_of_ordered (by simpa using h)

/-! ## Finding -/

theorem find?_insert {k key : κ} {value : α} {entries : List (κ × α)} :
    find? k (insert key value entries) =
      if compare k key = .eq then some value else find? k entries := by
  induction entries with
  | nil => rfl
  | cons head rest ih =>
    unfold insert
    split
    · rfl
    · next heq =>
      have hcongr : compare k key = compare k head.1 := Std.TransCmp.congr_right heq
      simp only [find?, hcongr]
      split <;> rfl
    · next hgt =>
      simp only [find?, ih]
      by_cases hk : compare k head.1 = .eq
      · have hne : compare k key ≠ .eq := by
          rw [Std.TransCmp.congr_left hk, Std.OrientedCmp.lt_of_gt hgt]
          decide
        rw [if_pos hk, if_neg hne, if_pos hk]
      · rw [if_neg hk, if_neg hk]

end Trans

end Entries

end Relay
