import Mathlib.Data.List.Induction
import Relay.Proofs.Value.Accessors
import Relay.Proofs.Wire.RoundTrip

/-!
# Typed stores

A bundle as a store that values of all categories are put into and taken out of, and that is now and
then sent on a trip as bytes.  What is read under a key depends on the last operation that touched
the key and on nothing else (`Standing`): neither the puts under other keys, nor those that failed,
nor the trips can be seen.

The induction is on the operations, from the last one.  It carries that the bundle is in canonical
order, which is what brings it back unchanged from a trip.
-/

namespace Relay

namespace Entries

variable {κ α : Type} [Ord κ]

theorem find?_eq_none_of_above {key : κ} {entries : List (κ × α)}
    (h : ∀ e ∈ entries, compare key e.1 = .lt) : find? key entries = none := by
  induction entries with
  | nil => rfl
  | cons head rest ih =>
    rw [List.forall_mem_cons] at h
    rw [find?, if_neg (by simp [h.1]), ih h.2]

theorem find?_erase [Std.TransOrd κ] {k key : κ} {entries : List (κ × α)} (h : Ordered entries) :
    find? k (erase key entries) = if compare k key = .eq then none else find? k entries := by
  induction entries with
  | nil => simp [erase, find?]
  | cons head rest ih =>
    obtain ⟨k', v⟩ := head
    have hrest := List.pairwise_cons.1 h
    unfold erase
    split
    · next heq =>
      have hcongr : compare k key = compare k k' := Std.TransCmp.congr_right heq
      rw [find?, ← hcongr]
      split
      · next hk =>
        have hk' : compare k k' = .eq := hcongr ▸ hk
        exact find?_eq_none_of_above fun e he => Std.TransCmp.lt_of_eq_of_lt hk' (hrest.1 e he)
      · rfl
    · next hne =>
      rw [find?, find?, ih hrest.2]
      by_cases hk : compare k key = .eq
      · have hother : compare k k' ≠ .eq := by rwa [Std.TransCmp.congr_left hk]
        rw [if_pos hk, if_pos hk, if_neg hother]
      · rw [if_neg hk, if_neg hk]

end Entries

namespace Bundle

theorem find?_erase {b : Bundle} (hb : b.Canonical) {k key : String} :
    (b.erase key).find? k = if k = key then none else b.find? k := by
  rw [find?, erase, Entries.find?_erase hb.1]
  simp only [Std.LawfulEqOrd.compare_eq_iff_eq]
  rfl

theorem Canonical.erase {b : Bundle} (hb : b.Canonical) (key : String) :
    (b.erase key).Canonical := by
  rw [Canonical, canonicalFields_iff] at hb ⊢
  exact ⟨hb.1.erase key, fun e he => hb.2 e ((Entries.erase_sublist key b.entries).subset he)⟩

end Bundle

/-! ## Operations -/

/-- What can be done with a typed store. -/
inductive Operation : Type 1 where
  | put {α : Type} (a : Accessor α) (key : String) (value : α)
  | erase (key : String)
  /-- The store is written as the data of a frame, and what is read from the bytes takes its
  place. -/
  | trip (what : UInt32)

namespace Operation

/-- What an operation leaves of a store.  A put that fails leaves it as it was, and so does a trip
of a store that has no byte form. -/
def apply (b : Bundle) : Operation → Option Bundle
  | put a key value =>
    match b.put a.slot key value with
    | .ok b' => some b'
    | .error _ => some b
  | erase key => some (b.erase key)
  | trip what =>
    match (⟨what, some b⟩ : Frame).encode with
    | .ok bytes => (Frame.decode bytes).toOption.bind Frame.data
    | .error _ => some b

/-- The operations in order, from the empty store. -/
def replay (ops : List Operation) : Option Bundle := ops.foldlM apply .empty

/-- The types of the values obey the laws of the protocols in which they are kept. -/
def Lawful : Operation → Prop
  | put a _ _ => a.Lawful
  | _ => True

/-- The operation decides what stands under a key: it erases the key, or it is a put under the key
that does not fail. -/
def Touches (key : String) : Operation → Prop
  | put a k value => k = key ∧ ∃ p, a.slot.write value = .ok p
  | erase k => k = key
  | trip _ => False

variable {α : Type} {key : String} {ops : List Operation} {op : Operation} {a : Accessor α}
  {value : α} {b : Bundle}

/-- The last operation that touches the key is a put of the value. -/
def Standing (ops : List Operation) (key : String) (a : Accessor α) (value : α) : Prop :=
  ∃ before after, ops = before ++ put a key value :: after ∧
    (put a key value).Touches key ∧ ∀ op ∈ after, ¬ op.Touches key

theorem standing_concat_of_not_touches (h : ¬ op.Touches key) :
    Standing (ops ++ [op]) key a value ↔ Standing ops key a value := by
  constructor
  · rintro ⟨before, after, hops, htouches, hafter⟩
    rcases List.eq_nil_or_concat after with rfl | ⟨after, last, rfl⟩
    · obtain ⟨-, hlast⟩ := List.append_inj' hops rfl
      obtain rfl := List.singleton_inj.1 hlast
      exact absurd htouches h
    · rw [List.concat_eq_append, ← List.cons_append, ← List.append_assoc] at hops
      obtain ⟨rfl, -⟩ := List.append_inj' hops rfl
      refine ⟨before, after, rfl, htouches, fun o ho => hafter o ?_⟩
      rw [List.concat_eq_append]
      exact List.mem_append_left _ ho
  · rintro ⟨before, after, rfl, htouches, hafter⟩
    refine ⟨before, after ++ [op], by simp, htouches, ?_⟩
    rw [List.forall_mem_append, List.forall_mem_singleton]
    exact ⟨hafter, h⟩

theorem standing_concat_of_touches (h : op.Touches key) :
    Standing (ops ++ [op]) key a value ↔ op = put a key value := by
  constructor
  · rintro ⟨before, after, hops, -, hafter⟩
    rcases List.eq_nil_or_concat after with rfl | ⟨after, last, rfl⟩
    · obtain ⟨-, hlast⟩ := List.append_inj' hops rfl
      exact List.singleton_inj.1 hlast
    · rw [List.concat_eq_append, ← List.cons_append, ← List.append_assoc] at hops
      obtain ⟨-, hlast⟩ := List.append_inj' hops rfl
      obtain rfl := List.singleton_inj.1 hlast
      exact absurd h (hafter op (by simp))
  · rintro rfl
    exact ⟨ops, [], rfl, h, List.forall_mem_nil _⟩

/-! ## One operation -/

/-- An operation keeps the canonical order, and what it does not touch it leaves alone. -/
theorem exists_apply (hb : b.Canonical) (hop : op.Lawful) :
    ∃ b', op.apply b = some b' ∧ b'.Canonical ∧
      ∀ key, ¬ op.Touches key → b'.find? key = b.find? key := by
  cases op with
  | put a k value =>
    cases hwrite : a.slot.write value with
    | ok p =>
      have hp := (a.faithful hop).canonical value p hwrite
      refine ⟨b.insert k p, by simp [apply, Bundle.put, hwrite, Except.map], hb.insert hp k, ?_⟩
      intro key hkey
      rw [Bundle.find?_insert, if_neg]
      rintro rfl
      exact hkey ⟨rfl, p, hwrite⟩
    | error error =>
      exact ⟨b, by simp [apply, Bundle.put, hwrite, Except.map], hb, fun _ _ => rfl⟩
  | erase k =>
    refine ⟨b.erase k, rfl, hb.erase k, fun key hkey => ?_⟩
    rw [Bundle.find?_erase hb, if_neg (Ne.symm hkey)]
  | trip what =>
    refine ⟨b, ?_, hb, fun _ _ => rfl⟩
    cases hencode : (⟨what, some b⟩ : Frame).encode with
    | error error => simp only [apply, hencode]
    | ok bytes =>
      have hcanonical : (⟨what, some b⟩ : Frame).Canonical := by
        rintro b' ⟨⟩
        exact hb
      have hdecode : Frame.decode bytes = .ok ⟨what, some b⟩ :=
        Frame.decode_eq_ok.2 ⟨_, hencode, hcanonical.canonical_eq⟩
      simp only [apply, hencode, hdecode]
      rfl

theorem find?_apply_put {b' : Bundle} {p : Payload} (hwrite : a.slot.write value = .ok p)
    (h : (put a key value).apply b = some b') : b'.find? key = some p := by
  simp only [apply, Bundle.put, hwrite, Except.map, Option.some.injEq] at h
  rw [← h, Bundle.find?_insert, if_pos rfl]

theorem find?_apply_erase {b' : Bundle} (hb : b.Canonical)
    (h : (erase key).apply b = some b') : b'.find? key = none := by
  obtain rfl := Option.some.inj h
  rw [Bundle.find?_erase hb, if_pos rfl]

/-! ## All operations -/

/-- What stands under a key is what the bundle has there. -/
def Holds (ops : List Operation) (b : Bundle) : Prop :=
  ∀ key,
    (∀ {α : Type} {a : Accessor α} {value : α}, Standing ops key a value →
      ∃ p, a.slot.write value = .ok p ∧ b.find? key = some p) ∧
    ((∀ {α : Type} {a : Accessor α} {value : α}, ¬ Standing ops key a value) →
      b.find? key = none)

theorem Holds.concat {b' : Bundle} (h : Holds ops b) (hb : b.Canonical)
    (happly : op.apply b = some b')
    (hkept : ∀ key, ¬ op.Touches key → b'.find? key = b.find? key) : Holds (ops ++ [op]) b' := by
  intro key
  by_cases htouches : op.Touches key
  · simp only [standing_concat_of_touches htouches]
    constructor
    · rintro α a value rfl
      obtain ⟨-, p, hwrite⟩ := htouches
      exact ⟨p, hwrite, find?_apply_put hwrite happly⟩
    · intro hnone
      cases op with
      | put a k value =>
        obtain rfl := htouches.1
        exact absurd rfl hnone
      | erase k =>
        obtain rfl := htouches
        exact find?_apply_erase hb happly
      | trip what => exact htouches.elim
  · simp only [standing_concat_of_not_touches htouches, hkept key htouches]
    exact h key

/-- The operations lead to a store that has, under every key, what stands there. -/
theorem exists_replay (hops : ∀ op ∈ ops, op.Lawful) :
    ∃ b, replay ops = some b ∧ b.Canonical ∧ Holds ops b := by
  induction ops using List.reverseRecOn with
  | nil =>
    refine ⟨.empty, rfl, Bundle.canonical_empty, fun key => ⟨?_, fun _ => rfl⟩⟩
    rintro α a value ⟨before, after, hops, -⟩
    simp at hops
  | append_singleton ops op ih =>
    rw [List.forall_mem_append, List.forall_mem_singleton] at hops
    obtain ⟨b, hreplay, hb, hholds⟩ := ih hops.1
    obtain ⟨b', happly, hb', hkept⟩ := exists_apply hb hops.2
    refine ⟨b', ?_, hb', hholds.concat hb happly hkept⟩
    rw [replay, List.foldlM_append]
    change (replay ops).bind _ = _
    rw [hreplay]
    simp [happly]

/-- The law of the typed store.  Under a key that a put stands under, its pair of accessors reads
the value, and a pair of any other category is told both categories, by labels that differ; under
any other key everything is told that there is nothing.  An operation that does not touch a key
changes no answer about it. -/
theorem fetch_replay (hops : ∀ op ∈ ops, op.Lawful) :
    ∃ b, replay ops = some b ∧ ∀ key,
      (∀ (α : Type) (a : Accessor α) (value : α), Standing ops key a value →
        b.fetch a.slot key = .ok value ∧
        ∀ (β : Type) (c : Accessor β), c.category ≠ a.category →
          b.fetch c.slot key = .error (.typeMismatch key c.category.label a.category.label) ∧
            c.category.label ≠ a.category.label) ∧
      ((∀ (α : Type) (a : Accessor α) (value : α), ¬ Standing ops key a value) →
        ∀ (β : Type) (c : Accessor β), b.fetch c.slot key = .error (.missing key)) ∧
      ∀ op : Operation, op.Lawful → ¬ op.Touches key →
        ∃ b', op.apply b = some b' ∧
          ∀ (β : Type) (c : Accessor β), b'.fetch c.slot key = b.fetch c.slot key := by
  obtain ⟨b, hreplay, hb, hholds⟩ := exists_replay hops
  refine ⟨b, hreplay, fun key => ⟨?_, ?_, ?_⟩⟩
  · intro α a value hstanding
    obtain ⟨p, hwrite, hfind⟩ := (hholds key).1 hstanding
    have hlawful : a.Lawful := by
      obtain ⟨before, after, rfl, -⟩ := hstanding
      exact hops (put a key value) (by simp)
    refine ⟨Bundle.fetch_of_find? hfind ((a.faithful hlawful).read_write value p hwrite), ?_⟩
    intro β c hne
    have hp := Accessor.category_of_write hwrite
    have hread := Bundle.fetch_of_category_ne hfind (a := c) (hp ▸ hne.symm)
    rw [hp] at hread
    exact ⟨hread, fun hlabel => hne (Category.label_injective hlabel)⟩
  · intro hnone β c
    exact Bundle.fetch_of_missing ((hholds key).2 fun {α a value} => hnone α a value)
  · intro op hop htouches
    obtain ⟨b', happly, -, hkept⟩ := exists_apply hb hop
    exact ⟨b', happly, fun β c => Bundle.fetch_congr c.slot (hkept key htouches)⟩

/-! ## A pin on a shelf -/

end Operation

namespace Sample

/-- A point, under whose key a grid without byte form is then put in vain, and a text that is taken
away again. -/
def shelf : List Operation :=
  [.put .record "pin" (⟨3, -4⟩ : Point), .put .text "note" "north", .trip 7,
    .put .serializable "pin" (⟨.ofList [(⟨0, 0⟩, 1)]⟩ : Grid), .erase "note"]

theorem shelf_lawful : ∀ op ∈ shelf, op.Lawful := by
  simp only [shelf, List.forall_mem_cons]
  exact ⟨point_lawful, trivial, trivial, grid_lawful, trivial, List.forall_mem_nil _⟩

end Sample

open Sample in
theorem Operation.fetch_replay_shelf :
    (∀ op ∈ shelf, op.Lawful) ∧ ∃ b, Operation.replay shelf = some b ∧
      b.fetch Slot.record "pin" = .ok (⟨3, -4⟩ : Point) ∧
      b.fetch Slot.intList "pin" = .error (.typeMismatch "pin" "int list" "record") ∧
      b.fetch Slot.text "note" = .error (.missing "note") := by
  obtain ⟨b, hreplay, hreads⟩ := fetch_replay shelf_lawful
  refine ⟨shelf_lawful, b, hreplay, ?_⟩
  have hpin : Operation.Standing shelf "pin" .record (⟨3, -4⟩ : Point) := by
    refine ⟨[], _, rfl, ⟨rfl, _, rfl⟩, ?_⟩
    simp only [List.forall_mem_cons]
    refine ⟨fun h => ?_, id, fun h => ?_, fun h => ?_, List.forall_mem_nil _⟩
    · exact absurd h.1 (by decide)
    · obtain ⟨-, p, hp⟩ := h
      cases hp
    · exact absurd (show "note" = "pin" from h) (by decide)
  have hnote (α : Type) (a : Accessor α) (value : α) :
      ¬ Operation.Standing shelf "note" a value := by
    intro h
    have herased : Operation.Touches "note" (.erase "note") := rfl
    have hlast : Operation.Standing (shelf.dropLast ++ [.erase "note"]) "note" a value := h
    cases (Operation.standing_concat_of_touches herased).1 hlast
  have hread := (hreads "pin").1 _ _ _ hpin
  exact ⟨hread.1, (hread.2 _ .intList nofun).1, (hreads "note").2.1 hnote _ .text⟩

end Relay
