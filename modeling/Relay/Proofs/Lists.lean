import Mathlib.Data.List.Forall2

/-!
# Lists of results

Two ways in which a list comes out of another one.  A function that may fail is applied to every
element, and there is a list of results when it fails nowhere.  Or a function finds some things at
each element, and what was found is listed in the order of the places where it was found.
-/

namespace Relay

/-! ## Results of all elements -/

section Mapped

variable {α β : Type} {f : α → Option β} {xs : List α} {ys : List β}

theorem forall₂_of_mapM (h : xs.mapM f = some ys) :
    List.Forall₂ (fun x y => f x = some y) xs ys := by
  induction xs generalizing ys with
  | nil =>
    obtain rfl : [] = ys := by simpa using h
    exact .nil
  | cons x xs ih =>
    simp only [List.mapM_cons, Option.bind_eq_bind, Option.bind_eq_some_iff, Option.pure_def,
      Option.some.injEq] at h
    obtain ⟨y, hy, ys', hys, rfl⟩ := h
    exact .cons hy (ih hys)

theorem mem_of_mapM_eq_some (h : xs.mapM f = some ys) : ∀ y ∈ ys, ∃ x ∈ xs, f x = some y := by
  have hall := forall₂_of_mapM h
  clear h
  induction hall with
  | nil => exact List.forall_mem_nil _
  | @cons x y xs ys hy hrest ih =>
    rw [List.forall_mem_cons]
    refine ⟨⟨x, List.mem_cons_self, hy⟩, fun z hz => ?_⟩
    obtain ⟨x', hx', hz'⟩ := ih z hz
    exact ⟨x', List.mem_cons_of_mem x hx', hz'⟩

theorem exists_mapM (h : ∀ x ∈ xs, (f x).isSome) : ∃ ys, xs.mapM f = some ys := by
  induction xs with
  | nil => exact ⟨[], rfl⟩
  | cons x xs ih =>
    rw [List.forall_mem_cons] at h
    obtain ⟨y, hy⟩ := Option.isSome_iff_exists.1 h.1
    obtain ⟨ys, hys⟩ := ih h.2
    exact ⟨y :: ys, by simp [hy, hys]⟩

end Mapped

/-! ## Elements of the same place -/

theorem forall₂_of_getElem? {α β : Type} {R : α → β → Prop} {xs : List α} {ys : List β}
    (hlength : ys.length = xs.length)
    (h : ∀ (k : Nat) (x : α), xs[k]? = some x → ∃ y, ys[k]? = some y ∧ R x y) :
    List.Forall₂ R xs ys := by
  induction xs generalizing ys with
  | nil =>
    obtain rfl := List.length_eq_zero_iff.1 hlength
    exact .nil
  | cons x xs ih =>
    cases ys with
    | nil => cases hlength
    | cons y ys =>
      obtain ⟨y', hy', hR⟩ := h 0 x rfl
      obtain rfl := Option.some.inj hy'
      exact .cons hR (ih (Nat.succ.inj hlength) fun k => h (k + 1))

theorem exists_getElem?_of_forall₂ {α β : Type} {R : α → β → Prop} {xs : List α} {ys : List β}
    (h : List.Forall₂ R xs ys) {k : Nat} {x : α} (hx : xs[k]? = some x) :
    ∃ y, ys[k]? = some y ∧ R x y := by
  induction h generalizing k with
  | nil => cases hx
  | @cons _ y _ _ hR _ ih =>
    cases k with
    | zero =>
      obtain rfl := Option.some.inj hx
      exact ⟨y, rfl, hR⟩
    | succ k => exact ih hx

theorem forall₂_map {α β γ : Type} {R : α → β → Prop} {S : α → γ → Prop} {f : β → γ} {xs : List α}
    {ys : List β} (h : List.Forall₂ R xs ys) (hf : ∀ x y, R x y → S x (f y)) :
    List.Forall₂ S xs (ys.map f) :=
  List.forall₂_map_right_iff.2 (h.imp hf)

theorem forall₂_comp {α β γ : Type} {R : α → β → Prop} {S : β → γ → Prop} {xs : List α}
    {ys : List β} {zs : List γ} (hxs : List.Forall₂ R xs ys) (hys : List.Forall₂ S ys zs) :
    List.Forall₂ (fun x z => ∃ y, R x y ∧ S y z) xs zs := by
  induction hxs generalizing zs with
  | nil =>
    cases hys
    exact .nil
  | cons hR _ ih =>
    cases hys with
    | cons hS hrest => exact .cons ⟨_, hR, hS⟩ (ih hrest)

theorem map_eq_map_of_forall₂ {α β γ : Type} {R : α → β → Prop} {f : α → γ} {g : β → γ}
    {xs : List α} {ys : List β} (h : List.Forall₂ R xs ys) (hf : ∀ x y, R x y → f x = g y) :
    xs.map f = ys.map g := by
  rw [← List.forall₂_eq_eq_eq, List.forall₂_map_left_iff, List.forall₂_map_right_iff]
  exact h.imp hf

/-! ## Findings in the order of their places -/

/-- The list has everything that is found at some place, each thing once and in the order of the
places. -/
def Lists {κ δ : Type} (before : κ → κ → Prop) (ds : List δ) (found : κ → δ → Prop) : Prop :=
  ∃ located : List (κ × δ), located.map Prod.snd = ds ∧
    located.Pairwise (fun a b => before a.1 b.1) ∧ ∀ place d, (place, d) ∈ located ↔ found place d

namespace Lists

variable {κ δ α : Type} {before : κ → κ → Prop} {ds es : List δ} {found found' : κ → δ → Prop}

theorem congr (h : Lists before ds found) (hfound : ∀ place d, found place d ↔ found' place d) :
    Lists before ds found' := by
  obtain ⟨located, hmap, hsorted, hmem⟩ := h
  exact ⟨located, hmap, hsorted, fun place d => (hmem place d).trans (hfound place d)⟩

theorem nil (h : ∀ place d, ¬ found place d) : Lists before [] found :=
  ⟨[], rfl, .nil, fun place d => by simp [h place d]⟩

theorem mem_iff (h : Lists before ds found) {d : δ} : d ∈ ds ↔ ∃ place, found place d := by
  obtain ⟨located, rfl, -, hmem⟩ := h
  rw [List.mem_map, Prod.exists]
  simp only [hmem, exists_eq_right]

theorem toList (place : κ) (o : Option δ) :
    Lists before o.toList fun place' d => place' = place ∧ o = some d := by
  cases o with
  | none => exact nil (by simp)
  | some d =>
    refine ⟨[(place, d)], rfl, List.pairwise_singleton _ _, fun place' d' => ?_⟩
    simp [eq_comm]

theorem append (h : Lists before ds found) (h' : Lists before es found')
    (hbefore : ∀ place d place' d', found place d → found' place' d' → before place place') :
    Lists before (ds ++ es) fun place d => found place d ∨ found' place d := by
  obtain ⟨located, rfl, hsorted, hmem⟩ := h
  obtain ⟨located', rfl, hsorted', hmem'⟩ := h'
  refine ⟨located ++ located', List.map_append, ?_, fun place d => ?_⟩
  · rw [List.pairwise_append]
    refine ⟨hsorted, hsorted', ?_⟩
    rintro ⟨place, d⟩ hd ⟨place', d'⟩ hd'
    exact hbefore place d place' d' ((hmem place d).1 hd) ((hmem' place' d').1 hd')
  · rw [List.mem_append, hmem, hmem']

/-- What is found at the elements of a list in turn. -/
theorem flatMap {xs : List α} {f : α → List δ} {found : Nat → α → κ → δ → Prop}
    (h : ∀ k x, xs[k]? = some x → Lists before (f x) (found k x))
    (hbefore : ∀ k x place d k' x' place' d', k < k' → found k x place d →
      found k' x' place' d' → before place place') :
    Lists before (xs.flatMap f) fun place d => ∃ k x, xs[k]? = some x ∧ found k x place d := by
  induction xs generalizing found with
  | nil => exact nil (by simp)
  | cons x rest ih =>
    have hfirst := h 0 x rfl
    have hrest := ih (fun k => h (k + 1))
      fun k x place d k' x' place' d' hk =>
        hbefore (k + 1) x place d (k' + 1) x' place' d' (Nat.succ_lt_succ hk)
    rw [List.flatMap_cons]
    refine (hfirst.append hrest ?_).congr fun place d => ?_
    · rintro place d place' d' hd ⟨k, x', -, hd'⟩
      exact hbefore 0 x place d (k + 1) x' place' d' (Nat.succ_pos k) hd hd'
    · constructor
      · rintro (hd | ⟨k, x', hx', hd⟩)
        · exact ⟨0, x, rfl, hd⟩
        · exact ⟨k + 1, x', hx', hd⟩
      · rintro ⟨k, x', hx', hd⟩
        cases k with
        | zero =>
          obtain rfl := Option.some.inj hx'
          exact .inl hd
        | succ k => exact .inr ⟨k, x', hx', hd⟩

end Lists

end Relay
