import Mathlib.Data.List.Basic

/-!
# Elements picked by their places

`Picks P xs picked`: the list `picked` has exactly the elements of `xs` at the places with `P`, in their order.
-/

namespace Blocklist.Transform

/-- The elements of `xs` at the places with `P`, in order. -/
def Picks {α : Type} (P : Nat → Prop) (xs picked : List α) : Prop :=
  ∃ places : List Nat, places.Pairwise (· < ·) ∧ (∀ i, i ∈ places ↔ P i) ∧ picked = places.filterMap (xs[·]?)

namespace Picks

variable {α : Type} {P Q : Nat → Prop} {x : α} {xs picked : List α}

theorem nil (h : ∀ i, ¬ P i) : Picks P ([] : List α) [] := ⟨[], .nil, by simp [h], rfl⟩

theorem congr (h : Picks P xs picked) (hiff : ∀ i, P i ↔ Q i) : Picks Q xs picked := by
  obtain ⟨places, horder, hplaces, hpicked⟩ := h
  exact ⟨places, horder, fun i => (hplaces i).trans (hiff i), hpicked⟩

theorem cons_of_pos (h₀ : P 0) (h : Picks (fun i => P (i + 1)) xs picked) : Picks P (x :: xs) (x :: picked) := by
  obtain ⟨places, horder, hplaces, rfl⟩ := h
  refine ⟨0 :: places.map (· + 1), ?_, ?_, ?_⟩
  · refine .cons (fun i hi => ?_) (List.pairwise_map.2 (horder.imp Nat.succ_lt_succ))
    obtain ⟨j, -, rfl⟩ := List.mem_map.1 hi
    exact Nat.succ_pos j
  · rintro (_ | i)
    · simp [h₀]
    · simp [hplaces]
  · simp [List.filterMap_map]

theorem cons_of_neg (h₀ : ¬ P 0) (h : Picks (fun i => P (i + 1)) xs picked) : Picks P (x :: xs) picked := by
  obtain ⟨places, horder, hplaces, rfl⟩ := h
  refine ⟨places.map (· + 1), List.pairwise_map.2 (horder.imp Nat.succ_lt_succ), ?_, ?_⟩
  · rintro (_ | i)
    · simp [h₀]
    · simp [hplaces]
  · simp [List.filterMap_map]

theorem map {β : Type} (f : α → β) (h : Picks P xs picked) : Picks P (xs.map f) (picked.map f) := by
  obtain ⟨places, horder, hplaces, rfl⟩ := h
  refine ⟨places, horder, hplaces, ?_⟩
  rw [List.map_filterMap]
  exact List.filterMap_congr fun i _ => (List.getElem?_map ..).symm

theorem filter (q : α → Bool) (h : Picks P xs picked) :
    Picks (fun i => P i ∧ ∃ x, xs[i]? = some x ∧ q x) xs (picked.filter q) := by
  obtain ⟨places, horder, hplaces, rfl⟩ := h
  refine ⟨places.filter fun i => (xs[i]?).any q, horder.filter _, fun i => ?_, ?_⟩
  · rw [List.mem_filter, hplaces, Option.any_eq_true]
  · -- The places of the elements with `q`.
    rw [List.filter_filterMap, List.filterMap_filter]
    refine List.filterMap_congr fun i _ => ?_
    cases xs[i]? with
    | none => simp
    | some x => cases hq : q x <;> simp [hq]

theorem pairwise {R : α → α → Prop} (h : Picks P xs picked)
    (hR : ∀ i j x y, i < j → P i → P j → xs[i]? = some x → xs[j]? = some y → R x y) : picked.Pairwise R := by
  obtain ⟨places, horder, hplaces, rfl⟩ := h
  refine List.pairwise_filterMap.2 (horder.imp_of_mem ?_)
  intro i j hi hj hij x hx y hy
  exact hR i j x y hij ((hplaces i).1 hi) ((hplaces j).1 hj) hx hy

end Picks

end Blocklist.Transform
