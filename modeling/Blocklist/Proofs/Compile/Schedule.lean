import Blocklist.Compile.Basic
import Blocklist.Proofs.Directive.Attempt
import Mathlib.Data.List.Perm.Basic

/-!
# Sources in the order of their ends

A schedule takes every source once (`Schedule.order_perm`), and what has become of the sources is put back in their
places (`Schedule.map_arrange`). So the parts of a list are those of its sources in the order of the configuration,
whichever of them ends first (`Compiled.sources_of_gatherLines`, `Compiled.locations_of_compile`).
-/

namespace Blocklist

namespace Schedule

variable {α β : Type} {s : Schedule} {items : List α} {done : List (Nat × β)} {a : β} {count i : Nat}

theorem next_lt (s : Schedule) (left : Nat) : s.next left < left + 1 := by
  have hpos : 0 < min (max 1 s.limit) (left + 1) := by omega
  exact Nat.lt_of_lt_of_le (Nat.mod_lt _ hpos) (Nat.min_le_right ..)

theorem orderFrom_perm (h : items.length = count) : (s.orderFrom count items).Perm items := by
  induction count generalizing items with
  | zero =>
    rw [List.eq_nil_of_length_eq_zero h]
    exact .refl _
  | succ left ih =>
    have hnext : s.next left < items.length := h ▸ s.next_lt left
    have hrest : (items.eraseIdx (s.next left)).length = left := by
      rw [List.length_eraseIdx_of_lt hnext]
      omega
    rw [orderFrom, List.getElem?_eq_getElem hnext]
    exact ((ih hrest).cons _).trans (List.getElem_cons_eraseIdx_perm hnext)

/-- Every item is taken once, with its place. -/
theorem order_perm (s : Schedule) (items : List α) : (s.order items).Perm items.zipIdx :=
  orderFrom_perm List.length_zipIdx

theorem mem_of_mem_arrange (h : a ∈ arrange done) : ∃ i, (i, a) ∈ done := by
  obtain ⟨i, -, hi⟩ := List.mem_filterMap.1 h
  obtain ⟨before, after, rfl, -⟩ := List.lookup_eq_some_iff.1 hi
  exact ⟨i, by simp⟩

theorem lookup_of_mem (hnodup : (done.map Prod.fst).Nodup) (h : (i, a) ∈ done) : done.lookup i = some a := by
  obtain ⟨before, after, rfl⟩ := List.append_of_mem h
  refine List.lookup_eq_some_iff.2 ⟨before, after, rfl, fun p hp => ?_⟩
  rw [List.map_append, List.nodup_append] at hnodup
  simpa using (hnodup.2.2 p.1 (List.mem_map_of_mem hp) i (by simp)).symm

theorem filterMap_getElem?_range (items : List α) :
    ((List.range items.length).filterMap fun i => items[i]?) = items := by
  induction items with
  | nil => rfl
  | cons a items ih =>
    rw [List.length_cons, List.range_succ_eq_map, List.filterMap_cons_some (List.getElem?_cons_zero ..),
      List.filterMap_map]
    exact congrArg (a :: ·) ih

/-- If every item was done once, with its place, the results are in the order of the items. -/
theorem map_arrange {g : β → α} (h : (done.map fun d => (g d.2, d.1)).Perm items.zipIdx) :
    (arrange done).map g = items := by
  have hkeys : (done.map Prod.fst).Perm (List.range items.length) := by
    have hplaces := h.map Prod.snd
    rwa [List.map_map, List.zipIdx_map_snd, ← List.range_eq_range'] at hplaces
  have hlength : done.length = items.length := by simpa using hkeys.length_eq
  have hlookup : ∀ i ∈ List.range done.length, (done.lookup i).map g = items[i]? := by
    intro i hi
    rw [hlength, List.mem_range] at hi
    have hmem : (items[i], i) ∈ items.zipIdx :=
      List.mk_mem_zipIdx_iff_getElem?.2 (List.getElem?_eq_getElem hi)
    obtain ⟨⟨i', a⟩, hd, heq⟩ := List.mem_map.1 (h.mem_iff.2 hmem)
    obtain ⟨ha, rfl⟩ := Prod.mk.inj heq
    rw [lookup_of_mem (hkeys.nodup_iff.2 List.nodup_range) hd, List.getElem?_eq_getElem hi]
    exact congrArg some ha
  rw [arrange, List.map_filterMap, List.filterMap_congr hlookup, hlength, filterMap_getElem?_range]

end Schedule

namespace Compiled

variable {σ : Type} {tables : Tables} {f : Fetcher σ} {w : σ} {o : DownloadOptions} {schedule : Schedule}
  {now : Timestamp} {c : Configuration} {list : Compiled} {source : Source} {sources : List Source} {lines : List Text}
  {parts : List (Source × List Text)}

section
variable (h : ((gatherLines tables f o schedule sources).run w).1 = .ok parts)
include h

/-- What a schedule has done, before it is put in order. -/
theorem exists_done_of_gatherLines : ∃ done : List (Nat × Source × List Text), parts = Schedule.arrange done ∧
    (done.map fun d => (d.2.1, d.1)) = schedule.order sources ∧
    ∀ d ∈ done, ∃ w', ((sourceLines tables f o d.2.1).run w').1 = .ok d.2.2 := by
  obtain ⟨done, hdone, h⟩ := Attempt.exists_of_run_bind h
  rw [Attempt.run_pure] at h
  refine ⟨done, (Except.ok.inj h).symm, Attempt.map_of_run_mapM (fun x s y hy => ?_) hdone, fun d hd => ?_⟩
  · obtain ⟨lines, -, hy⟩ := Attempt.exists_of_run_bind hy
    rw [Attempt.run_pure] at hy
    obtain rfl := Except.ok.inj hy
    rfl
  · obtain ⟨x, -, w', hx⟩ := Attempt.exists_of_run_mapM hdone hd
    obtain ⟨lines, hlines, hx⟩ := Attempt.exists_of_run_bind hx
    rw [Attempt.run_pure] at hx
    obtain rfl := Except.ok.inj hx
    exact ⟨w', hlines⟩

theorem sources_of_gatherLines : parts.map Prod.fst = sources := by
  obtain ⟨done, rfl, horder, -⟩ := exists_done_of_gatherLines h
  exact Schedule.map_arrange (horder ▸ schedule.order_perm sources)

theorem exists_run_of_mem_gatherLines (hmem : (source, lines) ∈ parts) :
    ∃ w', ((sourceLines tables f o source).run w').1 = .ok lines := by
  obtain ⟨done, hparts, -, hrun⟩ := exists_done_of_gatherLines h
  rw [hparts] at hmem
  obtain ⟨i, hi⟩ := Schedule.mem_of_mem_arrange hmem
  exact hrun (i, source, lines) hi

end

/-- A compiled list counts the sources of its configuration in their order. -/
theorem locations_of_compile (h : ((compile tables f o schedule now c).run w).1 = .ok list) :
    list.sources.map (·.location) = c.sources.map (·.location) := by
  obtain ⟨parts, hparts, h⟩ := Attempt.exists_of_run_bind h
  obtain ⟨staged, -, h⟩ := Attempt.exists_of_run_bind h
  rw [Attempt.run_pure] at h
  have hsources : list.sources = parts.map fun p => ⟨p.1.location, p.2.length⟩ :=
    congrArg Compiled.sources (Except.ok.inj h).symm
  rw [hsources, ← sources_of_gatherLines hparts, List.map_map, List.map_map]
  exact List.map_congr_left fun _ _ => rfl

end Compiled
end Blocklist
