import Blocklist.Proofs.Hostname.Syntax

/-!
# The walk from a name through its ancestors

`Walk s ps`: `ps` are the names that are passed from `s` on, where each name is cut at its first dot to get to the
next one, until no dot is left. There is one walk from each name, and it comes to an end (`walk_iff`). On it are the
name and its ancestors, each shorter than the one before it, and with any of them all that is on the walk from there.
-/

namespace Blocklist.Hostname

/-- The names from `s` on of which each is what follows the first dot of the one before it, up to one without a dot. -/
inductive Walk : Text → List Text → Prop
  | last {s : Text} (h : Text.cut? ['.'] s = none) : Walk s [s]
  | next {s l p : Text} {ps : List Text} (h : Text.cut? ['.'] s = some (l, p)) (hwalk : Walk p ps) : Walk s (s :: ps)

variable {l p q s : Text} {ps qs : List Text}

/-! ### One cut -/

theorem length_lt_of_cut? (h : Text.cut? ['.'] s = some (l, p)) : p.length < s.length := by
  rw [(Text.cut?_singleton_eq_some_iff.1 h).1, List.length_append, List.length_cons]
  omega

theorem afterDots_append (h : '.' ∉ l) (s : Text) : afterDots (l ++ s) = afterDots s := by
  induction l with
  | nil => rfl
  | cons c l ih =>
    rw [List.mem_cons, not_or] at h
    rw [List.cons_append, afterDots, ih h.2]
    exact fun hc => h.1 hc.symm

theorem afterDots_of_no_cut (h : Text.cut? ['.'] s = none) : afterDots s = [] := by
  have hs := afterDots_append (Text.cut?_singleton_eq_none_iff.1 h) []
  rwa [List.append_nil] at hs

theorem afterDots_of_cut? (h : Text.cut? ['.'] s = some (l, p)) : afterDots s = p :: afterDots p := by
  obtain ⟨rfl, hl⟩ := Text.cut?_singleton_eq_some_iff.1 h
  rw [afterDots_append hl, afterDots]

/-! ### The whole walk -/

/-- The walk ends, for each cut makes the name shorter. -/
theorem walk_afterDots (s : Text) : Walk s (s :: afterDots s) := by
  cases h : Text.cut? ['.'] s with
  | none =>
    rw [afterDots_of_no_cut h]
    exact .last h
  | some cut =>
    obtain ⟨l, p⟩ := cut
    have := length_lt_of_cut? h
    rw [afterDots_of_cut? h]
    exact .next h (walk_afterDots p)
termination_by s.length

theorem walk_iff : Walk s ps ↔ ps = s :: afterDots s := by
  constructor
  · intro h
    induction h with
    | last h => rw [afterDots_of_no_cut h]
    | next h _ ih => rw [afterDots_of_cut? h, ih]
  · rintro rfl
    exact walk_afterDots s

namespace Walk

theorem mem_iff (h : Walk s ps) : p ∈ ps ↔ Covers p s := by
  rw [walk_iff.1 h, List.mem_cons, mem_afterDots_iff, Covers]

theorem pairwise (h : Walk s ps) : ps.Pairwise fun p q => q.length < p.length := by
  induction h with
  | last => exact List.pairwise_singleton _ _
  | next h hwalk ih =>
    refine List.pairwise_cons.2 ⟨fun q hq => ?_, ih⟩
    exact (hwalk.mem_iff.1 hq).length_le.trans_lt (length_lt_of_cut? h)

end Walk

/-- The walk from a name ends, and what it passes is enumerated: the name and its ancestors and nothing else, each once
and shorter than the one before it. With an ancestor, its own ancestors are enumerated. -/
theorem withAncestors_enumerates (h : s ≠ []) :
    (∀ ps, Walk s ps ↔ ps = withAncestors s) ∧
      (withAncestors s).Pairwise (fun p q => q.length < p.length) ∧ (withAncestors s).Nodup ∧
      (∀ p, p ∈ withAncestors s ↔ p = s ∨ '.' :: p <:+ s) ∧
      ∀ p ∈ withAncestors s, withAncestors p ⊆ withAncestors s := by
  have hwalk (ps : List Text) : Walk s ps ↔ ps = withAncestors s := by rw [walk_iff, withAncestors, if_neg h]
  have hpairwise := ((hwalk _).2 rfl).pairwise
  refine ⟨hwalk, hpairwise, hpairwise.imp fun hlt => ?_, fun p => ((hwalk _).2 rfl).mem_iff, fun p hp q hq => ?_⟩
  · rintro rfl
    exact Nat.lt_irrefl _ hlt
  · have hcovers := (mem_withAncestors_iff.1 hq).2.trans (mem_withAncestors_iff.1 hp).2
    exact mem_withAncestors_iff.2 ⟨h, hcovers⟩

/-- Labels may be empty, and so may the last ancestor. -/
theorem withAncestors_enumerates_emptyLabels : ".a..".toList ≠ [] ∧
    Walk ".a..".toList [".a..".toList, "a..".toList, ".".toList, []] ∧
      withAncestors ".".toList ⊆ withAncestors ".a..".toList := by
  obtain ⟨hwalk, -, -, hmem, hsubset⟩ := withAncestors_enumerates (s := ".a..".toList) (by decide)
  exact ⟨by decide, (hwalk _).2 (by decide), hsubset _ ((hmem _).2 (by decide))⟩

end Blocklist.Hostname
