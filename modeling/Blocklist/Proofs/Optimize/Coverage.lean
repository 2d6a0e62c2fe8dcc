import Blocklist.Proofs.Optimize.Redundancy
import Blocklist.Proofs.Transform.Cover

/-!
# Minimal lists of plain rules

Which lines stay without redundant rules: those that are no plain rules, and the first plain rule for each
hostname that has no parent among the hostnames of plain rules (`Remains`). A parent that is dropped itself counts as
well, and yet every hostname stays covered, since a hostname of least length on the way up has no parent
(`removeRedundant_minimal`). Nothing is needed of the public suffixes for it: a parent is an ancestor.
-/

namespace Blocklist.Optimize
open Hostname Transform

variable {psl : SuffixList} {h l p : Text} {lines blocked seen : List Text}

/-- A line that is neither comment nor blank nor hosts line, and a rule for the whole hostname `h` without exception
and modifiers. -/
structure IsPlainFor (h l : Text) : Prop where
  noComment : isCommentOrBlank l = false
  noHosts : isHostsLine l = false
  rule : ∃ r, AdblockRule.read l = .ok r ∧ r.exception = false ∧ r.modifiers = [] ∧ r.hostname? = some h

theorem isPlainFor_iff : IsPlainFor h l ↔ plainHostOf? l = some h := by
  simp only [plainHostOf?_eq_some_iff, ruleOf?_eq_some_iff, plainHost?_eq_some_iff]
  constructor
  · rintro ⟨hcomment, hhosts, r, hr, hplain⟩
    exact ⟨r, ⟨hcomment, hhosts, hr⟩, hplain⟩
  · rintro ⟨r, ⟨hcomment, hhosts, hr⟩, hplain⟩
    exact ⟨hcomment, hhosts, r, hr, hplain⟩

theorem mem_plainHosts_iff : h ∈ plainHosts lines ↔ ∃ l ∈ lines, IsPlainFor h l := by
  simp only [plainHosts, List.mem_filterMap, isPlainFor_iff]

/-! ### The places that stay -/

/-- The line at this place stays: if it is a plain rule, none before it is for the same hostname, and none at all for
a parent. -/
def Remains (psl : SuffixList) (lines : List Text) (i : Nat) : Prop :=
  ∃ l, lines[i]? = some l ∧ ∀ h, IsPlainFor h l →
    (∀ k ∈ lines.take i, ¬ IsPlainFor h k) ∧ ∀ p ∈ parentDomains psl h, ∀ k ∈ lines, ¬ IsPlainFor p k

/-- The line at this place is no plain rule, or the first for its hostname, which is none of those seen before and has
no parent that is blocked. -/
def IsKept (psl : SuffixList) (blocked seen lines : List Text) (i : Nat) : Prop :=
  ∃ l, lines[i]? = some l ∧ ∀ h ∈ plainHostOf? l,
    (h ∉ seen ∧ h ∉ plainHosts (lines.take i)) ∧ ∀ p ∈ parentDomains psl h, p ∉ blocked

theorem isKept_congr {seen' : List Text} {i : Nat} (h : ∀ w, w ∈ seen ↔ w ∈ seen') :
    IsKept psl blocked seen lines i ↔ IsKept psl blocked seen' lines i := by
  simp only [IsKept, h]

theorem isKept_zero_iff : IsKept psl blocked seen (l :: lines) 0 ↔
    ∀ h ∈ plainHostOf? l, h ∉ seen ∧ ∀ p ∈ parentDomains psl h, p ∉ blocked := by
  simp [IsKept, plainHosts]

theorem isKept_succ_iff {i : Nat} :
    IsKept psl blocked seen (l :: lines) (i + 1) ↔ IsKept psl blocked ((plainHostOf? l).toList ++ seen) lines i := by
  cases hhost : plainHostOf? l with
  | none => simp [IsKept, plainHosts, hhost]
  | some w => simp [IsKept, plainHosts, hhost, and_assoc, and_left_comm]

theorem picks_dropRedundant (blocked seen lines : List Text) :
    Picks (IsKept psl blocked seen lines) lines (dropRedundant psl blocked seen lines).1 := by
  induction lines generalizing seen with
  | nil => exact .nil fun i => by simp [IsKept]
  | cons l lines ih =>
    have hlater := (ih ((plainHostOf? l).toList ++ seen)).congr fun i => isKept_succ_iff.symm
    rw [dropRedundant_cons]
    cases hhost : plainHostOf? l with
    | none =>
      rw [hhost] at hlater
      exact hlater.cons_of_pos (isKept_zero_iff.2 (by simp [hhost]))
    | some w =>
      rw [hhost] at hlater
      by_cases hw : w ∈ seen
      · simp only [hw, if_true]
        refine .cons_of_neg (fun h => (isKept_zero_iff.1 h w hhost).1 hw) ((ih seen).congr fun i => ?_)
        rw [isKept_succ_iff, hhost]
        exact isKept_congr (mem_iff_mem_toList_append hw)
      · simp only [hw, if_false]
        have hparent : (parentDomains psl w).any (· ∈ blocked) ↔ ∃ p ∈ parentDomains psl w, p ∈ blocked := by simp
        split
        · rename_i habove
          obtain ⟨p, hp, hblocked⟩ := hparent.1 habove
          exact hlater.cons_of_neg fun h => (isKept_zero_iff.1 h w hhost).2 p hp hblocked
        · rename_i hnone
          refine hlater.cons_of_pos (isKept_zero_iff.2 fun h hh => ?_)
          obtain rfl := Option.some.inj (hhost.symm.trans hh)
          exact ⟨hw, fun p hp hblocked => hnone (hparent.2 ⟨p, hp, hblocked⟩)⟩

theorem removeRedundant_fst (psl : SuffixList) (lines : List Text) (s : Stats) :
    (removeRedundant psl lines s).1 = (dropRedundant psl (plainHosts lines) [] lines).1 := rfl

theorem picks_removeRedundant (psl : SuffixList) (lines : List Text) (s : Stats) :
    Picks (Remains psl lines) lines (removeRedundant psl lines s).1 := by
  rw [removeRedundant_fst]
  refine (picks_dropRedundant (plainHosts lines) [] lines).congr fun i => ?_
  simp only [IsKept, Remains, isPlainFor_iff, plainHosts, List.mem_filterMap, Option.mem_def, List.not_mem_nil,
    not_false_eq_true, true_and, not_exists, not_and]

/-! ### What stays covers the list -/

/-- The hostname of a plain rule is covered by one whose rule stays, namely where going up from parent to parent
ends. -/
theorem exists_plainFor_covers (s : Stats) (hh : h ∈ plainHosts lines) :
    ∃ k ∈ (removeRedundant psl lines s).1, ∃ p, IsPlainFor p k ∧ Covers p h := by
  induction hn : h.length using Nat.strong_induction_on generalizing h with
  | _ n ih =>
    rcases exists_mem_dropRedundant_or_parent hh with ⟨k, hk, hplain⟩ | ⟨p, hp, hparent⟩
    · exact ⟨k, hk, h, isPlainFor_iff.2 hplain, .refl h⟩
    · have hancestor := (of_mem_parentDomains hparent).1
      have hlength := length_lt_of_ancestor hancestor
      obtain ⟨k, hk, q, hplain, hcovers⟩ := ih p.length (by omega) hp rfl
      exact ⟨k, hk, q, hplain, hcovers.trans (.inr hancestor)⟩

/-- Removing redundant rules keeps, in their order, the lines that are no plain rules, and the plain rules that are
first for their hostnames and have no parent among those of the list. Every hostname of a plain rule stays covered;
the hostnames that stay are different, and none is a parent of another one. This is so for every public suffix list,
also for one where the suffix of a parent is not that of the hostname. -/
theorem removeRedundant_minimal (psl : SuffixList) (lines : List Text) (s : Stats) :
    Picks (Remains psl lines) lines (removeRedundant psl lines s).1 ∧
    (∀ l ∈ lines, ∀ h, IsPlainFor h l → ∃ k ∈ (removeRedundant psl lines s).1, ∃ p, IsPlainFor p k ∧ Covers p h) ∧
    (removeRedundant psl lines s).1.Pairwise (fun k l => ∀ h, IsPlainFor h k → ¬ IsPlainFor h l) ∧
    ∀ k ∈ (removeRedundant psl lines s).1, ∀ l ∈ (removeRedundant psl lines s).1,
      ∀ p h, IsPlainFor p k → IsPlainFor h l → p ∉ parentDomains psl h := by
  have hpicks := picks_removeRedundant psl lines s
  refine ⟨hpicks, ?_, hpicks.pairwise ?_, ?_⟩
  · exact fun l hl h hplain => exists_plainFor_covers s (mem_plainHosts_iff.2 ⟨l, hl, hplain⟩)
  · rintro i j k l hij - ⟨l', hl', hfirst⟩ hk hl h hkh hlh
    obtain rfl := Option.some.inj (hl'.symm.trans hl)
    exact (hfirst h hlh).1 k (List.mem_of_getElem? ((List.getElem?_take_of_lt hij).trans hk)) hkh
  · intro k hk l hl p h hkp hlh hparent
    obtain ⟨places, -, hplaces, hout⟩ := hpicks
    rw [hout, List.mem_filterMap] at hl
    obtain ⟨j, hj, hl⟩ := hl
    obtain ⟨l', hl', hnone⟩ := (hplaces j).1 hj
    obtain rfl := Option.some.inj (hl'.symm.trans hl)
    exact (hnone h hlh).2 p hparent k (mem_of_mem_dropRedundant hk) hkp

end Blocklist.Optimize
