import Blocklist.Proofs.Compile.Stages
import Blocklist.Proofs.Transform.Remarks
import Blocklist.Proofs.Validity.Lists
import Mathlib.Data.List.Nodup

/-!
# Repeated rules

Deduplication leaves each rule of a list once, where it first stands (`rulesOf_deduplicate`). Of the stages that
follow it, the validators drop rules, and two others write rules anew, so that two rules may become one text.
`Staged.run_rules`: the rules of a list without repeated rules are what these two make of rules that are all
different, less those that the validators drop. With neither of the two, no rule is repeated.
-/

namespace Blocklist

variable {psl : SuffixList} {enabled : List Transformation} {l : Text} {lines : List Text}

/-- Where a list without repetitions is written anew, a text is repeated only if two of its elements give it. -/
theorem nodup_filter_map_iff {α β : Type} {g : α → β} {p : β → Bool} {xs : List α} (hxs : xs.Nodup) :
    ((xs.map g).filter p).Nodup ↔ ∀ x ∈ xs, ∀ y ∈ xs, g x = g y → p (g x) → x = y := by
  rw [List.filter_map, List.nodup_map_iff_inj_on (hxs.filter _)]
  simp only [List.mem_filter, Function.comp_apply]
  constructor
  · intro h x hx y hy heq hp
    exact h x ⟨hx, hp⟩ y ⟨hy, heq ▸ hp⟩ heq
  · rintro h x ⟨hx, hp⟩ y ⟨hy, -⟩ heq
    exact h x hx y hy heq hp

/-! ### The rules through a single stage -/

namespace Transform

theorem rulesOf_removeEmptyLines (lines : List Text) : rulesOf (removeEmptyLines lines) = rulesOf lines := by
  rw [rulesOf, removeEmptyLines, List.filter_filter]
  refine List.filter_congr fun l _ => ?_
  rw [isCommentOrBlank]
  cases l.isBlankText <;> simp

theorem rulesOf_insertFinalNewLine (lines : List Text) : rulesOf (insertFinalNewLine lines) = rulesOf lines := by
  rw [insertFinalNewLine]
  split
  · split
    · rfl
    · rw [rulesOf_append]
      exact List.append_nil _
  · rfl

theorem stripLine_of_comment (h : isCommentOrBlank l) : stripLine l = l := by
  rw [stripLine, h]
  rfl

theorem invertLine_of_comment (h : isCommentOrBlank l) : invertLine l = l := by
  rw [invertLine, h]
  rfl

end Transform

/-! ### The stages after deduplication -/

namespace Transformation
open Transform Validity

theorem runEnabled_append (order more : List Transformation) :
    runEnabled psl (order ++ more) enabled lines =
      runEnabled psl more enabled (runEnabled psl order enabled lines) := by
  rw [runEnabled, List.filter_append, List.foldl_append]
  rfl

theorem runEnabled_singleton (t : Transformation) :
    runEnabled psl [t] enabled lines = if t ∈ enabled then t.run psl lines else lines := by
  rw [runEnabled]
  by_cases ht : t ∈ enabled <;> simp [ht]

def untilDeduplicate : List Transformation := [convertToAscii, trimLines, removeComments, compress, deduplicate]

/-- What the two transformations after deduplication make of a line, if they are enabled: they drop modifiers from
it and turn it into an exception. -/
def rewrite (enabled : List Transformation) (l : Text) : Text :=
  let stripped := if removeModifiers ∈ enabled then stripLine l else l
  if invertAllow ∈ enabled then invertLine stripped else stripped

/-- Whether a line is valid for the validators that are enabled. -/
def accepts (psl : SuffixList) (enabled : List Transformation) (l : Text) : Bool :=
  (validate ∉ enabled || isValid psl false l) && (validateAllowIp ∉ enabled || isValid psl true l)

theorem rewrite_of_comment (h : isCommentOrBlank l) : rewrite enabled l = l := by
  simp only [rewrite, stripLine_of_comment h, invertLine_of_comment h, ite_self]

theorem rewrite_eq_self (hstrip : removeModifiers ∉ enabled) (hinvert : invertAllow ∉ enabled) (l : Text) :
    rewrite enabled l = l := by
  rw [rewrite, if_neg hinvert, if_neg hstrip]

theorem runEnabled_rewriting (lines : List Text) :
    runEnabled psl [removeModifiers, invertAllow] enabled lines = lines.map (rewrite enabled) := by
  rw [show [removeModifiers, invertAllow] = [removeModifiers] ++ [invertAllow] from rfl, runEnabled_append,
    runEnabled_singleton, runEnabled_singleton]
  unfold rewrite
  by_cases hstrip : removeModifiers ∈ enabled <;> by_cases hinvert : invertAllow ∈ enabled <;>
    simp [hstrip, hinvert, run, Transform.removeModifiers, Transform.invertAllow]

theorem rulesOf_validating (lines : List Text) :
    rulesOf (runEnabled psl [validate, validateAllowIp] enabled lines) =
      (rulesOf lines).filter (accepts psl enabled) := by
  have hrun : (rulesOf (runEnabled psl [validate, validateAllowIp] enabled lines)) =
      ((rulesOf lines).filter fun l => validate ∉ enabled || isValid psl false l).filter
        fun l => validateAllowIp ∉ enabled || isValid psl true l := by
    rw [show [validate, validateAllowIp] = [validate] ++ [validateAllowIp] from rfl, runEnabled_append,
      runEnabled_singleton, runEnabled_singleton]
    by_cases hv : validate ∈ enabled <;> by_cases hvip : validateAllowIp ∈ enabled <;>
      simp [hv, hvip, run, rulesOf_validLines]
  rw [hrun, List.filter_filter]
  exact List.filter_congr fun l _ => Bool.and_comm ..

/-- The rules that come out of deduplication are all different. -/
theorem nodup_untilDeduplicate (hdedup : deduplicate ∈ enabled) (lines : List Text) :
    (rulesOf (runEnabled psl untilDeduplicate enabled lines)).Nodup := by
  rw [show untilDeduplicate = [convertToAscii, trimLines, removeComments, compress] ++ [deduplicate] from rfl,
    runEnabled_concat, if_pos hdedup, run]
  exact nodup_rulesOf_deduplicate _

theorem rulesOf_beforeOptimizer (lines : List Text) :
    rulesOf (runEnabled psl beforeOptimizer enabled lines) =
      (rulesOf ((rulesOf (runEnabled psl untilDeduplicate enabled lines)).map (rewrite enabled))).filter
        (accepts psl enabled) := by
  rw [show beforeOptimizer = untilDeduplicate ++ [removeModifiers, invertAllow] ++ [validate, validateAllowIp]
    from rfl, runEnabled_append, runEnabled_append, rulesOf_validating, runEnabled_rewriting,
    rulesOf_map fun l hl => rewrite_of_comment hl]

theorem rulesOf_afterOptimizer (lines : List Text) :
    rulesOf (runEnabled psl afterOptimizer enabled lines) = rulesOf lines := by
  rw [show afterOptimizer = [removeEmptyLines] ++ [insertFinalNewLine] from rfl, runEnabled_append,
    runEnabled_singleton, runEnabled_singleton]
  have hempty : rulesOf (if removeEmptyLines ∈ enabled then run psl removeEmptyLines lines else lines) =
      rulesOf lines := by
    split
    · exact rulesOf_removeEmptyLines lines
    · rfl
  rw [← hempty]
  split
  · exact rulesOf_insertFinalNewLine _
  · rfl

end Transformation

namespace Staged
open Transformation

variable {σ : Type} {tables : Tables} {f : Fetcher σ} {w : σ} {settings : ListSettings} {s : Staged}

/-- With deduplication enabled, the rules that come out are what the enabled ones of two transformations make of
rules that are all different, less those that the validators drop. A rule is repeated only if these write one
text for two of them. -/
theorem run_rules (hdedup : deduplicate ∈ settings.transformations)
    (hrun : ((run tables f settings none lines).run w).1 = .ok s) :
    ∃ given : List Text, given.Sublist lines ∧
      let enabled := settings.transformations
      let different := rulesOf (runEnabled tables.suffixes untilDeduplicate enabled given)
      different.Nodup ∧
      rulesOf s.lines = (rulesOf (different.map (rewrite enabled))).filter (accepts tables.suffixes enabled) ∧
      ((rulesOf s.lines).Nodup ↔ ∀ k ∈ different, ∀ l ∈ different, rewrite enabled k = rewrite enabled l →
        isCommentOrBlank (rewrite enabled k) = false → accepts tables.suffixes enabled (rewrite enabled k) → k = l) ∧
      (removeModifiers ∉ enabled → invertAllow ∉ enabled → (rulesOf s.lines).Nodup) := by
  obtain ⟨s₀, hgiven, hfinish⟩ := of_run hrun
  refine ⟨s₀.lines, hgiven, ?_⟩
  intro enabled different
  have hnodup : different.Nodup := nodup_untilDeduplicate hdedup s₀.lines
  have hrules : rulesOf s.lines =
      (rulesOf (different.map (rewrite enabled))).filter (accepts tables.suffixes enabled) := by
    obtain rfl := Except.ok.inj hfinish
    exact (rulesOf_afterOptimizer _).trans (rulesOf_beforeOptimizer s₀.lines)
  have hiff : (rulesOf s.lines).Nodup ↔ ∀ k ∈ different, ∀ l ∈ different, rewrite enabled k = rewrite enabled l →
      isCommentOrBlank (rewrite enabled k) = false → accepts tables.suffixes enabled (rewrite enabled k) → k = l := by
    rw [hrules, rulesOf, List.filter_filter, nodup_filter_map_iff hnodup]
    simp only [Bool.and_eq_true, Bool.not_eq_true', and_imp]
    exact forall₅_congr fun k _ l _ _ => imp.swap
  refine ⟨hnodup, hrules, hiff, fun hstrip hinvert => hiff.2 fun k _ l _ heq _ _ => ?_⟩
  rwa [rewrite_eq_self hstrip hinvert, rewrite_eq_self hstrip hinvert] at heq

theorem run_rules_distinct :
    ∃ s, ((run .sample emptySources { transformations := [.validate, .deduplicate, .compress] } none
        ["||b.com^".toList, "||a.com^$important".toList, "b.com".toList, "||a.com^$important".toList]).run ()).1 =
          .ok s ∧
      s.lines = ["||b.com^".toList, "||a.com^$important".toList] ∧ (rulesOf s.lines).Nodup := by
  obtain ⟨s, hrun, hlines⟩ : ∃ s, ((run .sample emptySources
      { transformations := [.validate, .deduplicate, .compress] } none
      ["||b.com^".toList, "||a.com^$important".toList, "b.com".toList, "||a.com^$important".toList]).run ()).1 =
        .ok s ∧ s.lines = ["||b.com^".toList, "||a.com^$important".toList] := ⟨_, rfl, rfl⟩
  obtain ⟨-, -, -, -, -, hnodup⟩ := run_rules (by decide) hrun
  exact ⟨s, hrun, hlines, hnodup (by decide) (by decide)⟩

/-- A rule without its removable modifier is the rule above it. -/
theorem run_repeats :
    ∃ s, ((run .sample emptySources { transformations := [.deduplicate, .removeModifiers] } none
        ["||a.com^".toList, "||a.com^$third-party".toList]).run ()).1 = .ok s ∧
      s.lines = ["||a.com^".toList, "||a.com^".toList] ∧ ¬ (rulesOf s.lines).Nodup :=
  ⟨_, rfl, rfl, by decide⟩

end Staged

end Blocklist
