import Blocklist.Compile.SampleTables
import Blocklist.Compile.Stages
import Blocklist.Proofs.Directive.Attempt
import Blocklist.Proofs.Validity.Rewriting

/-!
# What the stages leave

The validators are the last stages before the optimizer, and so what the optimizer gets is valid
(`isValid_of_mem_beforeOptimizer`). `Staged.run_valid`: after all stages a line is valid too, unless the optimizer
wrote it for a valid rule that is garbled or spoiled by that. It can be spoiled into a rule for a whole public
suffix (`Staged.run_spoils`).
-/

namespace Blocklist
open Optimize Validity

variable {psl : SuffixList} {allowIp : Bool} {enabled order : List Transformation} {l : Text} {lines : List Text}

/-- The enabled validator by which a list is judged: the one that allows addresses only counts alone. -/
def Validates (allowIp : Bool) (enabled : List Transformation) : Prop :=
  if allowIp then .validate ∉ enabled ∧ .validateAllowIp ∈ enabled else .validate ∈ enabled

instance : Decidable (Validates allowIp enabled) :=
  inferInstanceAs (Decidable (if allowIp then _ else _))

namespace Transformation

theorem runEnabled_concat (t : Transformation) :
    runEnabled psl (order ++ [t]) enabled lines =
      if t ∈ enabled then t.run psl (runEnabled psl order enabled lines) else runEnabled psl order enabled lines := by
  rw [runEnabled, List.filter_append, List.foldl_append, runEnabled]
  by_cases ht : t ∈ enabled <;> simp [ht]

/-- What the optimizer gets is valid. -/
theorem isValid_of_mem_beforeOptimizer (henabled : Validates allowIp enabled)
    (hl : l ∈ runEnabled psl beforeOptimizer enabled lines) : isValid psl allowIp l := by
  rw [show beforeOptimizer = [convertToAscii, trimLines, removeComments, compress, deduplicate, removeModifiers,
    invertAllow] ++ [validate] ++ [validateAllowIp] from rfl, runEnabled_concat, runEnabled_concat] at hl
  cases allowIp with
  | true =>
    rw [if_pos henabled.2] at hl
    exact (mem_validLines hl).2
  | false =>
    rw [if_pos (show validate ∈ enabled from henabled)] at hl
    split at hl
    · exact (mem_validLines (mem_validLines hl).1).2
    · exact (mem_validLines hl).2

/-- The transformations after the optimizer bring in no other line than an empty one. -/
theorem mem_of_mem_afterOptimizer (hl : l ∈ runEnabled psl afterOptimizer enabled lines) : l ∈ lines ∨ l = [] := by
  have hempty {l : Text} (hl : l ∈ runEnabled psl [removeEmptyLines] enabled lines) : l ∈ lines := by
    rw [← List.nil_append [removeEmptyLines], runEnabled_concat] at hl
    split at hl
    · exact List.mem_of_mem_filter hl
    · exact hl
  rw [show afterOptimizer = [removeEmptyLines] ++ [insertFinalNewLine] from rfl, runEnabled_concat] at hl
  split at hl
  · rw [run, Transform.insertFinalNewLine] at hl
    split at hl
    · split at hl
      · exact .inl (hempty hl)
      · rcases List.mem_append.1 hl with hl | hl
        · exact .inl (hempty hl)
        · exact .inr (List.mem_singleton.1 hl)
    · exact .inl (hempty hl)
  · exact .inl (hempty hl)

end Transformation

theorem Filter.keepOnly_sublist (filters : List Filter) (lines : List Text) :
    (keepOnly filters lines).Sublist lines := by
  rw [keepOnly]
  split
  · exact .refl _
  · exact List.filter_sublist

namespace Staged

variable {σ : Type} {tables : Tables} {f : Fetcher σ} {w : σ} {settings : ListSettings}
  {optimization : Option Optimize.Settings} {s s' : Staged}

theorem filterBy_sublist {stage : List Filter → List Text → List Text} {name : Text} {filters : List Filter}
    (hstage : (stage filters s.lines).Sublist s.lines) : (filterBy stage name filters s).lines.Sublist s.lines := by
  rw [filterBy]
  split
  · exact .refl _
  · exact hstage

/-- The filters leave some of the lines, and the rest runs on these. -/
theorem of_run (h : ((run tables f settings optimization lines).run w).1 = .ok s) :
    ∃ s₀, s₀.lines.Sublist lines ∧ finish tables.suffixes settings.transformations optimization s₀ = .ok s := by
  obtain ⟨exclusions, -, h⟩ := Attempt.exists_of_run_bind h
  obtain ⟨inclusions, -, h⟩ := Attempt.exists_of_run_bind h
  dsimp only at h
  split at h
  · rename_i hfinish
    obtain rfl := Except.ok.inj h
    refine ⟨_, ?_, hfinish⟩
    exact (filterBy_sublist (Filter.keepOnly_sublist _ _)).trans (filterBy_sublist List.filter_sublist)
  · cases h

/-- What runs after the filters. -/
theorem exists_finish (h : ((run tables f settings optimization lines).run w).1 = .ok s) :
    ∃ s₀, finish tables.suffixes settings.transformations optimization s₀ = .ok s := by
  obtain ⟨s₀, -, hfinish⟩ := of_run h
  exact ⟨s₀, hfinish⟩

/-- After the optimizer, a line is what it was or what the optimizer makes of a line. -/
theorem of_mem_optimize (hlines : ∀ l ∈ s.lines, isValid psl allowIp l) (h : optimize psl optimization s = .ok s')
    (hl : l ∈ s'.lines) :
    l ∈ s.lines ∨ ∃ o l₀, optimization = some o ∧ l₀ ∈ s.lines ∧ l = rewritten o l₀ := by
  cases optimization with
  | none =>
    obtain rfl := Except.ok.inj h
    exact .inl hl
  | some o =>
    rw [optimize] at h
    split at h
    · rename_i out stats hout
      obtain rfl := Except.ok.inj h
      obtain ⟨l₀, hl₀, rfl⟩ := Validity.of_mem_optimize hlines hout hl
      exact .inr ⟨o, l₀, rfl, hl₀, rfl⟩
    · cases h

theorem finish_valid (henabled : Validates allowIp enabled) (h : finish psl enabled optimization s = .ok s')
    (hl : l ∈ s'.lines) :
    isValid psl allowIp l ∨ ∃ o l₀ r, optimization = some o ∧ isValid psl allowIp l₀ ∧ ruleOf? l₀ = some r ∧
      l = rewritten o l₀ ∧ (Garbled r ∨ o.optimizePatterns ∧ Spoiled psl allowIp r) := by
  have hbefore : ∀ l ∈ (transform psl Transformation.beforeOptimizer enabled s).lines,
      isValid psl allowIp l := fun l hl => Transformation.isValid_of_mem_beforeOptimizer henabled hl
  obtain ⟨out, hout, h⟩ := exists_of_bind_ok h
  obtain rfl := Except.ok.inj h
  rcases Transformation.mem_of_mem_afterOptimizer hl with hl | rfl
  · rcases of_mem_optimize hbefore hout hl with hl | ⟨o, l₀, rfl, hl₀, rfl⟩
    · exact .inl (hbefore l hl)
    · have hvalid := hbefore l₀ hl₀
      refine (isValid_rewritten hvalid).imp_right ?_
      rintro ⟨r, hr, hbad⟩
      exact ⟨o, l₀, r, rfl, hvalid, hr, rfl, hbad⟩
  · exact .inl (isValid_of_comment rfl)

/-- After all stages a line is valid, unless the optimizer wrote it for a valid rule that was garbled or whose
pattern was spoiled by that. -/
theorem run_valid (tables : Tables) (henabled : Validates allowIp settings.transformations)
    (hrun : ((run tables f settings optimization lines).run w).1 = .ok s) (hl : l ∈ s.lines) :
    isValid tables.suffixes allowIp l ∨ ∃ o l₀ r, optimization = some o ∧ isValid tables.suffixes allowIp l₀ ∧
      ruleOf? l₀ = some r ∧ l = rewritten o l₀ ∧
      (Garbled r ∨ o.optimizePatterns ∧ Spoiled tables.suffixes allowIp r) := by
  obtain ⟨s₀, hfinish⟩ := exists_finish hrun
  exact finish_valid henabled hfinish hl

/-- A fetcher to which all sources are empty. -/
def emptySources : Fetcher Unit := ⟨fun _ _ => pure (.ok []), fun _ _ => pure ()⟩

/-- The optimizer drops a rule below another one and writes a rule with a repeated modifier again. -/
theorem run_valid_optimized :
    ∃ s, ((run .sample emptySources { transformations := [.validateAllowIp] } (some {}) ["||co.uk^".toList,
        "||1.2.3.4^$important,important".toList, "||b.com^".toList, "||a.b.com^".toList]).run ()).1 = .ok s ∧
      s.lines = ["||1.2.3.4^$important".toList, "||b.com^".toList] ∧
        ∀ l ∈ s.lines, isValid .sample true l ∨ ∃ o l₀ r, some {} = some o ∧ isValid .sample true l₀ ∧
          ruleOf? l₀ = some r ∧ l = rewritten o l₀ ∧ (Garbled r ∨ o.optimizePatterns ∧ Spoiled .sample true r) := by
  obtain ⟨s, hrun, hlines⟩ : ∃ s, ((run .sample emptySources { transformations := [.validateAllowIp] } (some {})
      ["||co.uk^".toList, "||1.2.3.4^$important,important".toList, "||b.com^".toList, "||a.b.com^".toList]).run ()).1 =
        .ok s ∧ s.lines = ["||1.2.3.4^$important".toList, "||b.com^".toList] := ⟨_, rfl, rfl⟩
  exact ⟨s, hrun, hlines, fun l hl => run_valid .sample (by decide) hrun hl⟩

/-- A wildcard keeps a rule valid that has a whole public suffix after it, but the optimizer takes it away. -/
theorem run_spoils :
    ∃ s, ((run .sample emptySources { transformations := [.validate] } (some {}) ["||*co.uk^".toList]).run ()).1 =
        .ok s ∧
      s.lines = ["||co.uk^".toList] ∧ isValid .sample false "||co.uk^".toList = false :=
  ⟨_, rfl, rfl, by decide⟩

end Staged

end Blocklist
