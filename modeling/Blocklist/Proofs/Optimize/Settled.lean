import Blocklist.Proofs.Optimize.Normal
import Mathlib.Algebra.GroupWithZero.Nat

/-!
# Lines that are settled

A line is settled if simplifying its pattern does nothing (`settled_iff`), and a list stays as it is if all its lines
are (`optimizePatterns_eq_iff`). What one run leaves is settled, unless a pattern was layered or is not read back from
a line without modifiers (`optimizePatterns_settled`).
-/

namespace Blocklist.Optimize
open AdblockRule

variable {l p : Text} {lines : List Text} {r : AdblockRule} {s : Stats}

/-- A line whose rule, if it has one and that is no regular expression, has a pattern in normal form. -/
def Settled (l : Text) : Prop := ∀ r, ruleOf? l = some r → r.isRegex = false → Normal r.pattern

/-! ### Lines that stay as they are -/

theorem simplifyLine_snd (hr : ruleOf? l = some r) (hregex : r.isRegex = false) :
    (simplifyLine l).2 = (simplifyPattern r.pattern).2 := by
  rw [simplifyLine, hr]
  dsimp only
  rw [hregex]
  cases simplifyPattern r.pattern with
  | mk q n => cases n <;> rfl

/-- A line is settled exactly if no step is counted on it. -/
theorem settled_iff : Settled l ↔ (simplifyLine l).2 = 0 := by
  cases hr : ruleOf? l with
  | none =>
    have hzero : (simplifyLine l).2 = 0 := by rw [simplifyLine, hr]
    refine iff_of_true (fun r hr' => ?_) hzero
    rw [hr] at hr'
    cases hr'
  | some r =>
  cases hregex : r.isRegex with
  | true =>
    have hzero : (simplifyLine l).2 = 0 := by simp [simplifyLine, hr, hregex]
    refine iff_of_true (fun r' hr' hplain => ?_) hzero
    obtain rfl := Option.some.inj (hr.symm.trans hr')
    rw [hregex] at hplain
    cases hplain
  | false =>
    rw [simplifyLine_snd hr hregex, no_step_iff_normal]
    refine ⟨fun h => h r hr hregex, fun h r' hr' _ => ?_⟩
    exact Option.some.inj (hr.symm.trans hr') ▸ h

theorem simplifyLine_of_settled (h : Settled l) : simplifyLine l = (l, 0) := by
  refine Prod.ext ?_ (settled_iff.1 h)
  cases hr : ruleOf? l with
  | none => exact simplifyLine_of_none hr
  | some r =>
    rw [simplifyLine_of_some hr, if_pos]
    cases hregex : r.isRegex with
    | true => rfl
    | false =>
      rw [Bool.false_or, decide_eq_true_eq, no_step_iff_normal]
      exact h r hr hregex

theorem optimizePatterns_eq (lines : List Text) (s : Stats) :
    optimizePatterns lines s = (lines.map (simplifyLine · |>.1),
      { s with optimized := s.optimized + (lines.map (simplifyLine · |>.2)).sum }) := by
  rw [optimizePatterns, List.map_map, List.map_map]
  rfl

/-- A list stays as it is, and nothing is counted, exactly if all lines are settled. -/
theorem optimizePatterns_eq_iff : optimizePatterns lines s = (lines, s) ↔ ∀ l ∈ lines, Settled l := by
  rw [optimizePatterns_eq]
  constructor
  · intro h l hl
    have hcount : s.optimized + (lines.map (simplifyLine · |>.2)).sum = s.optimized :=
      congrArg (fun x : List Text × Stats => x.2.optimized) h
    refine settled_iff.2 (List.sum_eq_zero_iff_forall_eq_nat.1 (Nat.add_eq_left.1 hcount) _ ?_)
    exact List.mem_map_of_mem hl
  · intro h
    have hlines : lines.map (simplifyLine · |>.1) = lines :=
      (List.map_congr_left fun l hl => congrArg Prod.fst (simplifyLine_of_settled (h l hl))).trans (List.map_id' lines)
    have hcount : (lines.map (simplifyLine · |>.2)).sum = 0 := by
      refine List.sum_eq_zero_iff_forall_eq_nat.2 fun n hn => ?_
      obtain ⟨l, hl, rfl⟩ := List.mem_map.1 hn
      exact settled_iff.1 (h l hl)
    rw [hlines, hcount, Nat.add_zero]

/-! ### Lines that are written again -/

theorem isRegex_simplified (h : (simplifyPattern r.pattern).2 ≠ 0) : (simplified r).isRegex = false := by
  rw [Bool.eq_false_iff]
  intro hregex
  simp only [isRegex, isRegexPattern, Bool.and_eq_true, decide_eq_true_eq] at hregex
  rcases head?_or_getLast?_simplifyPattern h with hhead | hlast
  · exact absurd (Option.some.inj (hhead.symm.trans hregex.1.2)) (by decide)
  · exact absurd (Option.some.inj (hlast.symm.trans hregex.2)) (by decide)

theorem not_normal_of_layered (h : Layered p) : ¬ Normal p := by
  rcases h with ⟨rfl, -⟩ | ⟨rfl, -⟩ | ⟨rfl, -⟩
  · exact fun h => h.no_leading (leading_prefix_cons _)
  · exact fun h => h.no_leading (leading_prefix_cons _)
  · exact fun h => h.no_trailing ((List.suffix_cons wildcard _).trans (List.suffix_append _ _))

theorem simplifyLine_of_not_normal (hr : ruleOf? l = some r) (hregex : r.isRegex = false) (hp : ¬ Normal r.pattern) :
    (simplifyLine l).1 = (simplified r).text := by
  rw [simplifyLine_of_some hr, if_neg]
  rw [hregex, Bool.false_or, decide_eq_true_eq, no_step_iff_normal]
  exact hp

theorem settled_text_simplified (hr : r.Proper) (hlayered : ¬ Layered r.pattern)
    (hlegible : r.modifiers = [] → (simplified r).Legible) : Settled (simplified r).text := by
  intro r' hr' hregex
  have hproper := proper_simplified hr
  have hread := (ruleOf?_eq_some_iff.1 hr').2.2
  have hpattern : r'.pattern = (simplified r).pattern := by
    by_cases hms : r.modifiers = []
    · rw [← Except.ok.inj ((hproper.read_text_of_legible (hlegible hms)).symm.trans hread)]
    · obtain ⟨-, ⟨hwhole, hbody, -⟩ | ⟨-, hsame, -⟩⟩ := hproper.of_read_text hms hread
      · -- What is a regular expression as a whole is left alone.
        rw [isRegex, hbody, hwhole] at hregex
        cases hregex
      · exact hsame
  rw [hpattern]
  exact normal_simplifyPattern_iff.2 hlayered

theorem not_settled_text_simplified (hr : r.Proper) (hlayered : Layered r.pattern)
    (hrestorable : (Line.adblock (simplified r)).Restorable) : ¬ Settled (simplified r).text := by
  intro h
  obtain ⟨hblank, hcomment, hhosts, hread⟩ :=
    Line.read_eq_adblock_iff.1 ((Line.read_text_adblock_iff (proper_simplified hr)).2 hrestorable)
  have hrule : ruleOf? (simplified r).text = some (simplified r) := by
    refine ruleOf?_eq_some_iff.2 ⟨?_, by simpa using hhosts, hread⟩
    rw [isCommentOrBlank, Bool.or_eq_false_iff]
    exact ⟨by simpa using hblank, by simpa using hcomment⟩
  have hsteps : (simplifyPattern r.pattern).2 ≠ 0 := fun hzero =>
    not_normal_of_layered hlayered (no_step_iff_normal.1 hzero)
  exact normal_simplifyPattern_iff.1 (h _ hrule (isRegex_simplified hsteps)) hlayered

/-! ### Lists -/

/-- A second run leaves the list and the statistics as they are exactly if all lines of the first are settled. Each
line that is not is the written form of a rule with a layered pattern, or of one without modifiers that is not
legible; and where the rule is restorable, a layered pattern does leave such a line. -/
theorem optimizePatterns_settled (lines : List Text) (s s' : Stats) :
    (optimizePatterns (optimizePatterns lines s).1 s' = ((optimizePatterns lines s).1, s') ↔
      ∀ k ∈ (optimizePatterns lines s).1, Settled k) ∧
    (∀ k ∈ (optimizePatterns lines s).1, ¬ Settled k →
      ∃ l ∈ lines, ∃ r, ruleOf? l = some r ∧ r.isRegex = false ∧ k = (simplified r).text ∧
        (Layered r.pattern ∨ r.modifiers = [] ∧ ¬ (simplified r).Legible)) ∧
    (∀ l ∈ lines, ∀ r, ruleOf? l = some r → r.isRegex = false → Layered r.pattern →
      (Line.adblock (simplified r)).Restorable →
        (simplified r).text ∈ (optimizePatterns lines s).1 ∧ ¬ Settled (simplified r).text) := by
  have hout : (optimizePatterns lines s).1 = lines.map (simplifyLine · |>.1) := by rw [optimizePatterns_eq]
  refine ⟨optimizePatterns_eq_iff, fun k hk hopen => ?_, fun l hl r hr hregex hlayered hrestorable => ?_⟩
  · rw [hout] at hk
    obtain ⟨l, hl, rfl⟩ := List.mem_map.1 hk
    obtain ⟨r, hr, hregex, hnormal⟩ : ∃ r, ruleOf? l = some r ∧ r.isRegex = false ∧ ¬ Normal r.pattern := by
      by_contra hnone
      have hl : Settled l := fun r hr hregex => by_contra fun hnormal => hnone ⟨r, hr, hregex, hnormal⟩
      rw [simplifyLine_of_settled hl] at hopen
      exact hopen hl
    have htext := simplifyLine_of_not_normal hr hregex hnormal
    refine ⟨l, hl, r, hr, hregex, htext, ?_⟩
    by_contra hgood
    rw [not_or, not_and, not_not] at hgood
    rw [htext] at hopen
    exact hopen (settled_text_simplified (proper_of_read (ruleOf?_eq_some_iff.1 hr).2.2) hgood.1 hgood.2)
  · rw [hout, ← simplifyLine_of_not_normal hr hregex (not_normal_of_layered hlayered)]
    refine ⟨List.mem_map_of_mem hl, ?_⟩
    rw [simplifyLine_of_not_normal hr hregex (not_normal_of_layered hlayered)]
    exact not_settled_text_simplified (proper_of_read (ruleOf?_eq_some_iff.1 hr).2.2) hlayered hrestorable

/-- A wildcard on either side goes, and then nothing is left to do; but one of two is left. -/
theorem optimizePatterns_settled_wildcards :
    optimizePatterns (optimizePatterns ["@@||*.a.com*^$b=x\\,y".toList] {}).1 { optimized := 2 } =
        (["@@||a.com^$b=x\\,y".toList], { optimized := 2 }) ∧
      ¬ Settled "||*a.com^$b".toList := by
  constructor
  · refine (optimizePatterns_settled ["@@||*.a.com*^$b=x\\,y".toList] {} _).1.2 fun k hk => ?_
    by_contra hopen
    obtain ⟨l, hl, r, hr, -, -, hcause⟩ := (optimizePatterns_settled _ {} {}).2.1 k hk hopen
    obtain rfl := List.mem_singleton.1 hl
    obtain rfl := Option.some.inj hr
    rcases hcause with hlayered | ⟨hnil, -⟩
    · exact normal_simplifyPattern_iff.1 (no_step_iff_normal.1 rfl) hlayered
    · cases hnil
  · have hrule : ruleOf? "||**a.com^$b".toList = some ⟨false, "||**a.com^".toList, [⟨['b'], none⟩]⟩ := rfl
    exact ((optimizePatterns_settled ["||**a.com^$b".toList] {} {}).2.2 _ (List.mem_singleton_self _) _ hrule rfl
      (.leading rfl rfl (by decide)) (by decide)).2

/-- The slash is tried before the wildcard in front of its name goes, and of two wildcards one goes at a time: a
second run changes the lines, and counts more. -/
theorem optimizePatterns_of_layers :
    optimizePatterns ["||*a.com/".toList, "||**b.com^".toList, "||c.com**^".toList] {} =
        (["||a.com/".toList, "||*b.com^".toList, "||c.com*^".toList], { optimized := 3 }) ∧
      optimizePatterns ["||a.com/".toList, "||*b.com^".toList, "||c.com*^".toList] { optimized := 3 } =
        (["||a.com^".toList, "||b.com^".toList, "||c.com^".toList], { optimized := 6 }) :=
  ⟨rfl, rfl⟩

end Blocklist.Optimize
