import Blocklist.Hostname.SuffixRules
import Blocklist.Optimize.Basic
import Blocklist.Proofs.Optimize.Merging
import Blocklist.Proofs.Optimize.Modifiers

/-!
# What stays blocked in an optimized list

`optimize_covers`: every hostname that a list without exceptions blocks is blocked by the optimized list,
itself or by an ancestor. The one gap is a hostname that is written with a dot at its end, below a rule for
its last label with a dot at its end: the dot makes that label longer than the public suffix.
-/

namespace Blocklist.Optimize
open Hostname Output

variable {psl : SuffixList} {h l : Text} {lines out : List Text} {settings : Settings} {stats : Stats}

/-- What the stages before merging make of a line that stays. -/
def rewritten (settings : Settings) (l : Text) : Text :=
  let l := if settings.optimizePatterns then (simplifyLine l).1 else l
  if settings.simplifyModifiers then (dropRepeatedModifiers l).1 else l

/-- The lines that redundancy leaves, if it is asked for. -/
def irredundant (psl : SuffixList) (settings : Settings) (lines : List Text) : List Text :=
  if settings.removeRedundant then (dropRedundant psl (plainHosts lines) [] lines).1 else lines

theorem runIf_removeRedundant (on : Bool) (s : Stats) :
    (runIf on (removeRedundant psl) (lines, s)).1 =
      if on then (dropRedundant psl (plainHosts lines) [] lines).1 else lines := by
  cases on <;> rfl

/-- A stage that rewrites each line, if it is on. -/
theorem runIf_map {on : Bool} {stage : List Text → Stats → List Text × Stats} {f : Text → Text}
    (hstage : ∀ ls s, (stage ls s).1 = ls.map f) (x : List Text × Stats) :
    (runIf on stage x).1 = x.1.map fun l => if on then f l else l := by
  cases on with
  | true => exact hstage x.1 x.2
  | false => exact (List.map_id x.1).symm

/-- What the stages do to a list: each line that is left by redundancy is rewritten, and then the rules are
merged if that is asked for. -/
theorem of_optimize (h : optimize psl settings lines = .ok (out, stats)) :
    if settings.mergeRules then
      ∃ n, mergeLines settings.mergeThreshold ((irredundant psl settings lines).map (rewritten settings)) []
        ((irredundant psl settings lines).map (rewritten settings)) = .ok (out, n)
    else out = (irredundant psl settings lines).map (rewritten settings) := by
  rw [optimize] at h
  dsimp only at h
  generalize hp : runIf settings.simplifyModifiers simplifyModifiers _ = p at h
  have hstages : p.1 = (irredundant psl settings lines).map (rewritten settings) := by
    rw [← hp, runIf_map (f := fun l => (dropRepeatedModifiers l).1), runIf_map (f := fun l => (simplifyLine l).1),
      runIf_removeRedundant, List.map_map]
    · rfl
    · exact fun ls s => List.map_map
    · exact fun ls s => List.map_map
  rw [← hstages]
  split
  · rename_i hmerge
    rw [if_pos hmerge] at h
    cases hm : mergeLines settings.mergeThreshold p.1 [] p.1 with
    | error e =>
      rw [mergeRules, hm] at h
      cases h
    | ok merged =>
      rw [mergeRules, hm] at h
      have hout := (Prod.mk.inj (Except.ok.inj h)).1
      exact ⟨merged.2, by rw [← hout]⟩
  · rename_i hmerge
    rw [if_neg hmerge] at h
    exact (Prod.mk.inj (Except.ok.inj h)).1.symm

/-! ### Lines through the stages -/

theorem noException_rewritten (hl : NoException l) : NoException (rewritten settings l) := by
  have hpattern : NoException (if settings.optimizePatterns then (simplifyLine l).1 else l) := by
    split
    · exact noException_simplifyLine hl
    · exact hl
  rw [rewritten]
  split
  · exact noException_dropRepeatedModifiers hpattern
  · exact hpattern

theorem names_rewritten (hl : Names l h) : Names (rewritten settings l) h := by
  have hpattern : Names (if settings.optimizePatterns then (simplifyLine l).1 else l) h := by
    split
    · exact names_simplifyLine hl
    · exact hl
  rw [rewritten]
  split
  · exact names_dropRepeatedModifiers hpattern
  · exact hpattern

theorem mem_of_mem_irredundant (hl : l ∈ irredundant psl settings lines) : l ∈ lines := by
  rw [irredundant] at hl
  split at hl
  · exact mem_of_mem_dropRedundant hl
  · exact hl

theorem noException_optimize (h : optimize psl settings lines = .ok (out, stats))
    (hlines : ∀ l ∈ lines, NoException l) : ∀ k ∈ out, NoException k := by
  have hrewritten : ∀ k ∈ (irredundant psl settings lines).map (rewritten settings), NoException k := by
    intro k hk
    obtain ⟨l, hl, rfl⟩ := List.mem_map.1 hk
    exact noException_rewritten (hlines l (mem_of_mem_irredundant hl))
  have hstages := of_optimize h
  split at hstages
  · obtain ⟨n, hn⟩ := hstages
    exact mergeLines_noException hn hrewritten
  · rw [hstages]
    exact hrewritten

/-- Every line that stays and names a hostname still does so at the end. -/
theorem exists_names_optimize (hout : optimize psl settings lines = .ok (out, stats))
    (hl : l ∈ irredundant psl settings lines) (hn : Names l h) : ∃ k ∈ out, Names k h := by
  have hmem : rewritten settings l ∈ (irredundant psl settings lines).map (rewritten settings) := List.mem_map_of_mem hl
  have hstages := of_optimize hout
  split at hstages
  · obtain ⟨n, hmerge⟩ := hstages
    refine (mergeLines_names hmerge hmem (names_rewritten hn)).resolve_right ?_
    rintro ⟨key, r, -, hseen⟩
    cases hseen
  · rw [hstages]
    exact ⟨_, hmem, names_rewritten hn⟩

/-! ### Lists -/

theorem noException_of_exceptionFree (hexc : ExceptionFree lines) (hl : l ∈ lines) : NoException l := by
  intro r hr
  obtain ⟨hcomment, hhosts, hread⟩ := ruleOf?_eq_some_iff.1 hr
  exact hexc l hl r (Line.read_eq_adblock hcomment hhosts hread)

theorem allowedHost?_of_noException (hl : NoException l) : (mention l).allowedHost? = none :=
  allowedHost?_eq_none fun r hr hcomment hhosts => hl r (ruleOf?_eq_some_iff.2 ⟨hcomment, hhosts, hr⟩)

/-- With a public suffix list that finds ends of names, what a list without exceptions blocks is blocked by the
optimized list, itself or by one of its ancestors, unless both the hostname and its last label alone have plain
rules with a dot at their ends. -/
theorem optimize_covers (hpsl : psl.EndsNames) (hexc : ExceptionFree lines) (hfeed : ∀ l ∈ lines, '\n' ∉ l)
    (hout : optimize psl settings lines = .ok (out, stats)) (hh : h ∈ canonical lines)
    (htop : settings.removeRedundant → h ++ ['.'] ∈ plainHosts lines →
      ∀ t, '.' ∉ t → '.' :: t <:+ h → t ++ ['.'] ∉ plainHosts lines) :
    ∃ p ∈ canonical out, Covers p h := by
  have hlines : ∀ l ∈ lines, NoException l := fun l hl => noException_of_exceptionFree hexc hl
  obtain ⟨l, hl, hblocks⟩ := (mem_canonical_iff fun l hl => allowedHost?_of_noException (hlines l hl)).1 hh
  have hcovered : ∃ k ∈ irredundant psl settings lines, ∃ q, Blocks k q ∧ Covers q h := by
    rw [irredundant]
    split
    · rename_i hon
      exact exists_blocks_dropRedundant hpsl hfeed hl hblocks (htop hon)
    · exact ⟨l, hl, h, hblocks, .refl h⟩
  obtain ⟨k, hk, q, hkq, hq⟩ := hcovered
  have hkfeed := hfeed k (mem_of_mem_irredundant hk)
  have hnames : Names k q := ⟨hkq, fun r hr hmem => hkfeed (AdblockRule.mem_of_mem_pattern hr hmem)⟩
  obtain ⟨k', hk', hblocks⟩ := exists_names_optimize hout hk hnames
  have hallowed : ∀ k ∈ out, (mention k).allowedHost? = none := fun k hk =>
    allowedHost?_of_noException (noException_optimize hout hlines k hk)
  exact ⟨q, (mem_canonical_iff hallowed).2 ⟨k', hk', hblocks.blocks⟩, hq⟩

/-- The rule for `b.com` makes the next one redundant. -/
theorem optimize_covers_ancestor :
    ∃ p ∈ canonical ["||b.com^".toList, "||c.com^$important".toList], Covers p "a.b.com".toList := by
  have hout : optimize .sample {} ["||b.com^".toList, "||a.b.com^".toList, "||*.c.com^$important,important".toList] =
      .ok (["||b.com^".toList, "||c.com^$important".toList],
        { optimized := 1, redundant := 1, simplified := 1, original := 3, final := 2, reduction := reductionOf 3 2 }) :=
    rfl
  exact optimize_covers (SuffixList.endsNames_ofRules _) (by decide) (by decide) hout (by decide)
    fun _ hmem => absurd hmem (by decide)

/-- A rule for a top-level label with a dot at its end names no hostname, but takes one with it. -/
theorem optimize_loses_below_dotted_label :
    ∃ out stats, optimize .sample {} ["||com.^".toList, "||a.com.^".toList] = .ok (out, stats) ∧
      ExceptionFree ["||com.^".toList, "||a.com.^".toList] ∧
      "a.com".toList ∈ canonical ["||com.^".toList, "||a.com.^".toList] ∧
      ¬ ∃ p ∈ canonical out, Covers p "a.com".toList :=
  ⟨["||com.^".toList], _, rfl, by decide, by decide, by decide⟩

-- A line feed at the end of a pattern hides a hostname from the list, but not from the search for repeated rules.
example : ∃ out stats, optimize .sample {} ["||a.com^\n$".toList, "||a.com^".toList] = .ok (out, stats) ∧
    canonical ["||a.com^\n$".toList, "||a.com^".toList] = ["a.com".toList] ∧ canonical out = [] :=
  ⟨["||a.com^\n$".toList], _, rfl, by decide, by decide⟩

end Blocklist.Optimize
