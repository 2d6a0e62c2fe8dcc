import Blocklist.Proofs.Validity.Hostnames

/-!
# Valid rules for a domain

A pattern `||D^b`, where `D` has no separator, is of the documented form if at most one bar is in `b`, and `D`
is a hostname that may be blocked, unless there is a wildcard in it or the rule is limited (`Documented`). When such
a rule is valid is known exactly (`isValid_anchored_iff`): behind the separator, only the first character is looked at,
and not even that one after a wildcard. A valid rule is of the documented form if `b` is, and only then
(`documented_iff`).
-/

namespace Blocklist.Validity

variable {psl : SuffixList} {allowIp : Bool} {D b l : Text} {r : AdblockRule}

/-- A hostname that may be blocked, in any case and with or without one dot at its end. -/
def NamesBlockable (psl : SuffixList) (D : Text) : Prop :=
  Hostname.isValid (Text.removeSuffix ['.'] D.lower) ∧ Blockable psl (Text.removeSuffix ['.'] D.lower)

/-- The documented form of a rule for the domain `D`, with `b` behind its first separator. -/
structure Documented (psl : SuffixList) (r : AdblockRule) (D b : Text) : Prop where
  rest : b = [] ∨ b = ['|']
  domain : limits r = false → D ≠ [] ∧ (wildcard ∉ D → NamesBlockable psl D)

/-! ### Lines with a domain mark -/

/-- The line of a rule with the domain mark starts with a bar or with an exception mark. -/
theorem exists_head_of_domainMark (hr : AdblockRule.read l = .ok r) (hmark : domainMark <+: r.pattern) :
    ∃ c s, l.trim = c :: s ∧ c ∈ ['|', '@'] := by
  obtain ⟨-, body, htrim, -, hbody⟩ := AdblockRule.read_eq_ok_iff.1 hr
  obtain ⟨s, hs⟩ := hmark.trans (AdblockRule.prefix_of_readBody hbody)
  cases hexc : r.exception with
  | true =>
    rw [hexc, AdblockRule.mark_true] at htrim
    exact ⟨'@', _, htrim, by decide⟩
  | false =>
    rw [hexc, AdblockRule.mark_false, List.nil_append, ← hs] at htrim
    exact ⟨'|', _, htrim, by decide⟩

theorem isCommentOrBlank_of_domainMark (hr : AdblockRule.read l = .ok r) (hmark : domainMark <+: r.pattern) :
    isCommentOrBlank l = false := by
  obtain ⟨c, s, htrim, hc⟩ := exists_head_of_domainMark hr hmark
  refine isCommentOrBlank_eq_false htrim ?_ ?_
  all_goals
    rintro rfl
    exact absurd hc (by decide)

theorem isHostsLine_of_domainMark (hr : AdblockRule.read l = .ok r) (hmark : domainMark <+: r.pattern) :
    isHostsLine l = false := by
  obtain ⟨c, s, htrim, hc⟩ := exists_head_of_domainMark hr hmark
  have hsign : ∀ c ∈ ['|', '@'], isBlank c = false ∧ isAddressChar c = false ∧ c ≠ '%' ∧ c.isAlphanum = false :=
    forall_mem_of_all (by decide)
  obtain ⟨hblank, haddress, hzone, hword⟩ := hsign c hc
  exact isHostsLine_eq_false (p := []) htrim (by simp) hblank haddress hzone hword

theorem isRegex_of_domainMark (hmark : domainMark <+: r.pattern) : r.isRegex = false := by
  obtain ⟨s, hs⟩ := hmark
  rw [AdblockRule.isRegex, ← hs]
  exact AdblockRule.isRegexPattern_eq_false (by simp [domainMark])

/-! ### Valid rules -/

section
variable (hr : AdblockRule.read l = .ok r) (hpattern : r.pattern = domainMark ++ (D ++ separator :: b))
  (hsep : separator ∉ D)
include hr hpattern hsep

/-- When a rule for the domain `D` with `b` behind its first separator is valid. -/
theorem isValid_anchored_iff :
    isValid psl allowIp l ↔ (∀ m ∈ r.modifiers, m.name ∈ supported) ∧ minPatternLength ≤ r.pattern.length ∧
      hasPatternChars r.pattern ∧ ¬ (wildcard ∉ D ∧ wildcard ∈ b) ∧
      (anchoredVerdict psl allowIp (limits r) D b).ok := by
  have hmark : domainMark <+: r.pattern := ⟨_, hpattern.symm⟩
  have hfront : separator ∉ domainMark ++ D := fun h => (List.mem_append.1 h).elim (by decide) hsep
  have hwild : wildcard ∈ domainMark ++ D ↔ wildcard ∈ D := by simp [domainMark, wildcard]
  have hflaw : ¬ Flaw psl allowIp (limits r) r.pattern ↔
      ¬ (wildcard ∉ D ∧ wildcard ∈ b) ∧ (anchoredVerdict psl allowIp (limits r) D b).ok := by
    rw [hpattern, ← List.append_assoc, not_flaw_iff hfront, hwild]
    simp
  rw [isValid_of_rule (isCommentOrBlank_of_domainMark hr hmark) (isHostsLine_of_domainMark hr hmark) hr,
    ruleVerdict_ok_iff, isRegex_of_domainMark hmark, hflaw]
  simp

/-- What is known of a valid rule for a domain without a wildcard: behind the separator nothing but a bar comes next,
and no wildcard at all; and unless the rule is limited, the domain is empty or a hostname that may be blocked. -/
theorem of_isValid_anchored (hl : isValid psl false l) (hwild : wildcard ∉ D) :
    wildcard ∉ b ∧ (∀ c ∈ b.head?, c = '|') ∧ (limits r = false → D ≠ [] → NamesBlockable psl D) := by
  obtain ⟨-, -, hchars, horder, hok⟩ := (isValid_anchored_iff hr hpattern hsep).1 hl
  obtain ⟨hhost, hrest⟩ := (anchoredVerdict_ok_iff.1 hok).2 hwild
  refine ⟨fun hafter => horder ⟨hwild, hafter⟩, hrest, fun hlimits hne => ?_⟩
  rw [hpattern] at hchars
  rw [hlimits] at hhost
  obtain ⟨hvalid, haddress, hsuffix⟩ := of_hostnameOk (hhost hne)
  rw [trim_domain hchars] at hvalid haddress hsuffix
  exact ⟨hvalid, haddress, hsuffix⟩

/-- A valid rule for a domain is of the documented form exactly if at most one bar stands behind its first separator.
If anything else does, there is a wildcard in the domain, or it is a longer text that starts with a bar and has no
wildcard in it. Either way the domain of a rule that is not limited is a hostname that may be blocked, unless it is
empty or has a wildcard in it. -/
theorem documented_iff (hl : isValid psl false l) :
    (Documented psl r D b ↔ b = [] ∨ b = ['|']) ∧
      (wildcard ∉ D → wildcard ∉ b ∧ ∀ c ∈ b.head?, c = '|') ∧
      (limits r = false → D ≠ [] → wildcard ∉ D → NamesBlockable psl D) := by
  have hknown := of_isValid_anchored hr hpattern hsep hl
  refine ⟨⟨Documented.rest, fun hrest => ⟨hrest, fun hlimits => ?_⟩⟩, fun hwild => ?_, fun hlimits hne hwild => ?_⟩
  · -- With no domain the pattern would be too short.
    have hne : D ≠ [] := by
      rintro rfl
      have hlength := ((isValid_anchored_iff hr hpattern hsep).1 hl).2.1
      rw [hpattern] at hlength
      rcases hrest with rfl | rfl <;> exact absurd hlength (by decide)
    exact ⟨hne, fun hwild => (hknown hwild).2.2 hlimits hne⟩
  · exact ⟨(hknown hwild).1, (hknown hwild).2.1⟩
  · exact (hknown hwild).2.2 hlimits hne

end

/-- Neither case nor a dot at the end matters, and an exception has the same form. -/
theorem documented_iff_bar :
    isValid .sample false " @@||Example.COM.^|$important".toList ∧
      Documented .sample ⟨true, "||Example.COM.^|".toList, [⟨"important".toList, none⟩]⟩ "Example.COM.".toList
        ['|'] := by
  have hvalid : isValid .sample false " @@||Example.COM.^|$important".toList := by decide
  exact ⟨hvalid, (documented_iff rfl rfl (by decide) hvalid).1.2 (.inr rfl)⟩

/-- Any text may follow a bar, and with two characters the domain can be left out; and after a wildcard the bar is
not needed. -/
theorem not_documented_behind_separator :
    (isValid .sample false "||example.com^|foo".toList ∧
      AdblockRule.read "||example.com^|foo".toList = .ok ⟨false, "||example.com^|foo".toList, []⟩ ∧
      ¬ Documented .sample ⟨false, "||example.com^|foo".toList, []⟩ "example.com".toList "|foo".toList) ∧
    (isValid .sample false "||^||".toList ∧ AdblockRule.read "||^||".toList = .ok ⟨false, "||^||".toList, []⟩ ∧
      ¬ Documented .sample ⟨false, "||^||".toList, []⟩ [] "||".toList) ∧
    isValid .sample false "||*.example.com^foo".toList ∧
      AdblockRule.read "||*.example.com^foo".toList = .ok ⟨false, "||*.example.com^foo".toList, []⟩ ∧
      ¬ Documented .sample ⟨false, "||*.example.com^foo".toList, []⟩ "*.example.com".toList "foo".toList := by
  refine ⟨⟨by decide, rfl, fun h => ?_⟩, ⟨by decide, rfl, fun h => ?_⟩, by decide, rfl, fun h => ?_⟩
  all_goals exact absurd h.rest (by decide)

end Blocklist.Validity
