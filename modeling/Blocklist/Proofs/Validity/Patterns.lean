import Blocklist.Proofs.Optimize.Patterns
import Blocklist.Proofs.Validity.Verdict

/-!
# Simpler patterns of valid rules

The characters of a valid pattern: after a scheme mark, letters, digits and a few signs up to a line feed
(`mem_of_hasPatternChars`). The steps that simplify a pattern bring in no other characters, and so a simplified
pattern still has pattern characters (`hasPatternChars_simplifyPattern`). It can only be too short or have a
flaw that the pattern did not have: then it is `Spoiled`.
-/

namespace Blocklist.Validity
open Optimize

variable {psl : SuffixList} {allowIp : Bool} {c : Char} {p q s : Text} {r : AdblockRule}

/-- A rule whose pattern is valid, but not the simpler one. -/
def Spoiled (psl : SuffixList) (allowIp : Bool) (r : AdblockRule) : Prop :=
  r.isRegex = false ∧ ((simplifyPattern r.pattern).1.length < minPatternLength ∨
    Flaw psl allowIp (limits r) (simplifyPattern r.pattern).1)

/-! ### Characters -/

/-- What is in a pattern besides pattern characters is in a scheme mark in front or a line feed at the end. -/
theorem mem_of_hasPatternChars (h : hasPatternChars p) (hc : c ∈ p) :
    isPatternChar c ∨ c = ':' ∨ c = '/' ∨ c = '\n' := by
  obtain ⟨m, hm, hp⟩ := Text.eq_append_removePrefix [':', '/', '/'] p
  obtain ⟨e, he, hs⟩ := Text.eq_removeSuffix_append ['\n'] (Text.removePrefix [':', '/', '/'] p)
  obtain ⟨-, hall⟩ := Bool.and_eq_true_iff.1 h
  rw [hp, hs] at hc
  rcases List.mem_append.1 hc with hc | hc
  · rcases hm with rfl | rfl
    · cases hc
    · have hall : ∀ c ∈ [':', '/', '/'], isPatternChar c ∨ c = ':' ∨ c = '/' ∨ c = '\n' :=
        forall_mem_of_all (by decide)
      exact hall c hc
  rcases List.mem_append.1 hc with hc | hc
  · exact .inl (List.all_eq_true.1 hall c hc)
  · rcases he with rfl | rfl
    · cases hc
    · simp [List.mem_singleton.1 hc]

theorem not_mem_of_hasPatternChars (h : hasPatternChars p) (hc : isPatternChar c = false)
    (hmark : c ∉ [':', '/', '\n']) : c ∉ p := by
  intro hmem
  rcases mem_of_hasPatternChars h hmem with hchar | rfl | rfl | rfl
  · rw [hc] at hchar
    cases hchar
  all_goals exact hmark (by decide)

theorem isBlank_of_hasPatternChars (h : hasPatternChars p) (hfeed : '\n' ∉ p) (hc : c ∈ p) : isBlank c = false := by
  rcases mem_of_hasPatternChars h hc with hchar | rfl | rfl | rfl
  · exact isBlank_of_isPatternChar hchar
  · decide
  · decide
  · exact absurd hc hfeed

/-- A pattern is not empty and starts with a pattern character or with a scheme mark. -/
theorem exists_head_of_hasPatternChars (h : hasPatternChars p) :
    ∃ c s, p = c :: s ∧ (isPatternChar c ∨ c = ':') := by
  obtain ⟨m, hm, hp⟩ := Text.eq_append_removePrefix [':', '/', '/'] p
  rcases hm with rfl | rfl
  · obtain ⟨hne, hall⟩ := Bool.and_eq_true_iff.1 h
    obtain ⟨e, -, hs⟩ := Text.eq_removeSuffix_append ['\n'] (Text.removePrefix [':', '/', '/'] p)
    obtain ⟨c, t, ht⟩ := List.exists_cons_of_ne_nil (of_decide_eq_true hne)
    rw [Text.dropLineFeed] at ht hall
    rw [ht] at hs hall
    exact ⟨c, t ++ e, by rw [hp, hs]; rfl, .inl (List.all_eq_true.1 hall c (List.mem_cons_self ..))⟩
  · exact ⟨':', _, hp, .inr rfl⟩

theorem isRegexPattern_of_hasPatternChars (h : hasPatternChars p) (s : Text) :
    AdblockRule.isRegexPattern (p ++ s) = false := by
  obtain ⟨c, t, rfl, hc⟩ := exists_head_of_hasPatternChars h
  refine AdblockRule.isRegexPattern_eq_false fun hslash => ?_
  obtain rfl := Option.some.inj hslash
  exact absurd hc (by decide)

theorem hasPatternChars_concat (hc : isPatternChar c) :
    hasPatternChars (s ++ [c]) ↔ ∀ d ∈ Text.removePrefix [':', '/', '/'] s, isPatternChar d := by
  have hslash : [':', '/', '/'].getLast? ≠ some c := by
    rintro heq
    obtain rfl := Option.some.inj heq
    exact absurd hc (by decide)
  have hfeed : c ≠ '\n' := by
    rintro rfl
    exact absurd hc (by decide)
  have hnil : Text.dropLineFeed [] = [] := rfl
  rw [hasPatternChars, Text.removePrefix_concat hslash, Text.dropLineFeed_append_cons hfeed, hnil]
  simp [hc]

/-! ### Steps -/

theorem slashStep?_of_hasPatternChars (h : hasPatternChars p) : slashStep? p = none := by
  rw [Option.eq_none_iff_forall_ne_some]
  intro q hq
  obtain ⟨s, m, rfl, -⟩ := of_slashStep? hq
  rw [hasPatternChars_iff (by rw [domainMark]; simp), ← List.append_assoc,
    Text.dropLineFeed_append_cons (by decide)] at h
  exact absurd (h.2 '/' (List.mem_append_right _ (List.mem_cons_self ..))) (by decide)

theorem hasPatternChars_of_leadingStep? (h : hasPatternChars p) (hq : leadingStep? p = some q) :
    hasPatternChars q := by
  obtain ⟨s, rfl, rfl⟩ := of_leadingStep? hq
  have hfront (t : Text) : hasPatternChars (domainMark ++ t) ↔ ∀ c ∈ t.dropLineFeed, isPatternChar c := by
    have hdrop : (domainMark ++ t).dropLineFeed = domainMark ++ t.dropLineFeed :=
      Text.dropLineFeed_append_cons (c := '|') (by decide) ['|'] t
    rw [hasPatternChars_iff (by rw [domainMark]; simp), hdrop]
    have hmark : ∀ c ∈ domainMark, isPatternChar c := forall_mem_of_all (by decide)
    simp only [List.mem_append, or_imp, forall_and]
    exact ⟨fun h => h.2.2, fun h => ⟨by simp [domainMark], hmark, h⟩⟩
  have hcons {c : Char} (hc : c ≠ '\n') (t : Text) :
      Text.dropLineFeed (c :: t) = c :: t.dropLineFeed :=
    Text.dropLineFeed_append_cons hc [] t
  rw [hfront, hcons (by decide), List.forall_mem_cons] at h
  rw [hfront]
  obtain ⟨m, hm, hs⟩ := Text.eq_append_removePrefix ['.'] s
  rcases hm with rfl | rfl
  · rw [List.nil_append] at hs
    rw [← hs]
    exact h.2
  · have hdot := h.2
    rw [hs, List.singleton_append, hcons (by decide), List.forall_mem_cons] at hdot
    exact hdot.2

theorem hasPatternChars_of_trailingStep? (h : hasPatternChars p) (hq : trailingStep? p = some q) :
    hasPatternChars q := by
  obtain ⟨s, rfl, rfl⟩ := of_trailingStep? hq
  have happend : s ++ [wildcard, separator] = (s ++ [wildcard]) ++ [separator] := by simp
  rw [happend, hasPatternChars_concat (by decide), Text.removePrefix_concat (by decide)] at h
  exact (hasPatternChars_concat (by decide)).2 fun d hd => h d (List.mem_append_left _ hd)

theorem hasPatternChars_simplifyPattern (h : hasPatternChars p) : hasPatternChars (simplifyPattern p).1 := by
  refine of_simplifyPattern (P := fun p _ => hasPatternChars p) ?_ ?_ ?_ h
  · intro p q n hp hq
    rw [slashStep?_of_hasPatternChars hp] at hq
    cases hq
  · exact fun p q n => hasPatternChars_of_leadingStep?
  · exact fun p q n => hasPatternChars_of_trailingStep?

theorem feed_not_mem_simplifyPattern (h : '\n' ∉ p) : '\n' ∉ (simplifyPattern p).1 := by
  refine of_simplifyPattern (P := fun p _ => '\n' ∉ p) ?_ ?_ ?_ h
  · intro p q n hp hq hmem
    obtain ⟨s, m, rfl, rfl, -⟩ := of_slashStep? hq
    refine hp (List.mem_append_right _ (List.dropLast_subset _ ?_))
    simpa [domainMark, separator] using hmem
  · intro p q n hp hq hmem
    obtain ⟨s, rfl, rfl⟩ := of_leadingStep? hq
    obtain ⟨m, -, hs⟩ := Text.eq_append_removePrefix ['.'] s
    refine hp (List.mem_append_right _ (List.mem_cons_of_mem _ ?_))
    rw [hs]
    exact List.mem_append_right m (by simpa [domainMark] using hmem)
  · intro p q n hp hq hmem
    obtain ⟨s, rfl, rfl⟩ := of_trailingStep? hq
    exact hp (List.mem_append_left _ (by simpa [separator] using hmem))

theorem simplifyPattern_of_no_step (h : (simplifyPattern p).2 = 0) : (simplifyPattern p).1 = p := by
  refine of_simplifyPattern (P := fun q n => n = 0 → q = p) ?_ ?_ ?_ (fun _ => rfl) h
  all_goals exact fun _ _ _ _ _ hn => absurd hn (Nat.succ_ne_zero _)

/-- A simpler pattern has a bar or a separator in it. -/
theorem exists_mark_simplifyPattern (h : (simplifyPattern p).2 ≠ 0) :
    ∃ c ∈ (simplifyPattern p).1, c = '|' ∨ c = separator := by
  rcases head?_or_getLast?_simplifyPattern h with hhead | hlast
  · exact ⟨'|', List.mem_of_head? hhead, .inl rfl⟩
  · exact ⟨separator, List.mem_of_getLast? hlast, .inr rfl⟩

end Blocklist.Validity
