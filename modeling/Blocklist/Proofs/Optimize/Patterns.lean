import Blocklist.Optimize.Patterns
import Blocklist.Proofs.Optimize.Redundancy

/-!
# Simpler patterns of the same hostname

`simplifyPattern_of_host`: of the three steps only the second can apply to a pattern with a hostname, and the
hostname stays. So a line names the same hostnames after them (`names_simplifyLine`), and no line becomes an
exception (`noException_simplifyLine`). Any rule that was read is as good with its pattern simplified
(`proper_simplified`).
-/

namespace Blocklist

/-- A line whose rule, if it has one, is no exception. -/
def Optimize.NoException (l : Text) : Prop := ∀ r, ruleOf? l = some r → r.exception = false

/-- The start of a pattern that is read as one of a blocking rule. -/
structure AdblockRule.Opens (p : Text) : Prop where
  ne_nil : p ≠ []
  head_not_blank : ∀ c ∈ p.head?, isBlank c = false
  no_mark : ¬ exceptionMark <+: p

namespace Optimize
open Hostname Output AdblockRule

variable {h l p q s : Text} {lines : List Text} {r : AdblockRule}

/-! ### Blocking rules -/

theorem opens_of_proper (hr : r.Proper) (hexc : r.exception = false) : Opens r.pattern := by
  refine ⟨hr.pattern_ne_nil, ?_, hr.no_mark hexc⟩
  have hhead := hr.head_not_blank
  rwa [hexc, mark_false, List.nil_append] at hhead

/-- The written form of a blocking rule is not read as an exception. -/
theorem noException_text (hexc : r.exception = false) (hp : Opens r.pattern) : NoException r.text := by
  intro r' hr'
  obtain ⟨-, -, hread⟩ := ruleOf?_eq_some_iff.1 hr'
  obtain ⟨-, body, htrim, -, -⟩ := read_eq_ok_iff.1 hread
  have htext := text_of_blocking hexc
  cases hexc' : r'.exception with
  | false => rfl
  | true =>
    refine absurd ?_ (not_mark_prefix_body_of_pattern hp.ne_nil hp.no_mark)
    obtain ⟨c, t, hpattern⟩ := List.exists_cons_of_ne_nil hp.ne_nil
    obtain ⟨u, hu⟩ := pattern_prefix_body r
    have hc : isBlank c = false := hp.head_not_blank c (by rw [hpattern]; rfl)
    rw [hexc', mark_true, htext, ← hu, hpattern, List.cons_append, Text.trim_cons_of_not_blank hc] at htrim
    obtain ⟨b, hb, -⟩ := Text.eq_dropEndWhile_append isBlank (t ++ u)
    rw [← hu, hpattern, List.cons_append, hb, ← List.cons_append, htrim, List.append_assoc]
    exact List.prefix_append _ _

/-- The written form of a blocking rule with modifiers blocks the hostname of its pattern. -/
theorem names_text (hexc : r.exception = false) (hms : r.modifiers ≠ []) (hp : patternHost? r.pattern = some h)
    (hfeed : '\n' ∉ r.pattern) (ho : Text.Protected '$' (Modifier.joined r.modifiers)) : Names r.text h := by
  rw [text_of_blocking hexc, body_of_modifiers_ne_nil hms]
  exact names_modified hp hfeed ho

/-! ### Steps -/

theorem simplifyPattern_eq (p : Text) :
    simplifyPattern p = applyStep (applyStep (applyStep (p, 0) slashStep?) leadingStep?) trailingStep? := rfl

theorem applyStep_none {n : Nat} {step? : Text → Option Text} (h : step? p = none) :
    applyStep (p, n) step? = (p, n) := by
  rw [applyStep, h]

theorem applyStep_some {n : Nat} {step? : Text → Option Text} (h : step? p = some q) :
    applyStep (p, n) step? = (q, n + 1) := by
  rw [applyStep, h]

/-- What each step keeps, the simplified pattern has. -/
theorem of_simplifyPattern {P : Text → Nat → Prop} (hslash : ∀ p q n, P p n → slashStep? p = some q → P q (n + 1))
    (hleading : ∀ p q n, P p n → leadingStep? p = some q → P q (n + 1))
    (htrailing : ∀ p q n, P p n → trailingStep? p = some q → P q (n + 1)) (h : P p 0) :
    P (simplifyPattern p).1 (simplifyPattern p).2 := by
  have hstep {x : Text × Nat} {step? : Text → Option Text}
      (hstep : ∀ p q n, P p n → step? p = some q → P q (n + 1)) (h : P x.1 x.2) :
      P (applyStep x step?).1 (applyStep x step?).2 := by
    rw [applyStep]
    split
    · rename_i q hq
      exact hstep x.1 q x.2 h hq
    · exact h
  rw [simplifyPattern_eq]
  exact hstep htrailing (hstep hleading (hstep hslash h))

theorem of_slashStep? (h : slashStep? p = some q) :
    ∃ s m, p = domainMark ++ (s ++ '/' :: m) ∧ q = domainMark ++ ((s ++ '/' :: m).dropLast ++ [separator]) ∧
      (m = [] ∨ m = ['\n']) := by
  rw [slashStep?] at h
  split at h
  · rename_i hname
    obtain rfl := Option.some.inj h
    rw [isNameWithSlash] at hname
    split at hname
    · cases hname
    rename_i s hs
    obtain rfl := Text.dropPrefix?_eq_some_iff.1 hs
    have hslash := of_decide_eq_true (Bool.and_eq_true_iff.1 hname).2
    obtain ⟨m, hm, hrest⟩ := Text.eq_removeSuffix_append ['\n'] (s.dropWhile isAnchoredChar)
    rw [Text.dropLineFeed] at hslash
    rw [hslash] at hrest
    have hs : s = s.takeWhile isAnchoredChar ++ '/' :: m := by
      rw [← List.singleton_append, ← hrest, List.takeWhile_append_dropWhile]
    refine ⟨s.takeWhile isAnchoredChar, m, by rw [← hs], ?_, hm⟩
    rw [← hs, List.dropLast_append_of_ne_nil, List.append_assoc]
    rw [hs]
    exact List.append_ne_nil_of_right_ne_nil _ (List.cons_ne_nil _ _)
  · cases h

theorem of_leadingStep? (h : leadingStep? p = some q) :
    ∃ s, p = domainMark ++ wildcard :: s ∧ q = domainMark ++ Text.removePrefix ['.'] s := by
  obtain ⟨s, hs, rfl⟩ := Option.map_eq_some_iff.1 h
  obtain rfl := Text.dropPrefix?_eq_some_iff.1 hs
  exact ⟨s, rfl, rfl⟩

theorem of_trailingStep? (h : trailingStep? p = some q) :
    ∃ s, p = s ++ [wildcard, separator] ∧ q = s ++ [separator] := by
  obtain ⟨s, hs, rfl⟩ := Option.map_eq_some_iff.1 h
  exact ⟨s, Text.dropSuffix?_eq_some_iff.1 hs, rfl⟩

/-- A simpler pattern has a bar at its start or a separator at its end. -/
theorem head?_or_getLast?_simplifyPattern (h : (simplifyPattern p).2 ≠ 0) :
    (simplifyPattern p).1.head? = some '|' ∨ (simplifyPattern p).1.getLast? = some separator := by
  refine of_simplifyPattern
    (P := fun p n => n ≠ 0 → p.head? = some '|' ∨ p.getLast? = some separator) ?_ ?_ ?_ (absurd rfl) h
  · intro p q n _ hq _
    obtain ⟨s, m, -, rfl, -⟩ := of_slashStep? hq
    exact .inl rfl
  · intro p q n _ hq _
    obtain ⟨s, -, rfl⟩ := of_leadingStep? hq
    exact .inl rfl
  · intro p q n _ hq _
    obtain ⟨s, -, rfl⟩ := of_trailingStep? hq
    exact .inr List.getLast?_concat

/-! ### Patterns that open a blocking rule -/

theorem opens_domainMark (s : Text) : Opens (domainMark ++ s) := by
  refine ⟨List.cons_ne_nil _ _, fun c hc => Option.some.inj hc ▸ by decide, fun h => ?_⟩
  exact absurd (List.cons_prefix_cons.1 h).1 (by decide)

theorem opens_trailing (h : Opens (s ++ [wildcard, separator])) : Opens (s ++ [separator]) := by
  refine ⟨by simp, ?_, fun hmark => ?_⟩
  · cases s with
    | nil => exact fun c hc => Option.some.inj hc ▸ by decide
    | cons c s => exact h.head_not_blank
  · match s, hmark with
    | [], hmark => exact absurd (List.cons_prefix_cons.1 hmark).1 (by decide)
    | [c], hmark =>
      exact absurd (List.cons_prefix_cons.1 (List.cons_prefix_cons.1 hmark).2).1 (by decide)
    | c :: d :: s, hmark =>
      refine h.no_mark ?_
      obtain ⟨hc, hmark⟩ := List.cons_prefix_cons.1 hmark
      obtain ⟨hd, -⟩ := List.cons_prefix_cons.1 hmark
      exact List.cons_prefix_cons.2 ⟨hc, List.cons_prefix_cons.2 ⟨hd, List.nil_prefix⟩⟩

theorem opens_simplifyPattern (h : Opens p) : Opens (simplifyPattern p).1 := by
  refine of_simplifyPattern (P := fun p _ => Opens p) ?_ ?_ ?_ h
  · intro p q n _ hq
    obtain ⟨s, m, -, rfl, -⟩ := of_slashStep? hq
    exact opens_domainMark _
  · intro p q n _ hq
    obtain ⟨s, -, rfl⟩ := of_leadingStep? hq
    exact opens_domainMark _
  · intro p q n hp hq
    obtain ⟨s, rfl, rfl⟩ := of_trailingStep? hq
    exact opens_trailing hp

/-! ### Rules with a simpler pattern -/

/-- The rule with its pattern simplified. -/
def simplified (r : AdblockRule) : AdblockRule := { r with pattern := (simplifyPattern r.pattern).1 }

/-- A backslash before the modifiers is not brought in. -/
theorem escapes_simplifyPattern (h : Text.escapes false p = false) :
    Text.escapes false (simplifyPattern p).1 = false := by
  refine of_simplifyPattern (P := fun p _ => Text.escapes false p = false) ?_ ?_ ?_ h
  · intro p q n _ hq
    obtain ⟨s, m, -, rfl, -⟩ := of_slashStep? hq
    rw [← List.append_assoc]
    exact Text.escapes_append_cons (by decide)
  · intro p q n hp hq
    obtain ⟨s, rfl, rfl⟩ := of_leadingStep? hq
    obtain ⟨m, hm, hs⟩ := Text.eq_append_removePrefix ['.'] s
    rw [Text.escapes_append_cons (by decide), hs] at hp
    refine (Text.escapes_append_cons (s := ['|']) (d := '|') (by decide)).trans ?_
    rcases hm with rfl | rfl
    · exact hp
    · exact (Text.escapes_append_cons (s := []) (d := '.') (by decide)).symm.trans hp
  · intro p q n _ hq
    obtain ⟨s, -, rfl⟩ := of_trailingStep? hq
    exact Text.escapes_append_cons (by decide)

theorem proper_simplified (hr : r.Proper) : (simplified r).Proper := by
  have hopens (hexc : r.exception = false) : Opens (simplified r).pattern :=
    opens_simplifyPattern (opens_of_proper hr hexc)
  refine ⟨?_, ?_, fun hexc => (hopens hexc).no_mark, hr.tidy, hr.protected_joined, fun hms => ?_⟩
  · refine of_simplifyPattern (P := fun p _ => p ≠ []) ?_ ?_ ?_ hr.pattern_ne_nil
    · intro p q n _ hq
      obtain ⟨s, m, -, rfl, -⟩ := of_slashStep? hq
      exact List.cons_ne_nil _ _
    · intro p q n _ hq
      obtain ⟨s, -, rfl⟩ := of_leadingStep? hq
      exact List.cons_ne_nil _ _
    · intro p q n _ hq
      obtain ⟨s, -, rfl⟩ := of_trailingStep? hq
      exact List.append_ne_nil_of_right_ne_nil _ (List.cons_ne_nil _ _)
  · cases hexc : r.exception with
    | true =>
      intro c hc
      rw [show (simplified r).exception = true from hexc] at hc
      exact Option.some.inj hc ▸ by decide
    | false =>
      rw [show (simplified r).exception = false from hexc]
      exact (hopens hexc).head_not_blank
  · exact escapes_simplifyPattern (hr.escapes_pattern hms)

/-! ### Patterns with a hostname -/

section
variable (hp : patternHost? p = some h) (hfeed : '\n' ∉ p)
include hp hfeed

theorem slashStep?_of_host : slashStep? p = none := by
  rw [Option.eq_none_iff_forall_ne_some]
  intro q hq
  obtain ⟨s, m, rfl, -, rfl | rfl⟩ := of_slashStep? hq
  · refine getLast?_ne hp hfeed (c := '/') (by decide) (by decide) (by decide) ?_
    rw [← List.append_assoc, List.getLast?_concat]
  · exact hfeed (by simp)

theorem trailingStep?_of_host : trailingStep? p = none := by
  rw [Option.eq_none_iff_forall_ne_some]
  intro q hq
  obtain ⟨s, rfl, -⟩ := of_trailingStep? hq
  exact not_wildcard_separator_suffix hp hfeed (List.suffix_append _ _)

/-- The wildcard that goes is none of the hostname. -/
theorem patternHost?_of_leadingStep? (hq : leadingStep? p = some q) :
    ∃ s, q = domainMark ++ s ∧ patternHost? q = some h ∧ '\n' ∉ q := by
  obtain ⟨s, rfl, rfl⟩ := of_leadingStep? hq
  have hlead : withoutLead (domainMark ++ wildcard :: s) =
      Text.removePrefix [':', '/', '/'] (Text.removePrefix [wildcard, '.'] (wildcard :: s)) := by
    rw [withoutLead, Text.removePrefix_append, Text.removePrefix_eq_self (p := ['|'])]
    exact fun hprefix => absurd (List.cons_prefix_cons.1 hprefix).1 (by decide)
  have hhead {c : Char} (hself : lowerChar c = c) (hc : isLabelChar c = false) (hdot : c ≠ '.') :
      (withoutLead (domainMark ++ wildcard :: s)).head? ≠ some c := by
    rw [head?_withoutLead hp hfeed]
    exact fun hmem => not_mem_nameIn hp hfeed hself hc hdot (List.mem_of_head? hmem)
  -- A dot follows the wildcard, for else the wildcard would be in the hostname.
  obtain ⟨t, rfl⟩ : ['.'] <+: s := by
    by_contra hdot
    refine hhead (c := wildcard) (by decide) (by decide) (by decide) ?_
    rw [hlead, Text.removePrefix_eq_self (p := [wildcard, '.']),
      Text.removePrefix_eq_self (p := [':', '/', '/'])]
    · rfl
    · exact fun hprefix => absurd (List.cons_prefix_cons.1 hprefix).1 (by decide)
    · exact fun hprefix => hdot (List.cons_prefix_cons.1 hprefix).2
  have hkeep : withoutLead (domainMark ++ wildcard :: (['.'] ++ t)) = Text.removePrefix [':', '/', '/'] t :=
    hlead.trans (congrArg (Text.removePrefix [':', '/', '/']) (Text.removePrefix_append [wildcard, '.'] t))
  rw [hkeep] at hhead
  have hhead {c : Char} {m : Text} (hself : lowerChar c = c) (hc : isLabelChar c = false) (hdot : c ≠ '.')
      (hcolon : ':' ≠ c) : ¬ c :: m <+: t := by
    rintro ⟨u, rfl⟩
    refine hhead hself hc hdot ?_
    rw [Text.removePrefix_eq_self (p := [':', '/', '/'])]
    · rfl
    · exact fun hprefix => hcolon (List.cons_prefix_cons.1 hprefix).1
  have hsame : withoutLead (domainMark ++ t) = withoutLead (domainMark ++ wildcard :: (['.'] ++ t)) := by
    rw [hkeep, withoutLead, Text.removePrefix_append,
      Text.removePrefix_eq_self (hhead (by decide) (by decide) (by decide) (by decide)),
      Text.removePrefix_eq_self (hhead (by decide) (by decide) (by decide) (by decide))]
  refine ⟨t, by rw [Text.removePrefix_append], ?_, ?_⟩
  · rw [Text.removePrefix_append, patternHost?_eq_some_iff, nameIn, hsame]
    exact patternHost?_eq_some_iff.1 hp
  · rw [Text.removePrefix_append]
    simp only [List.mem_append, List.mem_cons, not_or] at hfeed ⊢
    exact ⟨hfeed.1, hfeed.2.2.2⟩

theorem simplifyPattern_of_host :
    simplifyPattern p = (p, 0) ∨ ∃ s, simplifyPattern p = (domainMark ++ s, 1) ∧
      patternHost? (domainMark ++ s) = some h ∧ '\n' ∉ domainMark ++ s := by
  rw [simplifyPattern_eq, applyStep_none (slashStep?_of_host hp hfeed)]
  cases hq : leadingStep? p with
  | none =>
    rw [applyStep_none hq, applyStep_none (trailingStep?_of_host hp hfeed)]
    exact .inl rfl
  | some q =>
    obtain ⟨s, rfl, hp', hfeed'⟩ := patternHost?_of_leadingStep? hp hfeed hq
    rw [applyStep_some hq, applyStep_none (trailingStep?_of_host hp' hfeed')]
    exact .inr ⟨s, rfl, hp', hfeed'⟩

end

theorem simplifyPattern_of_no_mark (hbar : '|' ∉ p) (hsep : separator ∉ p) : simplifyPattern p = (p, 0) := by
  have hslash : slashStep? p = none := Option.eq_none_iff_forall_ne_some.2 fun q hq => by
    obtain ⟨s, m, rfl, -⟩ := of_slashStep? hq
    exact hbar (List.mem_cons_self ..)
  have hleading : leadingStep? p = none := Option.eq_none_iff_forall_ne_some.2 fun q hq => by
    obtain ⟨s, rfl, -⟩ := of_leadingStep? hq
    exact hbar (List.mem_cons_self ..)
  have htrailing : trailingStep? p = none := Option.eq_none_iff_forall_ne_some.2 fun q hq => by
    obtain ⟨s, rfl, -⟩ := of_trailingStep? hq
    exact hsep (List.mem_append_right s (List.mem_cons_of_mem _ (List.mem_singleton_self _)))
  rw [simplifyPattern_eq, applyStep_none hslash, applyStep_none hleading, applyStep_none htrailing]

/-! ### Lines -/

theorem simplifyLine_of_none (hr : ruleOf? l = none) : (simplifyLine l).1 = l := by
  rw [simplifyLine, hr]

theorem simplifyLine_of_some (hr : ruleOf? l = some r) :
    (simplifyLine l).1 = if r.isRegex || (simplifyPattern r.pattern).2 = 0 then l else (simplified r).text := by
  rw [simplifyLine, hr, simplified]
  dsimp only
  cases r.isRegex with
  | true => simp
  | false =>
    cases simplifyPattern r.pattern with
    | mk q n => cases n <;> simp

theorem noException_simplifyLine (hl : NoException l) : NoException (simplifyLine l).1 := by
  cases hr : ruleOf? l with
  | none => rwa [simplifyLine_of_none hr]
  | some r =>
    rw [simplifyLine_of_some hr]
    split
    · exact hl
    · have hproper := proper_of_read (ruleOf?_eq_some_iff.1 hr).2.2
      exact noException_text (hl r hr) (opens_simplifyPattern (opens_of_proper hproper (hl r hr)))

theorem names_simplifyLine (hl : Names l h) : Names (simplifyLine l).1 h := by
  cases hr : ruleOf? l with
  | none => rwa [simplifyLine_of_none hr]
  | some r =>
  have hread := (ruleOf?_eq_some_iff.1 hr).2.2
  rw [simplifyLine_of_some hr]
  cases hbare : isBareDomain l with
  | true =>
    have hnot {c : Char} (hc : isLabelChar c = false) (hdot : c ≠ '.') (hfeed : c ≠ '\n') : c ∉ r.pattern := by
      intro hmem
      rw [isBareDomain_of_mem_pattern hread hmem hc hdot hfeed] at hbare
      cases hbare
    rw [simplifyPattern_of_no_mark (hnot (by decide) (by decide) (by decide))
      (hnot (by decide) (by decide) (by decide)), if_pos (by simp)]
    exact hl
  | false =>
    obtain ⟨hregex, hexc, hp⟩ := patternHost?_of_blocks hl.blocks hr hbare
    rcases simplifyPattern_of_host hp (hl.feed r hread) with hsame | ⟨s, hs, hp', hfeed'⟩
    · rw [hsame, if_pos (by simp)]
      exact hl
    · rw [hs, if_neg (by simp [hregex]), simplified, hs]
      by_cases hms : r.modifiers = []
      · have htext : (⟨r.exception, domainMark ++ s, r.modifiers⟩ : AdblockRule).text = domainMark ++ s := by
          simp [text, hexc, hms]
        rw [htext]
        exact names_domainMark hp' hfeed'
      · exact names_text hexc hms hp' hfeed' (proper_of_read hread).protected_joined

end Optimize

end Blocklist
