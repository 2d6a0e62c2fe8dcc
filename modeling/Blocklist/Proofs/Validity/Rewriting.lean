import Blocklist.Proofs.Optimize.Basic
import Blocklist.Proofs.Validity.Patterns

/-!
# Valid lines through the optimizer

A rule that the optimizer writes again is read back (`ruleOf?_text`), unless it is `Garbled`. So a valid line
stays valid without its repeated modifiers (`isValid_dropRepeatedModifiers`), and with its pattern simplified
unless that is spoiled (`isValid_simplifyLine_iff`). Whatever becomes of a rule, reading it gives no modifier that it
did not have (`supported_rewritten`); valid rules have no `domain` modifier, and so nothing is there to merge.
-/

namespace Blocklist.Validity
open Optimize

variable {psl : SuffixList} {allowIp : Bool} {c : Char} {l p q s : Text} {lines : List Text} {r : AdblockRule}
  {settings : Settings}

/-- All modifiers mean something on the level of DNS. -/
def Supported (r : AdblockRule) : Prop := ∀ m ∈ r.modifiers, m.name ∈ supported

/-- A rule that its written form may not give back: a backslash may escape the comma after it, and after a
line feed in the pattern the modifiers may look like hostnames. -/
def Garbled (r : AdblockRule) : Prop :=
  r.isRegex = false ∧ '\n' ∈ r.pattern ∨ ∃ m ∈ r.modifiers.dropLast, m.text.getLast? = some '\\'

theorem of_mem_supported {name : Text} (h : name ∈ supported) :
    ',' ∉ name ∧ name.getLast? ≠ some '\\' ∧ name ≠ domainModifier := by
  have hall : ∀ name ∈ supported, ',' ∉ name ∧ name.getLast? ≠ some '\\' ∧ name ≠ domainModifier := by decide
  exact hall name h

theorem isValid_iff_of_ruleOf? (hr : ruleOf? l = some r) :
    isValid psl allowIp l ↔ Supported r ∧ minPatternLength ≤ r.pattern.length ∧
      (r.isRegex ∨ hasPatternChars r.pattern ∧ ¬ Flaw psl allowIp (limits r) r.pattern) := by
  obtain ⟨hcomment, hhosts, hread⟩ := ruleOf?_eq_some_iff.1 hr
  rw [isValid_of_rule hcomment hhosts hread, ruleVerdict_ok_iff, Supported]

theorem proper_of_ruleOf? (hr : ruleOf? l = some r) : r.Proper :=
  AdblockRule.proper_of_read (ruleOf?_eq_some_iff.1 hr).2.2

/-! ### Written forms -/

/-- Rules with supported modifiers have no others when they are read again. -/
theorem supported_text {r' : AdblockRule} (hr : r.Proper) (hs : Supported r) (hms : r.modifiers ≠ [])
    (hr' : ruleOf? r.text = some r') : Supported r' := by
  intro m hm
  obtain ⟨-, ⟨-, -, hagain⟩ | ⟨-, -, hagain⟩⟩ := hr.of_read_text hms (ruleOf?_eq_some_iff.1 hr').2.2
  · rw [hagain] at hm
    cases hm
  · rw [hagain] at hm
    have hname : ∀ m ∈ r.modifiers, ',' ∉ m.name ∧ m.name.getLast? ≠ some '\\' := fun m hm =>
      ⟨(of_mem_supported (hs m hm)).1, (of_mem_supported (hs m hm)).2.1⟩
    obtain ⟨m', hm', heq⟩ := Modifier.exists_name_of_mem_readAll_joined hr.tidy hname hm
    rw [heq]
    exact hs m' hm'

theorem isCommentOrBlank_text (hr : r.Proper) (hhead : r.exception = false → ∀ c ∈ r.pattern.head?, c ≠ '!' ∧ c ≠ '#') :
    isCommentOrBlank r.text = false := by
  obtain ⟨c, s, hs⟩ := List.exists_cons_of_ne_nil
    (List.append_ne_nil_of_right_ne_nil (AdblockRule.mark r.exception) hr.pattern_ne_nil)
  obtain ⟨u, hu⟩ := AdblockRule.pattern_prefix_body r
  have htext : r.text = c :: (s ++ u) := by
    rw [AdblockRule.text_eq, ← hu, ← List.append_assoc, hs, List.cons_append]
  have hc : isBlank c = false := hr.head_not_blank c (by rw [hs]; rfl)
  have hmark : c ≠ '!' ∧ c ≠ '#' := by
    cases hexc : r.exception with
    | true =>
      rw [hexc] at hs
      obtain rfl := (List.cons.inj hs).1
      decide
    | false =>
      rw [hexc] at hs
      exact hhead hexc c (by rw [← List.nil_append r.pattern]; exact hs ▸ rfl)
  rw [htext]
  exact isCommentOrBlank_eq_false (Text.trim_cons_of_not_blank hc _) hmark.1 hmark.2

/-- A rule is no hosts line if something of a pattern, or the modifiers, come before the first blank. -/
theorem isHostsLine_text {a b : Text} (htrim : r.text.Trimmed) (hbody : r.body = a ++ c :: b)
    (ha : ∀ d ∈ a, isBlank d = false) (hc : c ∈ ['$', '|', '^', '/']) : isHostsLine r.text = false := by
  have hall : ∀ c ∈ ['$', '|', '^', '/'],
      isBlank c = false ∧ isAddressChar c = false ∧ c ≠ '%' ∧ c.isAlphanum = false :=
    forall_mem_of_all (by decide)
  obtain ⟨hblank, haddress, hzone, hword⟩ := hall c hc
  have hfront : ∀ d ∈ AdblockRule.mark r.exception ++ a, isBlank d = false := by
    intro d hd
    rcases List.mem_append.1 hd with hd | hd
    · have hmark : ∀ d ∈ exceptionMark, isBlank d = false := forall_mem_of_all (by decide)
      rw [AdblockRule.mark] at hd
      split at hd
      · exact hmark d hd
      · cases hd
    · exact ha d hd
  have htext : r.text.trim = AdblockRule.mark r.exception ++ a ++ c :: b := by
    rw [Text.trim_eq_self_iff.2 htrim, AdblockRule.text_eq, hbody, List.append_assoc]
  exact isHostsLine_eq_false htext hfront hblank haddress hzone hword

section
variable (hr : r.Proper) (hs : Supported r) (hlast : ∀ m ∈ r.modifiers.dropLast, m.text.getLast? ≠ some '\\')
include hr hs hlast

/-- A rule with pattern characters is read back. -/
theorem ruleOf?_text (hp : hasPatternChars r.pattern) (hfeed : '\n' ∉ r.pattern)
    (hmark : r.modifiers ≠ [] ∨ ∃ c ∈ r.pattern, c = '|' ∨ c = separator) : ruleOf? r.text = some r := by
  have hblank : ∀ c ∈ r.pattern, isBlank c = false := fun c => isBlank_of_hasPatternChars hp hfeed
  have htrim : r.text.Trimmed := hr.text_trimmed fun _ c hc => hblank c (List.mem_of_getLast? hc)
  have hlegible : r.Legible := by
    rw [AdblockRule.Legible]
    split
    · have hdollar : '$' ∉ r.pattern := not_mem_of_hasPatternChars hp (by decide) (by decide)
      exact ⟨fun c hc => hblank c (List.mem_of_getLast? hc), .inr (Text.protected_of_not_mem hdollar)⟩
    · refine ⟨fun m hm => (of_mem_supported (hs m hm)).1, hlast, ?_⟩
      rw [isRegexPattern_of_hasPatternChars hp]
      exact Bool.false_ne_true
  refine ruleOf?_eq_some_iff.2 ⟨isCommentOrBlank_text hr fun _ c hc => ?_, ?_, hr.read_text_of_legible hlegible⟩
  · have hmem := List.mem_of_head? hc
    constructor
    · rintro rfl
      exact not_mem_of_hasPatternChars hp (by decide) (by decide) hmem
    · rintro rfl
      exact not_mem_of_hasPatternChars hp (by decide) (by decide) hmem
  · by_cases hms : r.modifiers = []
    · obtain ⟨c, hc, hmark⟩ := hmark.resolve_left (absurd hms)
      obtain ⟨a, b, hab⟩ := List.append_of_mem hc
      have hbody : r.body = a ++ c :: b := (AdblockRule.body_of_modifiers_nil hms).trans hab
      refine isHostsLine_text htrim hbody (fun d hd => hblank d (hab ▸ List.mem_append_left _ hd)) ?_
      rcases hmark with rfl | rfl <;> decide
    · exact isHostsLine_text htrim (AdblockRule.body_of_modifiers_ne_nil hms) hblank (by decide)

/-- A regular expression with modifiers is read back, or all of it is read as one. -/
theorem ruleOf?_text_of_regex (hregex : r.isRegex) (hms : r.modifiers ≠ []) :
    ruleOf? r.text = some r ∨ ruleOf? r.text = some ⟨r.exception, r.body, []⟩ ∧ AdblockRule.isRegexPattern r.body := by
  have hslash : r.pattern.head? = some '/' := by
    simp only [AdblockRule.isRegex, AdblockRule.isRegexPattern, Bool.and_eq_true, decide_eq_true_eq] at hregex
    exact hregex.1.2
  obtain ⟨b, hb⟩ := List.head?_eq_some_iff.1 hslash
  have htrim : r.text.Trimmed := hr.text_trimmed fun hnil => absurd hnil hms
  have hcomment : isCommentOrBlank r.text = false := by
    refine isCommentOrBlank_text hr fun _ c hc => ?_
    rw [hslash] at hc
    exact Option.some.inj hc ▸ by decide
  have hbody := AdblockRule.body_of_modifiers_ne_nil hms
  have hhosts : isHostsLine r.text = false := by
    rw [hb] at hbody
    exact isHostsLine_text (a := []) htrim hbody (by simp) (by decide)
  by_cases hwhole : AdblockRule.isRegexPattern r.body
  · refine .inr ⟨ruleOf?_eq_some_iff.2 ⟨hcomment, hhosts, ?_⟩, hwhole⟩
    refine AdblockRule.read_eq_ok_iff.2 ⟨?_, r.body, ?_, hr.not_mark_prefix_body,
      AdblockRule.readBody_of_isRegexPattern hwhole⟩
    · rw [hbody]
      exact List.append_ne_nil_of_right_ne_nil _ (List.cons_ne_nil _ _)
    · rw [Text.trim_eq_self_iff.2 htrim, AdblockRule.text_eq]
  · refine .inl (ruleOf?_eq_some_iff.2 ⟨hcomment, hhosts, hr.read_text_of_legible ?_⟩)
    rw [AdblockRule.Legible, if_neg hms, ← hbody]
    exact ⟨fun m hm => (of_mem_supported (hs m hm)).1, hlast, hwhole⟩

end

/-! ### Rules that are written again -/

theorem supported_eraseDups (hs : Supported r) : Supported { r with modifiers := r.modifiers.eraseDups } :=
  fun m hm => hs m (List.mem_eraseDups.1 hm)

theorem limits_eraseDups (r : AdblockRule) : limits { r with modifiers := r.modifiers.eraseDups } = limits r := by
  rw [Bool.eq_iff_iff, limits, limits, List.any_eq_true, List.any_eq_true]
  simp only [List.mem_map, List.mem_eraseDups]

/-- The last of the modifiers stays the last, or an earlier one becomes it. -/
theorem mem_dropLast_of_eraseDups {ms : List Modifier} {m : Modifier} (h : m ∈ ms.eraseDups.dropLast) :
    m ∈ ms.dropLast := by
  rcases List.eq_nil_or_concat ms with rfl | ⟨init, last, rfl⟩
  · exact h
  · rw [List.concat_eq_append] at h ⊢
    rw [List.eraseDups_append] at h
    rw [List.dropLast_concat]
    by_cases hlast : last ∈ init
    · have hnone : [last].removeAll init = [] := by simp [List.removeAll, hlast]
      rw [hnone, List.eraseDups_nil, List.append_nil] at h
      exact List.mem_eraseDups.1 (List.dropLast_subset _ h)
    · have hone : [last].removeAll init = [last] := by simp [List.removeAll, hlast]
      have hsingle : [last].eraseDups = [last] := by simp [List.eraseDups_cons]
      rw [hone, hsingle, List.dropLast_concat] at h
      exact List.mem_eraseDups.1 h

/-! ### Lines -/

theorem not_backslash_of_not_garbled (h : ¬ Garbled r) : ∀ m ∈ r.modifiers.dropLast, m.text.getLast? ≠ some '\\' :=
  fun m hm hlast => h (.inr ⟨m, hm, hlast⟩)

section
variable (hl : isValid psl allowIp l) (hr : ruleOf? l = some r) (hgarbled : ¬ Garbled r)
include hl hr hgarbled

/-- A rule that is not garbled is read back when its pattern is simplified. -/
theorem ruleOf?_simplifyLine (hregex : r.isRegex = false) :
    hasPatternChars (simplifyPattern r.pattern).1 ∧ '\n' ∉ (simplifyPattern r.pattern).1 ∧
      ruleOf? (simplifyLine l).1 = some (simplified r) := by
  obtain ⟨hs, -, hvalid⟩ := (isValid_iff_of_ruleOf? hr).1 hl
  rw [hregex] at hvalid
  obtain ⟨hp, -⟩ := hvalid.resolve_left Bool.false_ne_true
  have hq := hasPatternChars_simplifyPattern hp
  have hfeed : '\n' ∉ (simplifyPattern r.pattern).1 :=
    feed_not_mem_simplifyPattern fun hmem => hgarbled (.inl ⟨hregex, hmem⟩)
  refine ⟨hq, hfeed, ?_⟩
  rw [simplifyLine_of_some hr, hregex, Bool.false_or]
  by_cases hsteps : (simplifyPattern r.pattern).2 = 0
  · rw [if_pos (decide_eq_true hsteps), simplified, simplifyPattern_of_no_step hsteps]
    exact hr
  · rw [if_neg (by simpa using hsteps)]
    have hlast := not_backslash_of_not_garbled hgarbled
    exact ruleOf?_text (proper_simplified (proper_of_ruleOf? hr)) hs hlast hq hfeed
      (.inr (exists_mark_simplifyPattern hsteps))

/-- A rule that is not garbled stays valid when its pattern is simplified if and only if that is not spoiled. -/
theorem isValid_simplifyLine_iff : isValid psl allowIp (simplifyLine l).1 ↔ ¬ Spoiled psl allowIp r := by
  cases hregex : r.isRegex with
  | true =>
    rw [simplifyLine_of_some hr, hregex, Bool.true_or, if_pos rfl]
    refine iff_of_true hl fun hspoiled => ?_
    exact Bool.false_ne_true (hspoiled.1.symm.trans hregex)
  | false =>
    obtain ⟨hs, -, -⟩ := (isValid_iff_of_ruleOf? hr).1 hl
    obtain ⟨hq, -, hread⟩ := ruleOf?_simplifyLine hl hr hgarbled hregex
    have hplain : (simplified r).isRegex = false := by
      have hprefix := isRegexPattern_of_hasPatternChars hq []
      rwa [List.append_nil] at hprefix
    rw [isValid_iff_of_ruleOf? hread, hplain, Spoiled, hregex, not_and, not_or, Nat.not_lt]
    constructor
    · rintro ⟨-, hlength, hvalid⟩ -
      exact ⟨hlength, (hvalid.resolve_left Bool.false_ne_true).2⟩
    · intro h
      obtain ⟨hlength, hflaw⟩ := h rfl
      exact ⟨hs, hlength, .inr ⟨hq, hflaw⟩⟩

theorem not_garbled_simplifyLine {r' : AdblockRule} (hr' : ruleOf? (simplifyLine l).1 = some r') : ¬ Garbled r' := by
  cases hregex : r.isRegex with
  | true =>
    rw [simplifyLine_of_some hr, hregex, Bool.true_or, if_pos rfl] at hr'
    exact Option.some.inj (hr.symm.trans hr') ▸ hgarbled
  | false =>
    obtain ⟨-, hfeed, hread⟩ := ruleOf?_simplifyLine hl hr hgarbled hregex
    obtain rfl := Option.some.inj (hread.symm.trans hr')
    rintro (⟨-, hmem⟩ | hlast)
    · exact hfeed hmem
    · exact hgarbled (.inr hlast)

end

theorem isValid_dropRepeatedModifiers (hl : isValid psl allowIp l) (hgarbled : ∀ r, ruleOf? l = some r → ¬ Garbled r) :
    isValid psl allowIp (dropRepeatedModifiers l).1 := by
  refine of_dropRepeatedModifiers (P := fun l => isValid psl allowIp l) hl fun r hr _ hkept => ?_
  obtain ⟨hs, hlength, hvalid⟩ := (isValid_iff_of_ruleOf? hr).1 hl
  have hproper := (proper_of_ruleOf? hr).of_subset fun m hm => List.mem_eraseDups.1 hm
  have hlast : ∀ m ∈ r.modifiers.eraseDups.dropLast, m.text.getLast? ≠ some '\\' := fun m hm =>
    not_backslash_of_not_garbled (hgarbled r hr) m (mem_dropLast_of_eraseDups hm)
  cases hregex : r.isRegex with
  | true =>
    rcases ruleOf?_text_of_regex hproper (supported_eraseDups hs) hlast hregex hkept with hread | ⟨hread, hwhole⟩
    · exact (isValid_iff_of_ruleOf? hread).2 ⟨supported_eraseDups hs, hlength, .inl hregex⟩
    · have hprefix := (AdblockRule.pattern_prefix_body { r with modifiers := r.modifiers.eraseDups }).length_le
      exact (isValid_iff_of_ruleOf? hread).2 ⟨(fun m hm => by cases hm), hlength.trans hprefix, .inl hwhole⟩
  | false =>
    rw [hregex] at hvalid
    obtain ⟨hp, hflaw⟩ := hvalid.resolve_left Bool.false_ne_true
    have hfeed : '\n' ∉ r.pattern := fun hmem => hgarbled r hr (.inl ⟨hregex, hmem⟩)
    have hread := ruleOf?_text hproper (supported_eraseDups hs) hlast hp hfeed (.inl hkept)
    refine (isValid_iff_of_ruleOf? hread).2 ⟨supported_eraseDups hs, hlength, .inr ⟨hp, ?_⟩⟩
    rwa [limits_eraseDups]

/-- A valid line that the stages before merging rewrite stays valid, unless its rule is garbled or spoiled. -/
theorem isValid_rewritten (hl : isValid psl allowIp l) :
    isValid psl allowIp (rewritten settings l) ∨
      ∃ r, ruleOf? l = some r ∧ (Garbled r ∨ settings.optimizePatterns ∧ Spoiled psl allowIp r) := by
  cases hr : ruleOf? l with
  | none =>
    have hsame : rewritten settings l = l := by
      rw [rewritten, simplifyLine_of_none hr, ite_self, dropRepeatedModifiers_of_none hr, ite_self]
    rw [hsame]
    exact .inl hl
  | some r =>
  by_cases hbad : Garbled r ∨ settings.optimizePatterns ∧ Spoiled psl allowIp r
  · exact .inr ⟨r, rfl, hbad⟩
  rw [not_or] at hbad
  obtain ⟨hgarbled, hspoiled⟩ := hbad
  have hpattern : isValid psl allowIp (if settings.optimizePatterns then (simplifyLine l).1 else l) ∧
      ∀ r', ruleOf? (if settings.optimizePatterns then (simplifyLine l).1 else l) = some r' → ¬ Garbled r' := by
    split
    · rename_i hon
      refine ⟨(isValid_simplifyLine_iff hl hr hgarbled).2 fun h => hspoiled ⟨hon, h⟩, fun r' hr' => ?_⟩
      exact not_garbled_simplifyLine hl hr hgarbled hr'
    · exact ⟨hl, fun r' hr' => Option.some.inj (hr.symm.trans hr') ▸ hgarbled⟩
  rw [rewritten]
  left
  split
  · exact isValid_dropRepeatedModifiers hpattern.1 hpattern.2
  · exact hpattern.1

/-! ### Merging -/

theorem supported_simplifyLine (hl : isValid psl allowIp l) (hr : ruleOf? (simplifyLine l).1 = some r) :
    Supported r := by
  cases hr' : ruleOf? l with
  | none =>
    rw [simplifyLine_of_none hr', hr'] at hr
    cases hr
  | some r' =>
  obtain ⟨hs, -, hvalid⟩ := (isValid_iff_of_ruleOf? hr').1 hl
  rw [simplifyLine_of_some hr'] at hr
  split at hr
  · exact Option.some.inj (hr'.symm.trans hr) ▸ hs
  rename_i hchanged
  simp only [Bool.or_eq_true, not_or, Bool.not_eq_true] at hchanged
  rw [hchanged.1] at hvalid
  obtain ⟨hp, -⟩ := hvalid.resolve_left Bool.false_ne_true
  by_cases hms : r'.modifiers = []
  · -- There is no dollar sign for modifiers to come after.
    have hdollar : '$' ∉ (simplifyPattern r'.pattern).1 :=
      not_mem_of_hasPatternChars (hasPatternChars_simplifyPattern hp) (by decide) (by decide)
    obtain ⟨-, body, htrim, -, hbody⟩ := AdblockRule.read_eq_ok_iff.1 (ruleOf?_eq_some_iff.1 hr).2.2
    obtain ⟨-, -, hnil⟩ | ⟨-, o, rfl, -⟩ := AdblockRule.of_readBody hbody
    · rw [Supported, hnil]
      exact fun m hm => by cases hm
    · have hmem := Text.mem_of_mem_trim
        (htrim ▸ List.mem_append_right _ (List.mem_append_right _ (List.mem_cons_self (a := '$') (l := o))))
      rw [AdblockRule.text_eq, AdblockRule.body_of_modifiers_nil (r := simplified r') hms] at hmem
      have hmark : ∀ e, '$' ∉ AdblockRule.mark e := by decide
      exact absurd hmem (mt List.mem_append.1 (not_or.2 ⟨hmark _, hdollar⟩))
  · exact supported_text (proper_simplified (proper_of_ruleOf? hr')) hs hms hr

theorem supported_dropRepeatedModifiers (hs : ∀ r, ruleOf? l = some r → Supported r)
    (hr : ruleOf? (dropRepeatedModifiers l).1 = some r) : Supported r := by
  cases hr' : ruleOf? l with
  | none =>
    rw [dropRepeatedModifiers_of_none hr', hr'] at hr
    cases hr
  | some r' =>
  rw [dropRepeatedModifiers_of_some hr'] at hr
  split at hr
  · exact hs r hr
  · rename_i hrepeated
    obtain ⟨-, hkept⟩ := modifiers_ne_nil_of_repeated hrepeated
    exact supported_text ((proper_of_ruleOf? hr').of_subset fun m hm => List.mem_eraseDups.1 hm)
      (supported_eraseDups (hs r' hr')) hkept hr

theorem supported_rewritten (hl : isValid psl allowIp l) (hr : ruleOf? (rewritten settings l) = some r) :
    Supported r := by
  have hpattern : ∀ r', ruleOf? (if settings.optimizePatterns then (simplifyLine l).1 else l) = some r' →
      Supported r' := by
    intro r' hr'
    split at hr'
    · exact supported_simplifyLine hl hr'
    · exact ((isValid_iff_of_ruleOf? hr').1 hl).1
  rw [rewritten] at hr
  split at hr
  · exact supported_dropRepeatedModifiers hpattern hr
  · exact hpattern r hr

/-- A rule with supported modifiers lists no domains, and so there is nothing to merge. -/
theorem mergeable?_of_supported (hs : ∀ r, ruleOf? l = some r → Supported r) : mergeable? l = none := by
  rw [Option.eq_none_iff_forall_ne_some]
  rintro ⟨key, r⟩ hm
  obtain ⟨hr, hkey⟩ := mergeable?_eq_some_iff.1 hm
  obtain ⟨-, -, m, hmem, hlists⟩ := of_mergeKey? hkey
  have hname : m.name = domainModifier := of_decide_eq_true (Bool.and_eq_true_iff.1 hlists).1
  exact (of_mem_supported (hs r hr m hmem)).2.2 hname

/-- The optimizer drops valid lines and rewrites them, and does nothing else with them. -/
theorem of_mem_optimize {k : Text} {out : List Text} {stats : Stats} (hlines : ∀ l ∈ lines, isValid psl allowIp l)
    (hout : optimize psl settings lines = .ok (out, stats)) (hk : k ∈ out) : ∃ l ∈ lines, k = rewritten settings l := by
  have hout : out = (irredundant psl settings lines).map (rewritten settings) := by
    have hstages := of_optimize hout
    split at hstages
    · obtain ⟨n, hmerge⟩ := hstages
      rw [mergeLines_of_none] at hmerge
      · exact (Prod.mk.inj (Except.ok.inj hmerge)).1.symm
      · intro k hk
        obtain ⟨l, hl, rfl⟩ := List.mem_map.1 hk
        exact mergeable?_of_supported fun r => supported_rewritten (hlines l (mem_of_mem_irredundant hl))
    · exact hstages
  rw [hout] at hk
  obtain ⟨l, hl, rfl⟩ := List.mem_map.1 hk
  exact ⟨l, mem_of_mem_irredundant hl, rfl⟩

end Blocklist.Validity
