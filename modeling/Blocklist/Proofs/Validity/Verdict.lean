import Blocklist.Proofs.Cascade
import Blocklist.Proofs.Rule.Kind
import Blocklist.Validity

/-!
# What a validator keeps

`mem_validLines`: the lines that a validator keeps are valid. `isValid_of_hosts` and `ruleVerdict_ok_iff` say when
a hosts line and a rule are valid, where `Flaw` lists what is wrong with a pattern; `of_hostnameOk` says what a
hostname that may be blocked is not.
-/

namespace Blocklist

namespace Validity
open Hostname

variable {psl : SuffixList} {allowIp limited : Bool} {c : Char} {line p s D b : Text} {lines : List Text}
  {r : AdblockRule}

theorem mem_validLines (h : line ∈ validLines psl allowIp lines) : line ∈ lines ∧ isValid psl allowIp line := by
  obtain ⟨hmem, hmark⟩ := Cascade.mem_of_mem_kept h
  refine ⟨hmem, ?_⟩
  cases hvalid : isValid psl allowIp line with
  | true => rfl
  | false => simp [mark, hvalid] at hmark

/-! ### Lines -/

theorem isValid_of_comment (h : isCommentOrBlank line) : isValid psl allowIp line := by
  rw [isValid, verdict, if_pos h]
  rfl

theorem isValid_of_hosts {r : HostsRule} (h : HostsRule.read line = .ok r) :
    isValid psl allowIp line ↔ r.hostnames ≠ [] ∧ ∀ w ∈ r.hostnames, hostnameOk psl allowIp false w := by
  have hhosts := HostsRule.isHostsLine_of_read h
  rw [isValid, verdict, isCommentOrBlank_of_isHostsLine hhosts, isHostsLine_trim, if_neg (by decide), if_pos hhosts,
    hostsVerdict, HostsRule.read_trim_eq_ok_iff.2 h]
  dsimp only
  rw [← List.all_eq_true]
  cases hnames : decide (r.hostnames ≠ []) <;> cases r.hostnames.all (hostnameOk psl allowIp false) <;>
    simp_all [Verdict.ok]

theorem isValid_of_rule (hcomment : isCommentOrBlank line = false) (hhosts : isHostsLine line = false)
    (h : AdblockRule.read line = .ok r) : isValid psl allowIp line = (ruleVerdict psl allowIp r).ok := by
  rw [isValid, verdict, hcomment, isHostsLine_trim, hhosts, if_neg (by decide), if_neg (by decide), adblockVerdict,
    AdblockRule.read_trim_eq_ok_iff.2 h]

/-- A valid line that is neither a comment nor a hosts line is a rule. -/
theorem exists_read_of_isValid (hcomment : isCommentOrBlank line = false) (hhosts : isHostsLine line = false)
    (h : isValid psl allowIp line) : ∃ r, AdblockRule.read line = .ok r := by
  rw [isValid, verdict, hcomment, isHostsLine_trim, hhosts, if_neg (by decide), if_neg (by decide),
    adblockVerdict] at h
  split at h
  · cases h
  · rename_i r hr
    exact ⟨r, AdblockRule.read_trim_eq_ok_iff.1 hr⟩

/-! ### Hostnames -/

/-- Without exceptions, a hostname that may be blocked is neither an address nor a public suffix. -/
theorem of_hostnameOk (h : hostnameOk psl false false s) :
    Hostname.isValid (Text.removeSuffix ['.'] s.trim.lower) ∧
      Address.canonical? (Text.removeSuffix ['.'] s.trim.lower) = none ∧
      publicSuffix? psl (Text.removeSuffix ['.'] s.trim.lower) ≠ some (Text.removeSuffix ['.'] s.trim.lower) := by
  rw [hostnameOk, HostText.read] at h
  generalize Text.removeSuffix ['.'] s.trim.lower = name at h ⊢
  split at h
  · cases h
  · cases h
  · rename_i name' suffix hread
    split at hread
    · cases hread
    rename_i haddress
    split at hread
    · rename_i hvalid
      obtain ⟨rfl, rfl⟩ := HostText.name.inj hread
      refine ⟨hvalid, by simpa using haddress, fun heq => ?_⟩
      rw [heq] at h
      simp at h
    · cases hread

/-! ### Patterns -/

theorem toNat_of_isPatternChar (h : isPatternChar c) : 0x2A ≤ c.toNat ∧ c.toNat ≤ 0x7C := by
  rcases Bool.or_eq_true_iff.1 h with h | h
  · have := toNat_of_isAlphanum h
    omega
  · have hmarks : ∀ c ∈ ['-', '.', '*', '|', '^'], 0x2A ≤ c.toNat ∧ c.toNat ≤ 0x7C :=
      forall_mem_of_all (by decide)
    exact hmarks c (List.elem_iff.1 h)

theorem isBlank_of_isPatternChar (h : isPatternChar c) : isBlank c = false := by
  have := toNat_of_isPatternChar h
  exact isBlank_eq_false (by omega)

/-- A pattern that starts with no scheme mark has pattern characters only, up to a line feed. -/
theorem hasPatternChars_iff (h : p.head? ≠ some ':') :
    hasPatternChars p ↔ p.dropLineFeed ≠ [] ∧ ∀ c ∈ p.dropLineFeed, isPatternChar c := by
  have hmark : ¬ [':', '/', '/'] <+: p := by
    rintro ⟨t, rfl⟩
    exact h rfl
  rw [hasPatternChars, Text.removePrefix_eq_self hmark]
  simp

theorem isPatternChar_of_mem_domain (h : hasPatternChars (domainMark ++ (D ++ separator :: b))) (hc : c ∈ D) :
    isPatternChar c := by
  rw [hasPatternChars_iff (by rw [domainMark]; simp), ← List.append_assoc,
    Text.dropLineFeed_append_cons (by decide)] at h
  exact h.2 c (List.mem_append_left _ (List.mem_append_right _ hc))

theorem trim_domain (h : hasPatternChars (domainMark ++ (D ++ separator :: b))) : D.trim = D :=
  Text.trim_eq_self_iff.2 <| Text.trimmed_word fun _ hc => isBlank_of_isPatternChar (isPatternChar_of_mem_domain h hc)

/-- What is wrong with a pattern of characters that may be in one, where `D` is the text between the domain
mark and the first separator: a wildcard behind that separator only, no hostname in front of it, something
else than a bar behind it, or nothing but a wildcard in front of a whole public suffix. -/
inductive Flaw (psl : SuffixList) (allowIp limited : Bool) (p : Text) : Prop
  | order (a b : Text) (eq : p = a ++ separator :: b) (first : separator ∉ a) (before : wildcard ∉ a)
      (after : wildcard ∈ b)
  | host (D b : Text) (eq : p = domainMark ++ (D ++ separator :: b)) (first : separator ∉ D) (plain : wildcard ∉ D)
      (ne : D ≠ []) (bad : hostnameOk psl allowIp limited D = false)
  | rest (D : Text) (c : Char) (b : Text) (eq : p = domainMark ++ (D ++ separator :: c :: b)) (first : separator ∉ D)
      (plain : wildcard ∉ D) (ne : c ≠ '|')
  | suffix (bare b : Text) (eq : p = domainMark ++ (wildcard :: '.' :: bare ++ separator :: b))
      (first : separator ∉ wildcard :: '.' :: bare) (whole : publicSuffix? psl bare = some bare)
      (bad : hostnameOk psl allowIp limited bare = false)

/-- The verdict on a pattern that starts with the domain mark. -/
theorem anchoredVerdict_ok_iff :
    (anchoredVerdict psl allowIp limited D b).ok ↔
      (wildcard ∈ D → ∀ bare, D = wildcard :: '.' :: bare → publicSuffix? psl bare = some bare →
        hostnameOk psl allowIp limited bare) ∧
      (wildcard ∉ D → (D ≠ [] → hostnameOk psl allowIp limited D) ∧ ∀ c ∈ b.head?, c = '|') := by
  rw [anchoredVerdict, List.elem_eq_mem]
  by_cases hwildcard : wildcard ∈ D
  · simp only [hwildcard, decide_true, if_true, true_imp_iff, not_true_eq_false, false_imp_iff, and_true]
    cases hbare : Text.dropPrefix? [wildcard, '.'] D with
    | none =>
      refine iff_of_true rfl ?_
      rintro bare rfl
      rw [show wildcard :: '.' :: bare = [wildcard, '.'] ++ bare from rfl, Text.dropPrefix?_append] at hbare
      cases hbare
    | some bare =>
      obtain rfl := Text.dropPrefix?_eq_some_iff.1 hbare
      have hunique {t : Text} (ht : [wildcard, '.'] ++ bare = wildcard :: '.' :: t) : t = bare :=
        (List.cons.inj (List.cons.inj ht).2).2.symm
      dsimp only
      split
      · rename_i hwhole
        cases hok : hostnameOk psl allowIp limited bare with
        | true => exact iff_of_true rfl fun t ht _ => hunique ht ▸ hok
        | false =>
          refine iff_of_false Bool.false_ne_true fun h => ?_
          rw [h bare rfl hwhole] at hok
          cases hok
      · rename_i hwhole
        exact iff_of_true rfl fun t ht hwhole' => absurd (hunique ht ▸ hwhole') hwhole
  · simp only [hwildcard, decide_false, false_imp_iff, true_and, not_false_eq_true, true_imp_iff]
    rw [if_neg Bool.false_ne_true]
    have hrest : (if (b ≠ [] && b.head? ≠ some '|') = true then Verdict.removed .malformed else .kept .domain).ok ↔
        ∀ c ∈ b.head?, c = '|' := by
      cases b with
      | nil => simp [Verdict.ok]
      | cons c b => by_cases hc : c = '|' <;> simp [Verdict.ok, hc]
    cases hok : hostnameOk psl allowIp limited D with
    | true => simpa using hrest
    | false =>
      by_cases hD : D = []
      · simpa [hD] using hrest
      · simp [hD, Verdict.ok]

theorem eq_of_first_separator {a a' b b' : Text} (h : a ++ separator :: b = a' ++ separator :: b')
    (ha : separator ∉ a) (ha' : separator ∉ a') : a = a' ∧ b = b' := by
  have hcut : Text.cut? [separator] (a ++ separator :: b) = some (a, b) :=
    Text.cut?_singleton_eq_some_iff.2 ⟨rfl, ha⟩
  rw [Text.cut?_singleton_eq_some_iff.2 ⟨h, ha'⟩] at hcut
  exact (Prod.mk.inj (Option.some.inj hcut)).imp Eq.symm Eq.symm

theorem not_flaw_of_separator_not_mem (h : separator ∉ p) : ¬ Flaw psl allowIp limited p := by
  rintro (⟨a, b, rfl, -⟩ | ⟨D, b, rfl, -⟩ | ⟨D, c, b, rfl, -⟩ | ⟨bare, b, rfl, -⟩) <;> simp at h

/-- The flaws of a pattern are in the order of its wildcard and separator, and in its domain. -/
theorem not_flaw_iff {front rest : Text} (hfront : separator ∉ front) :
    ¬ Flaw psl allowIp limited (front ++ separator :: rest) ↔
      ¬ (wildcard ∉ front ∧ wildcard ∈ rest) ∧
        ∀ D, front = domainMark ++ D → (anchoredVerdict psl allowIp limited D rest).ok := by
  have hassoc (D : Text) : domainMark ++ D ++ separator :: rest = domainMark ++ (D ++ separator :: rest) :=
    List.append_assoc ..
  constructor
  · intro h
    refine ⟨fun ⟨hbefore, hafter⟩ => h (.order front rest rfl hfront hbefore hafter), ?_⟩
    rintro D rfl
    have hD : separator ∉ D := fun hmem => hfront (List.mem_append_right _ hmem)
    rw [hassoc] at h
    refine anchoredVerdict_ok_iff.2 ⟨?_, fun hw => ⟨fun hne => ?_, fun c hc => ?_⟩⟩
    · rintro - bare rfl hwhole
      by_contra hbad
      exact h (.suffix bare rest rfl hD hwhole (Bool.eq_false_iff.2 hbad))
    · by_contra hbad
      exact h (.host D rest rfl hD hw hne (Bool.eq_false_iff.2 hbad))
    · obtain ⟨b, rfl⟩ := List.head?_eq_some_iff.1 hc
      by_contra hne
      exact h (.rest D c b rfl hD hw hne)
  · rintro ⟨horder, hdomain⟩ hflaw
    -- Whatever the flaw takes for the text in front of the first separator, it is `front`.
    have hanchored {D b : Text} (h : front ++ separator :: rest = domainMark ++ (D ++ separator :: b))
        (hD : separator ∉ D) : (anchoredVerdict psl allowIp limited D b).ok := by
      rw [← List.append_assoc] at h
      have hmark : separator ∉ domainMark ++ D := fun hmem => (List.mem_append.1 hmem).elim (by decide) hD
      obtain ⟨rfl, rfl⟩ := eq_of_first_separator h hfront hmark
      exact hdomain D rfl
    obtain ⟨a, b, h, ha, hbefore, hafter⟩ | ⟨D, b, h, hD, hw, hne, hbad⟩ | ⟨D, c, b, h, hD, hw, hne⟩ |
      ⟨bare, b, h, hbare, hwhole, hbad⟩ := hflaw
    · obtain ⟨rfl, rfl⟩ := eq_of_first_separator h hfront ha
      exact horder ⟨hbefore, hafter⟩
    · rw [((anchoredVerdict_ok_iff.1 (hanchored h hD)).2 hw).1 hne] at hbad
      cases hbad
    · exact hne (((anchoredVerdict_ok_iff.1 (hanchored h hD)).2 hw).2 c rfl)
    · rw [(anchoredVerdict_ok_iff.1 (hanchored h hbare)).1 (List.mem_cons_self ..) bare rfl hwhole] at hbad
      cases hbad

/-- A pattern is valid if it has pattern characters only and no flaw. -/
theorem patternVerdict_ok_iff :
    (patternVerdict psl allowIp limited p).ok ↔ hasPatternChars p ∧ ¬ Flaw psl allowIp limited p := by
  rw [patternVerdict]
  cases hchars : hasPatternChars p with
  | false => exact iff_of_false Bool.false_ne_true fun h => Bool.false_ne_true h.1
  | true =>
  rw [Bool.not_true, if_neg Bool.false_ne_true]
  cases hcut : Text.cut? [separator] p with
  | none =>
    exact iff_of_true rfl ⟨rfl, not_flaw_of_separator_not_mem (Text.cut?_singleton_eq_none_iff.1 hcut)⟩
  | some cut =>
  obtain ⟨front, rest⟩ := cut
  obtain ⟨rfl, hfront⟩ := Text.cut?_singleton_eq_some_iff.1 hcut
  rw [not_flaw_iff hfront]
  simp only [List.elem_eq_mem]
  by_cases horder : wildcard ∉ front ∧ wildcard ∈ rest
  · rw [if_pos (by simp [horder])]
    exact iff_of_false Bool.false_ne_true fun h => h.2.1 horder
  rw [if_neg (by simpa using horder)]
  cases hmark : Text.dropPrefix? domainMark front with
  | none =>
    refine iff_of_true rfl ⟨trivial, horder, ?_⟩
    rintro D rfl
    rw [Text.dropPrefix?_append] at hmark
    cases hmark
  | some D =>
    obtain rfl := Text.dropPrefix?_eq_some_iff.1 hmark
    refine ⟨fun h => ⟨trivial, horder, fun D' hD' => ?_⟩, fun h => h.2.2 D rfl⟩
    rwa [← List.append_cancel_left hD']

/-! ### Rules -/

/-- A rule is limited to some clients or domains. -/
def limits (r : AdblockRule) : Bool := (r.modifiers.map (·.name)).any limiting.elem

theorem ruleVerdict_ok_iff :
    (ruleVerdict psl allowIp r).ok ↔ (∀ m ∈ r.modifiers, m.name ∈ supported) ∧ minPatternLength ≤ r.pattern.length ∧
      (r.isRegex ∨ hasPatternChars r.pattern ∧ ¬ Flaw psl allowIp (limits r) r.pattern) := by
  have hnames : (r.modifiers.map (·.name)).all supported.elem ↔ ∀ m ∈ r.modifiers, m.name ∈ supported := by
    simp [List.all_eq_true]
  rw [ruleVerdict, ← hnames]
  cases (r.modifiers.map (·.name)).all supported.elem with
  | false => exact iff_of_false Bool.false_ne_true fun h => Bool.false_ne_true h.1
  | true =>
  rw [Bool.not_true, if_neg Bool.false_ne_true]
  by_cases hlength : r.pattern.length < minPatternLength
  · rw [if_pos hlength]
    exact iff_of_false Bool.false_ne_true fun h => Nat.not_le.2 hlength h.2.1
  rw [if_neg hlength, ← patternVerdict_ok_iff]
  have hlength : minPatternLength ≤ r.pattern.length := Nat.not_lt.1 hlength
  cases r.isRegex with
  | true => exact iff_of_true rfl ⟨rfl, hlength, .inl rfl⟩
  | false => simp [hlength, limits]

end Validity

end Blocklist
