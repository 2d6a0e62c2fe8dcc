import Blocklist.Hostname.SuffixRules
import Blocklist.Proofs.Output.Hostnames
import Blocklist.Proofs.Validity.Verdict

/-!
# The hostnames of a validated list

`canonical_validLines`: without limited rules, the hostnames that hosts lines and rules `||name^` leave in a
validated list are no addresses and no whole public suffixes, and those of rules `||*.name^` are no whole
public suffixes. Nothing is asked of a bare domain and of a pattern without the domain mark or without a separator,
and so an address or a whole public suffix comes through in each of them (`canonical_validLines_unchecked`).
-/

namespace Blocklist.Validity
open Hostname Output

variable {psl : SuffixList} {host l s D b : Text} {lines : List Text} {r : AdblockRule}

/-- A list of lines none of which is a limited rule. -/
def Unlimited (lines : List Text) : Prop :=
  ∀ l ∈ lines, ∀ r, Line.read l = .ok (.adblock r) → ∀ m ∈ r.modifiers, m.name ∉ limiting

theorem unlimited_iff : Unlimited lines ↔ ∀ l ∈ lines, (match Line.read l with
    | .ok (.adblock r) => r.modifiers.any fun m => limiting.elem m.name
    | _ => false) = false := by
  refine forall₂_congr fun l _ => ?_
  cases Line.read l with
  | error e => simp
  | ok line => cases line <;> simp

instance : DecidablePred Unlimited := fun _ => decidable_of_iff _ unlimited_iff.symm

/-- A hostname that is neither an address nor a whole public suffix. -/
def Blockable (psl : SuffixList) (host : Text) : Prop :=
  Address.canonical? host = none ∧ publicSuffix? psl host ≠ some host

instance : DecidablePred (Blockable psl) := fun _ => inferInstanceAs (Decidable (_ ∧ _))

/-- A rule for the domain `D`: that is what stands between the domain mark and the first separator. -/
def IsFor (D : Text) (r : AdblockRule) : Prop :=
  separator ∉ D ∧ ∃ b, r.pattern = domainMark ++ (D ++ separator :: b)

/-! ### Hosts lines -/

theorem plainForm_eq (hvalid : Hostname.isValid (Text.removeSuffix ['.'] s.lower)) :
    plainForm s = Text.removeSuffix ['.'] s.lower := by
  obtain ⟨m, hm, hs⟩ := Text.eq_removeSuffix_append ['.'] s.lower
  have hdot : ∀ c ∈ m, decide (c = '.') := by
    rcases hm with rfl | rfl
    · simp
    · simp
  rw [plainForm, hs, Text.dropEndWhile_append_of_pos hdot, ← hs, dropEndWhile_dot_of_isValid hvalid]

theorem blockable_of_hosts {r : HostsRule} (hr : HostsRule.read l = .ok r) (hl : isValid psl false l)
    (hs : s ∈ r.hostnames) : Blockable psl (plainForm s) := by
  have hword := ((HostsRule.proper_of_read hr).words s (List.mem_cons_of_mem _ hs)).2
  have htrim : s.trim = s := Text.trim_eq_self_iff.2 (Text.trimmed_word fun c hc => (hword c hc).1)
  obtain ⟨hvalid, haddress, hsuffix⟩ := of_hostnameOk (((isValid_of_hosts hr).1 hl).2 s hs)
  rw [htrim] at hvalid haddress hsuffix
  rw [plainForm_eq hvalid]
  exact ⟨haddress, hsuffix⟩

/-! ### Rules for a domain -/

/-- The name of a domain that may be blocked is the hostname of its rule. -/
theorem blockable_of_domain (hchars : hasPatternChars (domainMark ++ (D ++ separator :: b)))
    (hflaw : ¬ Flaw psl false false (domainMark ++ (D ++ separator :: b))) (hsep : separator ∉ D) (hwild : wildcard ∉ D)
    (hhost : patternHost? (domainMark ++ (D ++ separator :: b)) = some host) : Blockable psl host := by
  have hne : D ≠ [] := by
    rintro rfl
    have hnil := host_of_separator (by simp) hhost
    exact absurd (isValid_host hhost) (hnil ▸ by decide)
  have hok : hostnameOk psl false false D := by
    by_contra hbad
    exact hflaw (.host D b rfl hsep hwild hne (Bool.eq_false_iff.2 hbad))
  obtain ⟨hvalid, haddress, hsuffix⟩ := of_hostnameOk hok
  rw [trim_domain hchars] at hvalid haddress hsuffix
  have hmarks : ∀ c ∈ D, c ∉ ['|', '*', ':', '^'] := by
    intro c hc hmark
    have hself : ∀ c ∈ ['|', '*', ':', '^'],
        c.toNat < 0x80 ∧ c.toLower = c ∧ isLabelChar c = false ∧ c ≠ '.' ∧ c ≠ '\n' :=
      forall_mem_of_all (by decide)
    obtain ⟨hascii, hself, hlabel, hdot, hfeed⟩ := hself c hmark
    have hlower := Text.mem_lower_of_mem hc hascii
    rw [hself] at hlower
    exact not_mem_of_isValid hvalid hlabel hdot hfeed (Text.mem_removeSuffix hlower (mt List.mem_singleton.1 hdot))
  have hname := host_of_separator hmarks hhost
  rw [Text.lower_removeSuffix_dot] at hname
  rw [hname] at haddress hsuffix
  exact ⟨haddress, hsuffix⟩

theorem publicSuffix?_ne_of_wildcard
    (hchars : hasPatternChars (domainMark ++ (wildcard :: '.' :: host ++ separator :: b)))
    (hflaw : ¬ Flaw psl false false (domainMark ++ (wildcard :: '.' :: host ++ separator :: b)))
    (hhost : patternHost? (domainMark ++ (wildcard :: '.' :: host ++ separator :: b)) = some host) :
    publicSuffix? psl host ≠ some host := by
  have hvalid := isValid_host hhost
  have hfeed : '\n' ∉ host := by
    intro hmem
    have hchar := isPatternChar_of_mem_domain hchars (List.mem_cons_of_mem _ (List.mem_cons_of_mem _ hmem))
    exact absurd hchar (by decide)
  have hsep : separator ∉ wildcard :: '.' :: host := by
    rw [List.mem_cons, List.mem_cons, not_or, not_or]
    exact ⟨by decide, by decide, not_mem_of_isValid hvalid (by decide) (by decide) (by decide)⟩
  intro hwhole
  refine hflaw (.suffix host b rfl hsep hwhole (Bool.eq_false_iff.2 fun hok => ?_))
  obtain ⟨-, -, hsuffix⟩ := of_hostnameOk hok
  rw [trim_of_isValid hvalid hfeed, lower_host hhost, removeSuffix_dot_of_isValid hvalid] at hsuffix
  exact hsuffix hwhole

/-! ### Lists -/

theorem limits_eq_false (h : ∀ m ∈ r.modifiers, m.name ∉ limiting) : limits r = false := by
  rw [limits, List.any_eq_false]
  intro name hname
  obtain ⟨m, hm, rfl⟩ := List.mem_map.1 hname
  simpa using h m hm

/-- A rule that blocks a hostname by its pattern has pattern characters, and no flaw if it is not limited. -/
theorem of_isValid_of_blocks {allowIp : Bool} (hl : isValid psl allowIp l) (hread : AdblockRule.read l = .ok r)
    (hcomment : isCommentOrBlank l = false) (hhosts : isHostsLine l = false) (hregex : r.isRegex = false) :
    hasPatternChars r.pattern ∧ ¬ Flaw psl allowIp (limits r) r.pattern := by
  rw [isValid_of_rule hcomment hhosts hread, ruleVerdict_ok_iff, hregex] at hl
  exact hl.2.2.resolve_left Bool.false_ne_true

/-- A hostname in a validated list without limited rules is named by a line of it. If a hosts line or a rule
`||name^` names it, it is neither an address nor a whole public suffix, and if a rule `||*.name^` names it, it
is no whole public suffix. -/
theorem canonical_validLines (psl : SuffixList) (hlines : Unlimited lines)
    (hh : host ∈ canonical (validLines psl false lines)) :
    (∃ l ∈ validLines psl false lines, host ∈ (mention l).blockedHosts) ∧
      ∀ l ∈ validLines psl false lines, host ∈ (mention l).blockedHosts →
        (isHostsLine l → Blockable psl host) ∧
          ∀ r D, AdblockRule.read l = .ok r → IsFor D r → (wildcard ∉ D → Blockable psl host) ∧
            (D = wildcard :: '.' :: host → publicSuffix? psl host ≠ some host) := by
  constructor
  · rw [canonical, List.mem_filter, blocked, List.mem_eraseDups] at hh
    exact List.mem_flatMap.1 hh.1
  intro l hl hb
  obtain ⟨hmem, hvalid⟩ := mem_validLines hl
  rcases mem_blockedHosts_iff.1 hb with ⟨r', s, hr', hs, rfl⟩ | ⟨-, hhosts, hbare, -⟩ |
    ⟨r', hcomment, hhosts, -, hr', hregex, -, hhost⟩
  · have hblockable := blockable_of_hosts hr' hvalid hs
    exact ⟨fun _ => hblockable, fun r D _ _ => ⟨fun _ => hblockable, fun _ => hblockable.2⟩⟩
  · refine ⟨fun h => absurd (hhosts.symm.trans h) Bool.false_ne_true, fun r D hr hD => ?_⟩
    obtain ⟨-, b, hpattern⟩ := hD
    have hbar : '|' ∈ r.pattern := hpattern ▸ List.mem_cons_self ..
    rw [isBareDomain_of_mem_pattern hr hbar (by decide) (by decide) (by decide)] at hbare
    cases hbare
  · refine ⟨fun h => absurd (hhosts.symm.trans h) Bool.false_ne_true, fun r D hr hD => ?_⟩
    obtain rfl := Except.ok.inj (hr'.symm.trans hr)
    obtain ⟨hchars, hflaw⟩ := of_isValid_of_blocks hvalid hr hcomment hhosts hregex
    rw [limits_eq_false (hlines l hmem r' (Line.read_eq_adblock hcomment hhosts hr))] at hflaw
    obtain ⟨hsep, b, hpattern⟩ := hD
    rw [hpattern] at hchars hflaw hhost
    refine ⟨fun hwild => blockable_of_domain hchars hflaw hsep hwild hhost, ?_⟩
    rintro rfl
    exact publicSuffix?_ne_of_wildcard hchars hflaw hhost

/-- Both hosts lines and rules are judged. -/
theorem canonical_validLines_hosts :
    Blockable .sample "a.co.uk".toList ∧ publicSuffix? .sample "b.com".toList ≠ some "b.com".toList := by
  have hlines : Unlimited ["0.0.0.0 a.co.uk".toList, "||co.uk^".toList, "||*.b.com^".toList] := by decide
  have ha := (canonical_validLines .sample hlines (show "a.co.uk".toList ∈ _ by decide)).2
    "0.0.0.0 a.co.uk".toList (by decide) (by decide)
  have hb := (canonical_validLines .sample hlines (show "b.com".toList ∈ _ by decide)).2
    "||*.b.com^".toList (by decide) (by decide)
  exact ⟨ha.1 (by decide), (hb.2 _ "*.b.com".toList rfl ⟨by decide, [], rfl⟩).2 rfl⟩

/-- Bare domains and patterns without the domain mark or without a separator are not judged, and so neither an address
nor a whole public suffix is safe from them. -/
theorem canonical_validLines_unchecked :
    let lines := ["co.uk".toList, "|co.jp^".toList, "||gov.uk".toList, "1.2.3.4".toList]
    Unlimited lines ∧
      canonical (validLines .sample false lines) =
        ["co.uk".toList, "co.jp".toList, "gov.uk".toList, "1.2.3.4".toList] ∧
      ∀ h ∈ canonical (validLines .sample false lines), ¬ Blockable .sample h := by
  decide

end Blocklist.Validity
