import Blocklist.Proofs.Output.Patterns
import Blocklist.Proofs.Rule.Kind

/-!
# The hostnames that lines name

`Blocks` lists the lines that block a hostname (`mem_blockedHosts_iff`): hosts lines, bare domains, and rules
with its pattern. `Allows` is about the exceptions that allow it (`allowedHost?_eq_some_iff`). The canonical
hostnames are those that some line blocks and none allows (`mem_canonical`). The written form of a rule for a
hostname blocks it whatever its modifiers (`names_modified`, `names_domainMark`).
-/

namespace Blocklist

/-- A list of lines none of which is an exception. -/
def ExceptionFree (lines : List Text) : Prop :=
  ∀ l ∈ lines, ∀ r, Line.read l = .ok (.adblock r) → r.exception = false

theorem exceptionFree_iff {lines : List Text} :
    ExceptionFree lines ↔ ∀ l ∈ lines, (match Line.read l with
      | .ok (.adblock r) => r.exception
      | _ => false) = false := by
  refine forall₂_congr fun l _ => ?_
  cases Line.read l with
  | error e => simp
  | ok line => cases line <;> simp

instance : DecidablePred ExceptionFree := fun _ => decidable_of_iff _ exceptionFree_iff.symm

namespace Output
open Hostname

variable {host line o p s : Text} {lines : List Text}

/-! ### Lines -/

section
variable {r : AdblockRule} (hcomment : isCommentOrBlank line = false) (hhosts : isHostsLine line = false)

theorem mention_of_hosts {r : HostsRule} (h : HostsRule.read line = .ok r) :
    mention line = .blocked (r.hostnames.map plainForm) := by
  rw [mention, isCommentOrBlank_of_isHostsLine (HostsRule.isHostsLine_of_read h),
    HostsRule.read_trim_eq_ok_iff.2 h]
  rfl

include hcomment hhosts

theorem mention_of_bare (hbare : isBareDomain line) : mention line = .blocked [plainForm line.trim] := by
  obtain ⟨e, he⟩ := HostsRule.read_error_iff.2 ((isHostsLine_trim line).trans hhosts)
  rw [mention, hcomment, he]
  simp only [isBareDomain_trim, hbare]
  rfl

theorem mention_of_rule (hbare : isBareDomain line = false) (h : AdblockRule.read line = .ok r) :
    mention line = if r.isRegex then .blocked []
      else match patternHost? r.pattern with
        | none => .blocked []
        | some host => if r.exception then .allowed host else .blocked [host] := by
  obtain ⟨e, he⟩ := HostsRule.read_error_iff.2 ((isHostsLine_trim line).trans hhosts)
  have hread := AdblockRule.read?_eq_some_iff.2 (AdblockRule.read_trim_eq_ok_iff.2 h)
  rw [mention, hcomment, he]
  simp only [isBareDomain_trim, hbare, hread]
  rfl

theorem mention_of_no_rule (hbare : isBareDomain line = false) (h : ∀ r, AdblockRule.read line ≠ .ok r) :
    mention line = .blocked [] := by
  obtain ⟨e, he⟩ := HostsRule.read_error_iff.2 ((isHostsLine_trim line).trans hhosts)
  have hread : AdblockRule.read? line.trim = none := Option.eq_none_iff_forall_ne_some.2 fun r hr =>
    h r (AdblockRule.read_trim_eq_ok_iff.1 (AdblockRule.read?_eq_some_iff.1 hr))
  rw [mention, hcomment, he]
  simp only [isBareDomain_trim, hbare, hread]
  rfl

end

/-- What a line can mention. -/
theorem mention_cases (line : Text) :
    mention line = .blocked [] ∨
      (∃ r, HostsRule.read line = .ok r ∧ mention line = .blocked (r.hostnames.map plainForm)) ∨
      isCommentOrBlank line = false ∧ isHostsLine line = false ∧
        (isBareDomain line ∧ mention line = .blocked [plainForm line.trim] ∨
          isBareDomain line = false ∧ ∃ r host, AdblockRule.read line = .ok r ∧ r.isRegex = false ∧
            patternHost? r.pattern = some host ∧
            mention line = if r.exception then .allowed host else .blocked [host]) := by
  cases hcomment : isCommentOrBlank line with
  | true =>
    left
    rw [mention, hcomment]
    rfl
  | false =>
  cases hhosts : isHostsLine line with
  | true =>
    obtain ⟨r, hr⟩ := HostsRule.isHostsLine_iff_exists_read.1 hhosts
    exact .inr (.inl ⟨r, hr, mention_of_hosts hr⟩)
  | false =>
  cases hbare : isBareDomain line with
  | true => exact .inr (.inr ⟨rfl, rfl, .inl ⟨rfl, mention_of_bare hcomment hhosts hbare⟩⟩)
  | false =>
  by_cases hread : ∃ r, AdblockRule.read line = .ok r
  · obtain ⟨r, hr⟩ := hread
    have hmention := mention_of_rule hcomment hhosts hbare hr
    cases hregex : r.isRegex with
    | true =>
      rw [hregex] at hmention
      exact .inl hmention
    | false =>
      rw [hregex] at hmention
      cases hhost : patternHost? r.pattern with
      | none =>
        rw [hhost] at hmention
        exact .inl hmention
      | some host =>
        rw [hhost] at hmention
        exact .inr (.inr ⟨rfl, rfl, .inr ⟨rfl, r, host, hr, hregex, hhost, hmention⟩⟩)
  · exact .inl (mention_of_no_rule hcomment hhosts hbare fun r hr => hread ⟨r, hr⟩)

/-- A line blocks a hostname: as a hosts line, as a bare domain, or by its pattern. -/
inductive Blocks (line host : Text) : Prop
  | hosts (r : HostsRule) (w : Text) (read : HostsRule.read line = .ok r) (mem : w ∈ r.hostnames)
      (form : plainForm w = host)
  | bare (comment : isCommentOrBlank line = false) (hosts : isHostsLine line = false)
      (bare : isBareDomain line) (form : plainForm line.trim = host)
  | pattern (r : AdblockRule) (comment : isCommentOrBlank line = false) (hosts : isHostsLine line = false)
      (bare : isBareDomain line = false) (read : AdblockRule.read line = .ok r) (plain : r.isRegex = false)
      (exception : r.exception = false) (pattern : patternHost? r.pattern = some host)

theorem mem_blockedHosts_iff : host ∈ (mention line).blockedHosts ↔ Blocks line host := by
  constructor
  · intro h
    obtain hmention | ⟨r, hr, hmention⟩ | ⟨hcomment, hhosts, ⟨hbare, hmention⟩ |
      ⟨hbare, r, host', hr, hregex, hp, hmention⟩⟩ := mention_cases line
    · rw [hmention] at h
      cases h
    · rw [hmention] at h
      obtain ⟨w, hw, hform⟩ := List.mem_map.1 h
      exact .hosts r w hr hw hform
    · rw [hmention] at h
      exact .bare hcomment hhosts hbare (List.mem_singleton.1 h).symm
    · rw [hmention] at h
      cases hexc : r.exception with
      | true =>
        rw [hexc] at h
        cases h
      | false =>
        rw [hexc] at h
        obtain rfl := List.mem_singleton.1 h
        exact .pattern r hcomment hhosts hbare hr hregex hexc hp
  · rintro (⟨r, w, hr, hw, rfl⟩ | ⟨hcomment, hhosts, hbare, rfl⟩ | ⟨r, hcomment, hhosts, hbare, hr, hregex, hexc, hp⟩)
    · rw [mention_of_hosts hr]
      exact List.mem_map_of_mem hw
    · rw [mention_of_bare hcomment hhosts hbare]
      exact List.mem_singleton_self _
    · rw [mention_of_rule hcomment hhosts hbare hr, hregex, hp, hexc]
      exact List.mem_singleton_self _

/-- A line allows a hostname: as an exception, by its pattern. -/
structure Allows (line host : Text) (r : AdblockRule) : Prop where
  comment : isCommentOrBlank line = false
  hosts : isHostsLine line = false
  bare : isBareDomain line = false
  read : AdblockRule.read line = .ok r
  plain : r.isRegex = false
  exception : r.exception
  pattern : patternHost? r.pattern = some host

theorem allowedHost?_eq_some_iff : (mention line).allowedHost? = some host ↔ ∃ r, Allows line host r := by
  constructor
  · intro h
    obtain hmention | ⟨r, hr, hmention⟩ | ⟨hcomment, hhosts, ⟨hbare, hmention⟩ |
      ⟨hbare, r, host', hr, hregex, hp, hmention⟩⟩ := mention_cases line
    · rw [hmention] at h
      cases h
    · rw [hmention] at h
      cases h
    · rw [hmention] at h
      cases h
    · rw [hmention] at h
      cases hexc : r.exception with
      | false =>
        rw [hexc] at h
        cases h
      | true =>
        rw [hexc] at h
        obtain rfl := Option.some.inj h
        exact ⟨r, hcomment, hhosts, hbare, hr, hregex, hexc, hp⟩
  · rintro ⟨r, h⟩
    rw [mention_of_rule h.comment h.hosts h.bare h.read, h.plain, h.pattern, h.exception]
    rfl

/-- Only exceptions allow a hostname. -/
theorem allowedHost?_eq_none (h : ∀ r, AdblockRule.read line = .ok r → isCommentOrBlank line = false →
    isHostsLine line = false → r.exception = false) : (mention line).allowedHost? = none := by
  refine Option.eq_none_iff_forall_ne_some.2 fun host hhost => ?_
  obtain ⟨r, hr⟩ := allowedHost?_eq_some_iff.1 hhost
  exact absurd (hr.exception.symm.trans (h r hr.read hr.comment hr.hosts)) (by decide)

theorem allowedHost?_of_exceptionFree (h : ExceptionFree lines) (hl : line ∈ lines) :
    (mention line).allowedHost? = none :=
  allowedHost?_eq_none fun r hr hcomment hhosts => h line hl r (Line.read_eq_adblock hcomment hhosts hr)

/-- A line that blocks a hostname, with no line feed in its pattern if it has one. -/
structure Names (line host : Text) : Prop where
  blocks : Blocks line host
  feed : ∀ r, AdblockRule.read line = .ok r → '\n' ∉ r.pattern

/-- A rule for a hostname with modifiers, whatever they are. -/
theorem names_modified (hp : patternHost? p = some host) (hfeed : '\n' ∉ p) (ho : Text.Protected '$' o) :
    Names (p ++ '$' :: o) host := by
  obtain ⟨c, q, rfl⟩ := List.exists_cons_of_ne_nil (pattern_ne_nil hp hfeed)
  have hblank : ∀ d ∈ c :: q, isBlank d = false := fun d hd => isBlank_of_mem_pattern hp hfeed hd
  have hhead {d : Char} (hself : lowerChar d = d) (hd : isLabelChar d = false) (hmark : d ∉ marks) : c ≠ d := by
    rintro rfl
    exact not_mem_of_patternHost? hp hfeed hself hd hmark (List.mem_cons_self ..)
  -- Blanks may be lost at the end, but they protect nothing.
  obtain ⟨b, hb, -⟩ := Text.eq_dropEndWhile_append isBlank o
  have ho' : Text.Protected '$' (Text.dropEndWhile isBlank o) := Text.Protected.of_append_left (hb ▸ ho)
  have htrim : Text.trim (c :: q ++ '$' :: o) = c :: q ++ '$' :: Text.dropEndWhile isBlank o :=
    Text.trim_append_cons (fun d hd => hblank d (List.mem_of_head? hd)) (by decide) o
  have hbare : isBareDomain (c :: q ++ '$' :: o) = false := by
    refine isBareDomain_eq_false (c := '$') ?_ (by decide) (by decide) (by decide)
    rw [htrim]
    exact List.mem_append_right _ (List.mem_cons_self ..)
  have hread : AdblockRule.read (c :: q ++ '$' :: o) =
      .ok ⟨false, c :: q, Modifier.readAll (Text.dropEndWhile isBlank o)⟩ := by
    refine AdblockRule.read_eq_ok_iff.2 ⟨List.cons_ne_nil c q, _, htrim, fun _ h => ?_, ?_⟩
    · exact hhead (by decide) (by decide) (by decide) (List.cons_prefix_cons.1 h).1.symm
    · refine AdblockRule.readBody_of_cut (p := c :: q) ?_ ?_ ho'
      · have hslash : c ≠ '/' := fun hc => head_ne_slash hp hfeed (congrArg some hc)
        simp [AdblockRule.isRegexPattern, hslash]
      · exact Text.escapes_of_not_mem (not_mem_of_patternHost? hp hfeed (by decide) (by decide) (by decide))
  refine ⟨.pattern _ ?_ ?_ hbare hread ?_ rfl hp, fun r hr => Except.ok.inj (hread.symm.trans hr) ▸ hfeed⟩
  · exact isCommentOrBlank_eq_false htrim (hhead (by decide) (by decide) (by decide))
      (hhead (by decide) (by decide) (by decide))
  · exact isHostsLine_eq_false (c := '$') htrim hblank (by decide) (by decide) (by decide) (by decide)
  · exact AdblockRule.isRegexPattern_eq_false (head_ne_slash hp hfeed)

/-- A rule for a hostname without modifiers that starts with the domain mark. -/
theorem names_domainMark (hp : patternHost? (domainMark ++ s) = some host) (hfeed : '\n' ∉ domainMark ++ s) :
    Names (domainMark ++ s) host := by
  have htrim : (domainMark ++ s).trim = domainMark ++ s :=
    Text.trim_eq_self_iff.2 (Text.trimmed_word fun d hd => isBlank_of_mem_pattern hp hfeed hd)
  have hbar : '|' ∈ (domainMark ++ s).trim := by
    rw [htrim]
    exact List.mem_cons_self ..
  have hdollar : '$' ∉ domainMark ++ s := not_mem_of_patternHost? hp hfeed (by decide) (by decide) (by decide)
  have hread : AdblockRule.read (domainMark ++ s) = .ok ⟨false, domainMark ++ s, []⟩ := by
    refine AdblockRule.read_eq_ok_iff.2 ⟨pattern_ne_nil hp hfeed, _, htrim, fun _ h => ?_, ?_⟩
    · exact absurd (List.cons_prefix_cons.1 h).1 (by decide)
    · exact AdblockRule.readBody_of_protected (Text.protected_of_not_mem hdollar)
  have hregex := AdblockRule.isRegexPattern_eq_false (head_ne_slash hp hfeed)
  refine ⟨.pattern _ ?_ ?_ ?_ hread hregex rfl hp, fun r hr => Except.ok.inj (hread.symm.trans hr) ▸ hfeed⟩
  · exact isCommentOrBlank_eq_false htrim (by decide) (by decide)
  · exact isHostsLine_eq_false (p := []) htrim (by simp) (by decide) (by decide) (by decide) (by decide)
  · exact isBareDomain_eq_false hbar (by decide) (by decide) (by decide)

/-- What starts with the domain mark is no exception. -/
theorem allowedHost?_domainMark (s : Text) : (mention (domainMark ++ s)).allowedHost? = none := by
  refine allowedHost?_eq_none fun r hr _ _ => ?_
  obtain ⟨-, body, hbody, -⟩ := AdblockRule.read_eq_ok_iff.1 hr
  rw [domainMark, List.cons_append, Text.trim_cons_of_not_blank (by decide)] at hbody
  cases hexc : r.exception with
  | false => rfl
  | true =>
    rw [hexc, AdblockRule.mark_true] at hbody
    exact absurd (List.cons.inj hbody).1 (by decide)

/-- What a line without line feeds blocks has none. -/
theorem Blocks.feed_not_mem (h : Blocks line host) (hfeed : '\n' ∉ line) : '\n' ∉ host := by
  have hform {s : Text} (hs : '\n' ∉ s) : '\n' ∉ plainForm s := by
    intro hmem
    obtain ⟨b, hb, -⟩ := Text.eq_dropEndWhile_append (· = '.') s.lower
    refine hs (Text.mem_of_mem_lower ?_ (by decide) (by decide))
    rw [hb]
    exact List.mem_append_left b hmem
  rcases h with ⟨r, w, hr, hw, rfl⟩ | ⟨-, -, -, rfl⟩ | ⟨r, -, -, -, hr, -, -, hp⟩
  · refine hform fun hmem => ?_
    have hword := ((HostsRule.proper_of_read hr).words w (List.mem_cons_of_mem _ hw)).2 _ hmem
    exact absurd hword.1 (by decide)
  · exact hform fun hmem => hfeed (Text.mem_of_mem_trim hmem)
  · exact feed_not_mem_host hp fun hmem => hfeed (AdblockRule.mem_of_mem_pattern hr hmem)

/-! ### Lists -/

theorem mem_canonical :
    host ∈ canonical lines ↔
      (∃ l ∈ lines, Blocks l host) ∧ ∀ l ∈ lines, (mention l).allowedHost? ≠ some host := by
  rw [canonical, List.mem_filter, blocked, List.mem_eraseDups, List.mem_flatMap, decide_eq_true_eq, allowed,
    List.mem_eraseDups, List.mem_filterMap]
  simp only [mem_blockedHosts_iff, not_exists, not_and, ne_eq]

theorem mem_canonical_iff (h : ∀ l ∈ lines, (mention l).allowedHost? = none) :
    host ∈ canonical lines ↔ ∃ l ∈ lines, Blocks l host := by
  refine mem_canonical.trans (and_iff_left fun l hl hhost => ?_)
  rw [h l hl] at hhost
  cases hhost

end Output

end Blocklist
