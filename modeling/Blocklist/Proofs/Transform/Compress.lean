import Blocklist.Proofs.Output.Hostnames
import Blocklist.Transform.Compress

/-!
# What a compressed list blocks

`blocks_plain`: a rule for a whole hostname blocks it, with the dot at its end or without it. Every line
that blocks a hostname gives an entry for it (`exists_entry`), and the text of an entry blocks the hostname
of the entry (`blocks_text`). Compressing keeps an entry for each hostname or for one of its ancestors, and
so what a list blocks stays blocked (`compress_covers`), but for hostnames that a top-level label covers.
-/

namespace Blocklist
open Hostname Output

variable {d h l p q s w : Text} {lines : List Text}

/-! ### Rules for a whole hostname -/

namespace AdblockRule

theorem exists_of_anchoredName? {name : Text} (h : anchoredName? p = some name) :
    name ≠ [] ∧ (∀ c ∈ name, isAnchoredChar c) ∧ ∃ m k, p = domainMark ++ (name ++ (m ++ k)) ∧
      (m = [] ∨ m = [separator]) ∧ (k = [] ∨ k = ['\n']) := by
  rw [anchoredName?] at h
  split at h
  · cases h
  rename_i s hs
  obtain rfl := Text.dropPrefix?_eq_some_iff.1 hs
  obtain ⟨m, hm, hrest⟩ := Text.eq_append_removePrefix [separator] (s.dropWhile isAnchoredChar)
  obtain ⟨k, hk, htail⟩ := Text.eq_removeSuffix_append ['\n']
    (Text.removePrefix [separator] (s.dropWhile isAnchoredChar))
  dsimp only at h
  split at h
  · rename_i hif
    obtain rfl := Option.some.inj h
    obtain ⟨hne, htail'⟩ := Bool.and_eq_true_iff.1 hif
    have htail' := of_decide_eq_true htail'
    rw [Text.dropLineFeed] at htail'
    rw [htail', List.nil_append] at htail
    refine ⟨of_decide_eq_true hne, List.all_eq_true.1 List.all_takeWhile, m, k, ?_, hm, hk⟩
    rw [← htail, ← hrest, List.takeWhile_append_dropWhile]
  · cases h

theorem eq_of_anchoredName? {name : Text} (h : anchoredName? p = some name) (hfeed : '\n' ∉ p) :
    name ≠ [] ∧ (∀ c ∈ name, isAnchoredChar c) ∧ ∃ m, p = domainMark ++ (name ++ m) ∧ (m = [] ∨ m = [separator]) := by
  obtain ⟨hne, hname, m, k, rfl, hm, rfl | rfl⟩ := exists_of_anchoredName? h
  · exact ⟨hne, hname, m, by rw [List.append_nil], hm⟩
  · exact absurd (by simp) hfeed

end AdblockRule

namespace Transform

theorem eq_of_plainHost? {r : AdblockRule} (h : plainHost? r = some w) (hfeed : '\n' ∉ r.pattern) :
    r.exception = false ∧ r.modifiers = [] ∧ ∃ name m, r.pattern = domainMark ++ (name ++ m) ∧
      (m = [] ∨ m = [separator]) ∧ name ≠ [] ∧ (∀ c ∈ name, AdblockRule.isAnchoredChar c) ∧ name.lower = w := by
  rw [plainHost?] at h
  split at h
  · cases h
  rename_i hif
  rw [Bool.or_eq_true, decide_eq_true_eq, not_or, Bool.not_eq_true, not_not] at hif
  obtain ⟨name, hname, hlower⟩ := Option.map_eq_some_iff.1 h
  obtain ⟨hne, hchars, m, hp, hm⟩ := AdblockRule.eq_of_anchoredName? hname hfeed
  exact ⟨hif.1, hif.2, name, m, hp, hm, hne, hchars, hlower⟩

section
variable {r : AdblockRule} (hplain : plainHost? r = some w) (hfeed : '\n' ∉ r.pattern)
include hplain hfeed

theorem isBareDomain_of_plain (hr : AdblockRule.read l = .ok r) : isBareDomain l = false := by
  obtain ⟨-, -, name, m, hpattern, -⟩ := eq_of_plainHost? hplain hfeed
  have hbar : '|' ∈ r.pattern := hpattern ▸ List.mem_cons_self ..
  exact isBareDomain_of_mem_pattern hr hbar (by decide) (by decide) (by decide)

/-- The hostname of a plain rule is the one that its pattern names, or has one more dot at the end. -/
theorem eq_append_of_plain (hp : patternHost? r.pattern = some h) : ∃ d, (d = [] ∨ d = ['.']) ∧ w = h ++ d := by
  obtain ⟨-, -, name, m, hpattern, hm, -, hchars, rfl⟩ := eq_of_plainHost? hplain hfeed
  have hmarks : ∀ c ∈ name, c ∉ ['|', '*', ':', '^'] := by
    have hnone : ∀ c ∈ ['|', '*', ':', '^'], AdblockRule.isAnchoredChar c = false :=
      forall_mem_of_all (by decide)
    intro c hc hmem
    have hanchored := hchars c hc
    rw [hnone c hmem] at hanchored
    cases hanchored
  have hhost := (patternHost?_eq_some_iff.1 hp).1
  rw [hpattern, nameIn_domainMark hmarks hm, Text.lower_removeSuffix_dot] at hhost
  obtain ⟨d, hd, hname⟩ := Text.eq_removeSuffix_append ['.'] name.lower
  rw [hhost] at hname
  exact ⟨d, hd, hname⟩

end

theorem removeSuffix_dot_append (hq : isValid q) (hd : d = [] ∨ d = ['.']) :
    Text.removeSuffix ['.'] (q ++ d) = q := by
  rcases hd with rfl | rfl
  · rw [List.append_nil, removeSuffix_dot_of_isValid hq]
  · exact Text.removeSuffix_append ..

section
variable (hq : isValid q) (hdot : '.' ∈ q) (hd : d = [] ∨ d = ['.'])
include hq hdot hd

/-- A line that is a rule for a whole hostname blocks it. -/
theorem blocks_plain {r : AdblockRule} (hcomment : isCommentOrBlank l = false) (hhosts : isHostsLine l = false)
    (hr : AdblockRule.read l = .ok r) (hplain : plainHost? r = some (q ++ d)) (hl : '\n' ∉ l) : Blocks l q := by
  have hp : '\n' ∉ r.pattern := fun hmem => hl (AdblockRule.mem_of_mem_pattern hr hmem)
  obtain ⟨hexc, -, name, m, hpattern, hm, -, -, hlower⟩ := eq_of_plainHost? hplain hp
  have hhost : patternHost? r.pattern = some q := by
    rw [hpattern]
    refine patternHost?_domainMark ?_ hq hdot hm
    rw [Text.lower_removeSuffix_dot, hlower, removeSuffix_dot_append hq hd]
  have hbare := isBareDomain_of_plain hplain hp hr
  exact .pattern r hcomment hhosts hbare hr
    (AdblockRule.isRegexPattern_eq_false (head_ne_slash hhost hp)) hexc hhost

/-- The rule that is written for a hostname blocks it. -/
theorem blocks_ofHost (hw : w.lower = q ++ d) (hl : '\n' ∉ w) : Blocks (Entry.ofHost w.lower).text q := by
  have hlower : (Text.removeSuffix ['.'] w.lower).lower = q := by
    have hname : (Text.removeSuffix ['.'] w).lower = q := by
      rw [Text.lower_removeSuffix_dot, hw, removeSuffix_dot_append hq hd]
    rw [← Text.lower_removeSuffix_dot, Text.lower_lower, hname]
  have hp := patternHost?_domainMark hlower hq hdot (.inr rfl)
  have htext : (Entry.ofHost w.lower).text = domainMark ++ (w.lower ++ [separator]) := List.append_assoc ..
  rw [htext]
  refine (names_domainMark hp ?_).blocks
  simp only [List.mem_append, not_or]
  exact ⟨by decide, fun hmem => hl (Text.mem_of_mem_lower hmem (by decide) (by decide)), by decide⟩

end

/-! ### Entries -/

theorem entries_of_hosts {r : HostsRule} (hr : HostsRule.read l = .ok r) :
    entries l = r.hostnames.map fun h => .ofHost h.lower := by
  rw [entries, hr]

section
variable (hhosts : isHostsLine l = false)
include hhosts

theorem entries_of_bare (hbare : isBareDomain l) :
    entries l = [.ofHost (Text.dropEndWhile (· = '.') l.trim).lower] := by
  obtain ⟨e, he⟩ := HostsRule.read_error_iff.2 hhosts
  rw [entries, he]
  exact if_pos hbare

theorem entries_of_comment (hbare : isBareDomain l = false) (hcomment : isCommentOrBlank l) :
    entries l = [.other l] := by
  obtain ⟨e, he⟩ := HostsRule.read_error_iff.2 hhosts
  rw [entries, he]
  simp only [hbare, hcomment]
  rfl

theorem entries_of_rule (hbare : isBareDomain l = false) (hcomment : isCommentOrBlank l = false) :
    entries l = match (AdblockRule.read? l).bind plainHost? with
      | some host => [.rule l host]
      | none => [.other l] := by
  obtain ⟨e, he⟩ := HostsRule.read_error_iff.2 hhosts
  rw [entries, he]
  simp only [hbare, hcomment]
  rfl

end

/-- An entry is a new rule for a hostname, or it is the line. -/
theorem mem_entries {e : Entry} (he : e ∈ entries l) (hl : '\n' ∉ l) :
    (∃ v : Text, v ≠ [] ∧ '\n' ∉ v ∧ e = .ofHost v.lower) ∨ e = .other l ∨
      ∃ r w, isCommentOrBlank l = false ∧ isHostsLine l = false ∧ AdblockRule.read l = .ok r ∧
        plainHost? r = some w ∧ e = .rule l w := by
  cases hhosts : isHostsLine l with
  | true =>
    obtain ⟨r, hr⟩ := HostsRule.isHostsLine_iff_exists_read.1 hhosts
    rw [entries_of_hosts hr] at he
    obtain ⟨v, hv, rfl⟩ := List.mem_map.1 he
    obtain ⟨hne, hword⟩ := (HostsRule.proper_of_read hr).words v (List.mem_cons_of_mem _ hv)
    exact .inl ⟨v, hne, fun hmem => absurd (hword _ hmem).1 (by decide), rfl⟩
  | false =>
  cases hbare : isBareDomain l with
  | true =>
    rw [entries_of_bare hhosts hbare, List.mem_singleton] at he
    refine .inl ⟨_, ?_, ?_, he⟩
    · intro hnil
      rw [isBareDomain, hnil] at hbare
      exact absurd (Bool.and_eq_true_iff.1 hbare).2 (by decide)
    · intro hmem
      obtain ⟨b, hb, -⟩ := Text.eq_dropEndWhile_append (· = '.') l.trim
      exact hl (Text.mem_of_mem_trim (hb ▸ List.mem_append_left b hmem))
  | false =>
  cases hcomment : isCommentOrBlank l with
  | true =>
    rw [entries_of_comment hhosts hbare hcomment] at he
    exact .inr (.inl (List.mem_singleton.1 he))
  | false =>
    rw [entries_of_rule hhosts hbare hcomment] at he
    split at he
    · rename_i w hw
      obtain ⟨r, hr, hplain⟩ := Option.bind_eq_some_iff.1 hw
      exact .inr (.inr ⟨r, w, rfl, rfl, AdblockRule.read?_eq_some_iff.1 hr, hplain, List.mem_singleton.1 he⟩)
    · exact .inr (.inl (List.mem_singleton.1 he))

theorem allowedHost?_text {e : Entry} (he : e ∈ entries l) (hl : '\n' ∉ l)
    (hallowed : (mention l).allowedHost? = none) : (mention e.text).allowedHost? = none := by
  obtain ⟨v, -, -, rfl⟩ | rfl | ⟨r, w, -, -, -, -, rfl⟩ := mem_entries he hl
  · rw [Entry.ofHost, Entry.text, List.append_assoc]
    exact allowedHost?_domainMark _
  · exact hallowed
  · exact hallowed

theorem plainHost_ne_nil {r : AdblockRule} (hr : AdblockRule.read l = .ok r) (hplain : plainHost? r = some w)
    (hl : '\n' ∉ l) : w ≠ [] := by
  have hp : '\n' ∉ r.pattern := fun hmem => hl (AdblockRule.mem_of_mem_pattern hr hmem)
  obtain ⟨-, -, name, m, -, -, hne, -, rfl⟩ := eq_of_plainHost? hplain hp
  exact mt Text.lower_eq_nil_iff.1 hne

theorem host_ne_nil {e : Entry} (he : e ∈ entries l) (hl : '\n' ∉ l) : e.host? ≠ some [] := by
  obtain ⟨v, hne, -, rfl⟩ | rfl | ⟨r, w, -, -, hr, hplain, rfl⟩ := mem_entries he hl
  · exact fun h => hne (Text.lower_eq_nil_iff.1 (Option.some.inj h))
  · exact fun h => by cases h
  · exact fun h => plainHost_ne_nil hr hplain hl (Option.some.inj h)

/-- The text of an entry blocks the hostname of the entry. -/
theorem blocks_text {e : Entry} (he : e ∈ entries l) (hl : '\n' ∉ l) (hhost : e.host? = some (q ++ d))
    (hq : isValid q) (hdot : '.' ∈ q) (hd : d = [] ∨ d = ['.']) : Blocks e.text q := by
  obtain ⟨v, -, hv, rfl⟩ | rfl | ⟨r, w, hcomment, hhosts, hr, hplain, rfl⟩ := mem_entries he hl
  · exact blocks_ofHost hq hdot hd (Option.some.inj hhost) hv
  · cases hhost
  · obtain rfl := Option.some.inj hhost
    exact blocks_plain hq hdot hd hcomment hhosts hr hplain hl

/-- A line that blocks a hostname passes through, or gives an entry for the hostname. -/
theorem exists_entry (hb : Blocks l h) (hl : '\n' ∉ l)
    (hdots : ∀ e ∈ entries l, ∀ w ∈ e.host?, Text.dropEndWhile (· = '.') w = h → w.length ≤ h.length + 1) :
    .other l ∈ entries l ∨ ∃ e ∈ entries l, ∃ d, (d = [] ∨ d = ['.']) ∧ e.host? = some (h ++ d) := by
  rcases hb with ⟨r, w, hr, hw, hform⟩ | ⟨hcomment, hhosts, hbare, hform⟩ |
    ⟨r, hcomment, hhosts, hbare, hr, hregex, hexc, hp⟩
  · have he : Entry.ofHost w.lower ∈ entries l := by
      rw [entries_of_hosts hr]
      exact List.mem_map_of_mem hw
    obtain ⟨b, hb, hall⟩ := Text.eq_dropEndWhile_append (· = '.') w.lower
    have hform : Text.dropEndWhile (· = '.') w.lower = h := hform
    rw [hform] at hb
    have hlength : w.lower.length ≤ h.length + 1 := hdots _ he w.lower rfl hform
    rw [hb, List.length_append] at hlength
    refine .inr ⟨_, he, b, ?_, congrArg some hb⟩
    match b with
    | [] => exact .inl rfl
    | [c] => exact .inr (congrArg (fun c => [c]) (of_decide_eq_true (hall c (List.mem_singleton_self c))))
    | _ :: _ :: _ =>
      simp only [List.length_cons] at hlength
      omega
  · have hname : (Text.dropEndWhile (· = '.') l.trim).lower = h := by
      rw [Text.lower_dropEndWhile_dot, ← hform]
      rfl
    rw [entries_of_bare hhosts hbare]
    refine .inr ⟨_, List.mem_singleton_self _, [], .inl rfl, ?_⟩
    rw [List.append_nil]
    exact congrArg some hname
  · have hentries := entries_of_rule hhosts hbare hcomment
    rw [AdblockRule.read?_eq_some_iff.2 hr, Option.bind_some] at hentries
    rw [hentries]
    cases hplain : plainHost? r with
    | none => exact .inl (List.mem_singleton_self _)
    | some w =>
      have hfeed : '\n' ∉ r.pattern := fun hmem => hl (AdblockRule.mem_of_mem_pattern hr hmem)
      obtain ⟨d, hd, rfl⟩ := eq_append_of_plain hplain hfeed hp
      exact .inr ⟨_, List.mem_singleton_self _, d, hd, rfl⟩

/-! ### The first entry of each hostname -/

section
variable {e : Entry} {es : List Entry} {seen : List Text}

theorem firstPerHost_cons : firstPerHost seen (e :: es) =
    match e.host? with
    | none => e :: firstPerHost seen es
    | some h => if h ∈ seen then firstPerHost seen es else e :: firstPerHost (h :: seen) es :=
  rfl

theorem mem_of_mem_firstPerHost (h : e ∈ firstPerHost seen es) : e ∈ es := by
  induction es generalizing seen with
  | nil => exact h
  | cons e' es ih =>
    rw [firstPerHost_cons] at h
    split at h
    · exact (List.mem_cons.1 h).elim (· ▸ List.mem_cons_self ..) fun h => List.mem_cons_of_mem _ (ih h)
    · split at h
      · exact List.mem_cons_of_mem _ (ih h)
      · exact (List.mem_cons.1 h).elim (· ▸ List.mem_cons_self ..) fun h => List.mem_cons_of_mem _ (ih h)

theorem mem_firstPerHost_of_host_none (h : e ∈ es) (hhost : e.host? = none) : e ∈ firstPerHost seen es := by
  induction es generalizing seen with
  | nil => cases h
  | cons e' es ih =>
    rw [firstPerHost_cons]
    rcases List.mem_cons.1 h with rfl | h
    · rw [hhost]
      exact List.mem_cons_self ..
    · split
      · exact List.mem_cons_of_mem _ (ih h)
      · split
        · exact ih h
        · exact List.mem_cons_of_mem _ (ih h)

/-- Every hostname keeps an entry, unless it was seen further up. -/
theorem exists_mem_firstPerHost (h : e ∈ es) (hhost : e.host? = some w) (hw : w ∉ seen) :
    ∃ k ∈ firstPerHost seen es, k.host? = some w := by
  induction es generalizing seen with
  | nil => cases h
  | cons e' es ih =>
    rw [firstPerHost_cons]
    by_cases he' : e'.host? = some w
    · rw [he']
      simp only [hw, if_false]
      exact ⟨e', List.mem_cons_self .., he'⟩
    · have h : e ∈ es := (List.mem_cons.1 h).resolve_left fun heq => he' (heq ▸ hhost)
      split
      · obtain ⟨k, hk, hkw⟩ := ih h hw
        exact ⟨k, List.mem_cons_of_mem _ hk, hkw⟩
      · rename_i v hv
        split
        · exact ih h hw
        · have hvw : w ∉ v :: seen := by
            rw [List.mem_cons, not_or]
            exact ⟨fun heq => he' (heq ▸ hv), hw⟩
          obtain ⟨k, hk, hkw⟩ := ih h hvw
          exact ⟨k, List.mem_cons_of_mem _ hk, hkw⟩

theorem isCovered_iff {hosts : List Text} (hhost : e.host? = some w) :
    e.isCovered hosts ↔ ∃ p ∈ hosts, '.' :: p <:+ w := by
  rw [Entry.isCovered, hhost, List.any_eq_true]
  constructor
  · rintro ⟨p, hp, hif⟩
    rw [Bool.and_eq_true, List.elem_eq_mem, decide_eq_true_eq] at hif
    have hne : p ≠ w := by simpa using hif.1
    exact ⟨p, hif.2, (mem_withAncestors_iff.1 hp).2.resolve_left hne⟩
  · rintro ⟨p, hp, hancestor⟩
    have hlength := length_lt_of_ancestor hancestor
    refine ⟨p, mem_withAncestors_iff.2 ⟨?_, .inr hancestor⟩, ?_⟩
    · rintro rfl
      exact Nat.not_lt_zero _ hlength
    · rw [Bool.and_eq_true, List.elem_eq_mem, decide_eq_true_eq]
      refine ⟨?_, hp⟩
      rw [bne_iff_ne]
      rintro rfl
      exact Nat.lt_irrefl _ hlength

end

/-! ### Compressed lists -/

/-- The hostnames that a list is compressed by. -/
def hostsOf (lines : List Text) : List Text := (lines.flatMap entries).filterMap Entry.host?

theorem mem_hostsOf_iff : w ∈ hostsOf lines ↔ ∃ l ∈ lines, ∃ e ∈ entries l, e.host? = some w := by
  simp only [hostsOf, List.mem_filterMap, List.mem_flatMap]
  constructor
  · rintro ⟨e, ⟨l, hl, he⟩, hw⟩
    exact ⟨l, hl, e, he, hw⟩
  · rintro ⟨l, hl, e, he, hw⟩
    exact ⟨e, ⟨l, hl, he⟩, hw⟩

theorem mem_compress_of_other (hl : l ∈ lines) (h : .other l ∈ entries l) : l ∈ compress lines := by
  have hkept : .other l ∈ firstPerHost [] (lines.flatMap entries) :=
    mem_firstPerHost_of_host_none (List.mem_flatMap.2 ⟨l, hl, h⟩) rfl
  exact List.mem_map.2 ⟨_, List.mem_filter.2 ⟨hkept, rfl⟩, rfl⟩

/-- The lines of a compressed list are texts of entries. -/
theorem exists_entry_of_mem_compress (h : l ∈ compress lines) : ∃ k ∈ lines, ∃ e ∈ entries k, e.text = l := by
  obtain ⟨e, he, htext⟩ := List.mem_map.1 h
  obtain ⟨k, hk, he⟩ := List.mem_flatMap.1 (mem_of_mem_firstPerHost (List.mem_filter.1 he).1)
  exact ⟨k, hk, e, he, htext⟩

/-- A hostname of a list has an entry in the compressed list, or one of its ancestors has. -/
theorem exists_mem_compress_or_ancestor (hw : w ∈ hostsOf lines) :
    (∃ k ∈ lines, ∃ e ∈ entries k, e.host? = some w ∧ e.text ∈ compress lines) ∨
      ∃ p ∈ hostsOf lines, '.' :: p <:+ w := by
  obtain ⟨e, he, hew⟩ := List.mem_filterMap.1 hw
  obtain ⟨k, hk, hkw⟩ := exists_mem_firstPerHost he hew List.not_mem_nil
  have hmem := mem_of_mem_firstPerHost hk
  cases hcovered : k.isCovered ((firstPerHost [] (lines.flatMap entries)).filterMap Entry.host?) with
  | true =>
    obtain ⟨p, hp, hancestor⟩ := (isCovered_iff hkw).1 hcovered
    obtain ⟨e', he', hp⟩ := List.mem_filterMap.1 hp
    exact .inr ⟨p, List.mem_filterMap.2 ⟨e', mem_of_mem_firstPerHost he', hp⟩, hancestor⟩
  | false =>
    obtain ⟨l, hl, hkl⟩ := List.mem_flatMap.1 hmem
    refine .inl ⟨l, hl, k, hkl, hkw, List.mem_map_of_mem (List.mem_filter.2 ⟨hk, ?_⟩)⟩
    rw [hcovered]
    rfl

/-- What a list without exceptions blocks is blocked by the compressed list, itself or by one of its
ancestors. Hostnames are as they are written in rules: with a dot in them, at most one dot at the end, and
not below a rule for their last label alone. -/
theorem compress_covers (hexc : ExceptionFree lines) (hfeed : ∀ l ∈ lines, '\n' ∉ l) (hh : h ∈ canonical lines)
    (hvalid : isValid h) (hdot : '.' ∈ h)
    (hdots : ∀ w ∈ hostsOf lines, Text.dropEndWhile (· = '.') w = h → w.length ≤ h.length + 1)
    (htop : ∀ d ∈ ([[], ['.']] : List Text), h ++ d ∈ hostsOf lines →
      ∀ t, '.' ∉ t → '.' :: t <:+ h → t ++ d ∉ hostsOf lines) :
    ∃ p ∈ canonical (compress lines), Covers p h := by
  have hallowed : ∀ l ∈ compress lines, (mention l).allowedHost? = none := by
    intro l hl
    obtain ⟨k, hk, e, he, rfl⟩ := exists_entry_of_mem_compress hl
    exact allowedHost?_text he (hfeed k hk) (allowedHost?_of_exceptionFree hexc hk)
  obtain ⟨l, hl, hblocks⟩ := (mem_canonical_iff fun k hk => allowedHost?_of_exceptionFree hexc hk).1 hh
  have hhfeed := hblocks.feed_not_mem (hfeed l hl)
  rcases exists_entry hblocks (hfeed l hl) fun e he w hw =>
    hdots w (mem_hostsOf_iff.2 ⟨l, hl, e, he, hw⟩) with hother | ⟨e, he, d, hd, hhost⟩
  · exact ⟨h, (mem_canonical_iff hallowed).2 ⟨l, mem_compress_of_other hl hother, hblocks⟩, .refl h⟩
  have hstart : h ++ d ∈ hostsOf lines := mem_hostsOf_iff.2 ⟨l, hl, e, he, hhost⟩
  obtain ⟨q, hqdot, hq, k, hk, e, he, hhost, htext⟩ :=
    exists_kept hdot hstart (fun w hw => exists_mem_compress_or_ancestor hw) fun q p _ hq _ hp hancestor => by
      rcases ancestor_append hd hancestor with rfl | ⟨t, rfl, ht⟩
      · obtain ⟨k, hk, e, he, hnil⟩ := mem_hostsOf_iff.1 hp
        exact absurd hnil (host_ne_nil he (hfeed k hk))
      · -- A rule for a single label names no hostname, and so it must not be where the way up ends.
        refine ⟨t, rfl, by_contra fun htdot => ?_, ht⟩
        exact htop d (by simpa using hd) hstart t htdot (Covers.ancestor ht hq) hp
  have hqvalid : isValid q := hq.elim (· ▸ hvalid) (isValid_of_ancestor hvalid)
  have hblocks := blocks_text he (hfeed k hk) hhost hqvalid hqdot hd
  exact ⟨q, (mem_canonical_iff hallowed).2 ⟨_, htext, hblocks⟩, hq⟩

/-- The rule for `a.com` covers the second hostname of the list. -/
theorem compress_covers_ancestor :
    ∃ p ∈ canonical (compress ["||a.com^".toList, "0.0.0.0 b.a.com".toList]), Covers p "b.a.com".toList := by
  have htop : ∀ d ∈ ([[], ['.']] : List Text), ∀ t ∈ afterDots "b.a.com".toList, '.' ∉ t →
      t ++ d ∉ hostsOf ["||a.com^".toList, "0.0.0.0 b.a.com".toList] := by decide
  exact compress_covers (by decide) (by decide) (by decide) (by decide) (by decide) (by decide)
    fun d hd _ t htdot ht => htop d hd t (mem_afterDots_iff.2 ht) htdot

/-- Other hostnames are lost: one label, a character of no hostname, a rule for the last label, one for it with
a dot at its end, two dots at the end, a line feed at the end of the pattern that comes first. -/
theorem compress_loses :
    let lines := ["0.0.0.0 localhost".toList, "0.0.0.0 a_b.com".toList, "||net^".toList, "||a.net^".toList,
      "||org.^".toList, "||b.org.^".toList, "0.0.0.0 c.com..".toList, "||d.com^\n$".toList, "d.com".toList]
    ExceptionFree lines ∧
      canonical lines = ["localhost".toList, "a_b.com".toList, "a.net".toList, "b.org".toList, "c.com".toList,
        "d.com".toList] ∧
      canonical (compress lines) = [] := by
  decide

end Transform

end Blocklist
