import Blocklist.Proofs.Optimize.Merging
import Blocklist.Proofs.Transform.Cover

/-!
# Groups of rules

What merging makes of a list. A large group leaves one line, in the place of its first member (`IsUnmerged`), and that
line is a rule which `StandsFor` the group: it has what the members share, and where they are found, the domains of
all of them. Domains are looked for by the first domain modifier, and a negated one counts as such: a member with a
negated one in front loses its domains, or has none to be found, and then nothing is merged at all
(`mergeRules_groups`, `mergeRules_negated`).
-/

namespace Blocklist.Optimize
open AdblockRule Transform

variable {k l : Text} {key : MergeKey} {lines all out : List Text} {r g : AdblockRule} {seen seen' : List MergeKey}
  {threshold : Int} {n : Nat}

/-! ### Domains -/

/-- The domains that a rule lists. -/
def listedDomains (r : AdblockRule) : List Text :=
  (r.modifiers.filter listsDomains).flatMap fun m => (m.value.getD []).splitOn '|'

/-- The first domain modifier, negated ones included, lists domains. -/
def FindsListed (r : AdblockRule) : Prop := ∃ m, r.findModifier? domainModifier = some m ∧ listsDomains m

/-- The domains of a group, without repeats and in the order in which they are met. -/
def unitedDomains (key : MergeKey) (lines : List Text) : List Text :=
  ((membersOf key lines).flatMap listedDomains).eraseDups

theorem exists_listed (hkey : mergeKey? r = some key) :
    ∃ m v, r.modifiers.filter listsDomains = [m] ∧ m.name = domainModifier ∧ m.value = some v := by
  rw [mergeKey?] at hkey
  split at hkey
  · rename_i hone
    obtain ⟨m, hm⟩ := List.length_eq_one_iff.1 hone
    have hlists : listsDomains m := (List.mem_filter.1 (hm ▸ List.mem_singleton_self m)).2
    obtain ⟨hname, hvalue⟩ := Bool.and_eq_true_iff.1 hlists
    obtain ⟨v, hv, -⟩ := (Option.any_eq_true _ _).1 hvalue
    exact ⟨m, v, hm, of_decide_eq_true hname, hv⟩
  · cases hkey

theorem others_of_mergeKey? (hkey : mergeKey? r = some key) :
    key.others = r.modifiers.filter (·.name ≠ domainModifier) := by
  rw [mergeKey?] at hkey
  split at hkey
  · exact congrArg MergeKey.others (Option.some.inj hkey).symm
  · cases hkey

theorem domainsOf_of_findsListed (hkey : mergeKey? r = some key) (hfinds : FindsListed r) :
    domainsOf r = .ok (listedDomains r) := by
  obtain ⟨m, v, hm, -, hv⟩ := exists_listed hkey
  obtain ⟨m', hfound, hlists⟩ := hfinds
  have hmem : m' ∈ r.modifiers.filter listsDomains := List.mem_filter.2 ⟨List.mem_of_find?_eq_some hfound, hlists⟩
  rw [hm, List.mem_singleton] at hmem
  subst hmem
  rw [domainsOf, hfound, Option.bind_some, hv, listedDomains, hm, List.flatMap_singleton, hv]
  rfl

theorem mergeKey?_of_mem_membersOf (hr : r ∈ membersOf key lines) : mergeKey? r = some key := by
  obtain ⟨l, -, hl⟩ := exists_line_of_mem_membersOf hr
  exact (mergeable?_eq_some_iff.1 hl).2

theorem mem_membersOf (hl : l ∈ lines) (hm : mergeable? l = some (key, r)) : r ∈ membersOf key lines :=
  List.mem_filterMap.2 ⟨(key, r), List.mem_filterMap.2 ⟨l, hl, hm⟩, if_pos rfl⟩

/-! ### The rule of a group -/

/-- The rule `g` stands for a group in which `r` is the first. -/
structure StandsFor (key : MergeKey) (lines : List Text) (r g : AdblockRule) : Prop where
  exception : g.exception = key.exception
  pattern : g.pattern = key.pattern
  others : g.modifiers.filter (·.name ≠ domainModifier) = key.others
  domains : (∀ r' ∈ membersOf key lines, FindsListed r') → ∃ v, v.splitOn '|' = unitedDomains key lines ∧
    g.modifiers.filter (·.name = domainModifier) =
      List.replicate (r.modifiers.countP (·.name = domainModifier)) ⟨domainModifier, some v⟩
  read : ruleOf? g.text = some g ↔
    (∀ m ∈ g.modifiers, ∀ v ∈ m.value, v.Trimmed) ∧ Line.Restorable (.adblock g)

/-- What is asked of the names alone is asked of the modifiers of the rule before. -/
theorem filter_mergedRule (r : AdblockRule) (domains : List Text) (q : Text → Bool) :
    (mergedRule r domains).modifiers.filter (fun m => q m.name) =
      (r.modifiers.filter fun m => q m.name).map fun m =>
        if m.name = domainModifier then ⟨domainModifier, some (Text.join ['|'] domains.eraseDups)⟩ else m := by
  rw [mergedRule, List.filter_map]
  refine congrArg (List.map _) (List.filter_congr fun m _ => ?_)
  rw [Function.comp_apply]
  split
  · rename_i hname
    rw [hname]
  · rfl

theorem filter_ne_mergedRule (r : AdblockRule) (domains : List Text) :
    (mergedRule r domains).modifiers.filter (·.name ≠ domainModifier) =
      r.modifiers.filter (·.name ≠ domainModifier) := by
  refine (filter_mergedRule r domains (· ≠ domainModifier)).trans ?_
  refine (List.map_congr_left fun m hm => ?_).trans (List.map_id _)
  exact if_neg (of_decide_eq_true (List.mem_filter.1 hm).2)

theorem filter_eq_mergedRule (r : AdblockRule) (domains : List Text) :
    (mergedRule r domains).modifiers.filter (·.name = domainModifier) =
      List.replicate (r.modifiers.countP (·.name = domainModifier))
        ⟨domainModifier, some (Text.join ['|'] domains.eraseDups)⟩ := by
  rw [List.countP_eq_length_filter, ← List.map_const']
  refine (filter_mergedRule r domains (· = domainModifier)).trans (List.map_congr_left fun m hm => ?_)
  exact if_pos (of_decide_eq_true (List.mem_filter.1 hm).2)

theorem splitOn_join_domains (hr : r ∈ membersOf key lines) :
    Text.splitOn '|' (Text.join ['|'] (unitedDomains key lines)) = unitedDomains key lines := by
  obtain ⟨m, v, hm, -⟩ := exists_listed (mergeKey?_of_mem_membersOf hr)
  have hlisted : listedDomains r ≠ [] := by
    rw [listedDomains, hm, List.flatMap_singleton]
    exact Text.splitWhere_ne_nil _ _
  obtain ⟨d, hd⟩ := List.exists_mem_of_ne_nil _ hlisted
  refine Text.splitOn_join (List.ne_nil_of_mem (a := d) ?_) fun w hw hbar => ?_
  · exact List.mem_eraseDups.2 (List.mem_flatMap.2 ⟨r, hr, hd⟩)
  · obtain ⟨r', -, hw⟩ := List.mem_flatMap.1 (List.mem_eraseDups.1 hw)
    obtain ⟨m', -, hw⟩ := List.mem_flatMap.1 hw
    exact absurd (Text.mem_of_mem_splitWhere hw '|' hbar).1 (by decide)

/-- With its values trimmed, the rule of a group is one that could have been read. -/
theorem proper_mergedRule {domains : List Text} (hr : ruleOf? l = some r) (hkey : mergeKey? r = some key)
    (hdomains : ∀ d ∈ domains, Text.Protected '$' d)
    (htrim : ∀ m ∈ (mergedRule r domains).modifiers, ∀ v ∈ m.value, v.Trimmed) : (mergedRule r domains).Proper := by
  have hproper := proper_of_read (ruleOf?_eq_some_iff.1 hr).2.2
  obtain ⟨-, -, m, hmem, -⟩ := of_mergeKey? hkey
  refine ⟨hproper.pattern_ne_nil, hproper.head_not_blank, hproper.no_mark, fun m hm => ?_,
    Modifier.protected_joined_iff.2 (protected_mergedRule hr hdomains),
    fun _ => hproper.escapes_pattern (List.ne_nil_of_mem hmem)⟩
  have hvalue := htrim m hm
  obtain ⟨m', hm', rfl⟩ := List.mem_map.1 hm
  by_cases hname : m'.name = domainModifier
  · rw [if_pos hname] at hvalue ⊢
    have htrimmed : domainModifier.Trimmed := Text.trim_eq_self_iff.1 (by decide)
    have hequals : '=' ∉ domainModifier := by decide
    exact ⟨htrimmed, hequals, hvalue, by simp [Modifier.plain]⟩
  · rw [if_neg hname]
    exact hproper.tidy m' hm'

theorem ruleOf?_text_mergedRule_iff {domains : List Text} (hr : ruleOf? l = some r) (hkey : mergeKey? r = some key)
    (hdomains : ∀ d ∈ domains, Text.Protected '$' d) :
    ruleOf? (mergedRule r domains).text = some (mergedRule r domains) ↔
      (∀ m ∈ (mergedRule r domains).modifiers, ∀ v ∈ m.value, v.Trimmed) ∧
        Line.Restorable (.adblock (mergedRule r domains)) := by
  rw [ruleOf?_eq_some_iff, isCommentOrBlank, Bool.or_eq_false_iff]
  constructor
  · rintro ⟨⟨-, hcomment⟩, hhosts, hread⟩
    have hproper := proper_of_read hread
    exact ⟨fun m hm => (hproper.tidy m hm).value_trimmed, hproper.read_text_iff.1 hread, by simp [hcomment],
      by simp [hhosts]⟩
  · rintro ⟨htrim, hlegible, hcomment, hhosts⟩
    have hproper := proper_mergedRule hr hkey hdomains htrim
    have hblank := hproper.not_isBlankText_text
    exact ⟨⟨by simpa using hblank, by simpa using hcomment⟩, by simpa using hhosts, hproper.read_text_iff.2 hlegible⟩

theorem standsFor_mergedRule {domains : List (List Text)} (hl : l ∈ lines) (hm : mergeable? l = some (key, r))
    (hdomains : (membersOf key lines).mapM domainsOf = .ok domains) :
    StandsFor key lines r (mergedRule r domains.flatten) := by
  obtain ⟨hr, hkey⟩ := mergeable?_eq_some_iff.1 hm
  obtain ⟨hexc, hpattern, -⟩ := of_mergeKey? hkey
  refine ⟨hexc.symm, hpattern.symm, (filter_ne_mergedRule r _).trans (others_of_mergeKey? hkey).symm, fun hfinds => ?_,
    ruleOf?_text_mergedRule_iff hr hkey (protected_of_members hdomains)⟩
  have hlisted : (membersOf key lines).mapM domainsOf = .ok ((membersOf key lines).map listedDomains) :=
    mapM_eq_ok_map fun r' hr' => domainsOf_of_findsListed (mergeKey?_of_mem_membersOf hr') (hfinds r' hr')
  obtain rfl := Except.ok.inj (hdomains.symm.trans hlisted)
  refine ⟨_, ?_, filter_eq_mergedRule r _⟩
  rw [← List.flatMap_def]
  exact splitOn_join_domains (mem_membersOf hl hm)

/-! ### Lists -/

/-- What becomes of a line that stays: it is left alone, or it becomes the rule of its group. -/
inductive Becomes (threshold : Int) (lines : List Text) (l : Text) : Text → Prop
  | same (h : ∀ key r, mergeable? l = some (key, r) → ¬ IsLarge threshold lines key) : Becomes threshold lines l l
  | merged {key : MergeKey} {r g : AdblockRule} (hl : mergeable? l = some (key, r))
      (hlarge : IsLarge threshold lines key) (hg : StandsFor key lines r g) : Becomes threshold lines l g.text

/-- The line at this place is in no large group, or the first one of its group. -/
def IsUnmerged (threshold : Int) (lines : List Text) (i : Nat) : Prop :=
  ∃ l, lines[i]? = some l ∧ ∀ key r, mergeable? l = some (key, r) → IsLarge threshold lines key →
    ∀ k ∈ lines.take i, ∀ r', mergeable? k ≠ some (key, r')

/-- The line at this place is in no large group of `all`, or the first one of its group, which is none of those merged
further up. -/
def IsNew (threshold : Int) (all : List Text) (seen : List MergeKey) (lines : List Text) (i : Nat) : Prop :=
  ∃ l, lines[i]? = some l ∧ ∀ key r, mergeable? l = some (key, r) → IsLarge threshold all key →
    key ∉ seen ∧ ∀ k ∈ lines.take i, ∀ r', mergeable? k ≠ some (key, r')

theorem isNew_zero_iff : IsNew threshold all seen (l :: lines) 0 ↔
    ∀ key r, mergeable? l = some (key, r) → IsLarge threshold all key → key ∉ seen := by
  simp [IsNew]

theorem isNew_succ_iff {i : Nat}
    (hseen : ∀ key, IsLarge threshold all key → (key ∈ seen' ↔ key ∈ seen ∨ ∃ r, mergeable? l = some (key, r))) :
    IsNew threshold all seen (l :: lines) (i + 1) ↔ IsNew threshold all seen' lines i := by
  refine exists_congr fun l' => and_congr Iff.rfl (forall₂_congr fun key r => forall₂_congr fun _ hlarge => ?_)
  rw [hseen key hlarge, List.take_succ_cons, List.forall_mem_cons, not_or, not_exists, and_assoc]

theorem picks_mergeLines (hsub : lines ⊆ all) (hseen : ∀ key ∈ seen, IsLarge threshold all key)
    (h : mergeLines threshold all seen lines = .ok (out, n)) :
    out.length + n = lines.length ∧ ∃ kept, Picks (IsNew threshold all seen lines) lines kept ∧
      List.Forall₂ (Becomes threshold all) kept out := by
  induction lines generalizing seen out n with
  | nil =>
    obtain ⟨rfl, rfl⟩ := Prod.mk.inj (Except.ok.inj h)
    exact ⟨rfl, [], .nil fun i => by simp [IsNew], .nil⟩
  | cons l lines ih =>
    obtain ⟨hl, hsub⟩ := List.cons_subset.1 hsub
    rcases of_mergeLines_cons h with ⟨rest, hrest, rfl, hsmall⟩ | ⟨key, r, hkey, ⟨hmem, m, hrest, rfl⟩ |
      ⟨⟨hnew, hlarge⟩, domains, rest, hdomains, hrest, rfl⟩⟩
    · obtain ⟨hlength, kept, hpicks, hkept⟩ := ih hsub hseen hrest
      refine ⟨by rw [List.length_cons, List.length_cons]; omega, l :: kept, ?_, .cons ?_ hkept⟩
      · refine (hpicks.congr fun i => (isNew_succ_iff fun key hlarge => ?_).symm).cons_of_pos
          (isNew_zero_iff.2 fun key r hkey _ => (hsmall key r hkey).1)
        exact ⟨.inl, fun h => h.resolve_right fun ⟨r, hkey⟩ => (hsmall key r hkey).2 hlarge⟩
      · exact .same fun key r hkey => (hsmall key r hkey).2
    · obtain ⟨hlength, kept, hpicks, hkept⟩ := ih hsub hseen hrest
      refine ⟨by rw [List.length_cons]; omega, kept, ?_, hkept⟩
      refine (hpicks.congr fun i => (isNew_succ_iff fun key' _ => ?_).symm).cons_of_neg
        fun h => isNew_zero_iff.1 h key r hkey (hseen key hmem) hmem
      refine ⟨.inl, fun h => h.elim id fun ⟨r', hkey'⟩ => ?_⟩
      obtain ⟨rfl, -⟩ := Prod.mk.inj (Option.some.inj (hkey.symm.trans hkey'))
      exact hmem
    · have hseen' : ∀ k ∈ key :: seen, IsLarge threshold all k := List.forall_mem_cons.2 ⟨hlarge, hseen⟩
      obtain ⟨hlength, kept, hpicks, hkept⟩ := ih hsub hseen' hrest
      refine ⟨by rw [List.length_cons, List.length_cons]; omega, l :: kept, ?_, .cons ?_ hkept⟩
      · have hfirst : IsNew threshold all seen (l :: lines) 0 := isNew_zero_iff.2 fun key' r' hkey' _ => by
          obtain ⟨rfl, -⟩ := Prod.mk.inj (Option.some.inj (hkey.symm.trans hkey'))
          exact hnew
        refine (hpicks.congr fun i => (isNew_succ_iff fun key' _ => ?_).symm).cons_of_pos hfirst
        rw [List.mem_cons, or_comm, hkey]
        simp only [Option.some.injEq, Prod.mk.injEq, exists_and_left, exists_eq', and_true, eq_comm]
      · exact .merged hkey hlarge (standsFor_mergedRule hl hkey hdomains)

/-- Where merging ends well, the domains of all members of a large group were found. -/
theorem exists_domains_of_mergeLines (h : mergeLines threshold all seen lines = .ok (out, n)) (hl : l ∈ lines)
    (hm : mergeable? l = some (key, r)) (hlarge : IsLarge threshold all key) (hseen : key ∉ seen) :
    ∃ domains, (membersOf key all).mapM domainsOf = .ok domains := by
  induction lines generalizing seen out n with
  | nil => cases hl
  | cons l' lines ih =>
    rcases of_mergeLines_cons h with ⟨rest, hrest, rfl, hsmall⟩ | ⟨key', r', hkey', ⟨hmem, m, hrest, rfl⟩ |
      ⟨-, domains, rest, hdomains, hrest, rfl⟩⟩
    · rcases List.mem_cons.1 hl with rfl | hl
      · exact absurd hlarge (hsmall key r hm).2
      · exact ih hrest hl hseen
    · rcases List.mem_cons.1 hl with rfl | hl
      · obtain ⟨rfl, -⟩ := Prod.mk.inj (Option.some.inj (hkey'.symm.trans hm))
        exact absurd hmem hseen
      · exact ih hrest hl hseen
    · by_cases heq : key = key'
      · exact ⟨domains, heq ▸ hdomains⟩
      rcases List.mem_cons.1 hl with rfl | hl
      · obtain ⟨rfl, -⟩ := Prod.mk.inj (Option.some.inj (hkey'.symm.trans hm))
        exact absurd rfl heq
      · exact ih hrest hl (List.not_mem_cons_of_ne_of_not_mem heq hseen)

theorem exists_mergeLines_iff (lines : List Text) :
    (∃ p, mergeLines threshold lines [] lines = .ok p) ↔
      ∀ key, IsLarge threshold lines key → ∀ r ∈ membersOf key lines, ¬ HidesDomains r := by
  constructor
  · rintro ⟨⟨out, n⟩, h⟩ key hlarge r hr ⟨-, hnone⟩
    obtain ⟨l, hl, hm⟩ := exists_line_of_mem_membersOf hr
    obtain ⟨domains, hdomains⟩ := exists_domains_of_mergeLines h hl hm hlarge List.not_mem_nil
    obtain ⟨ds, hds⟩ := exists_of_mapM_ok hdomains hr
    rw [domainsOf, hnone] at hds
    cases hds
  · intro h
    cases hrun : mergeLines threshold lines [] lines with
    | ok p => exact ⟨p, rfl⟩
    | error e =>
      obtain ⟨hhides, key, hlarge, hr⟩ := of_mergeLines_error hrun
      exact absurd hhides (h key hlarge e.rule hr)

/-- Merging fails exactly if a member of a large group hides its domains behind a domain modifier without a value. If
it does not, it keeps the lines that are in no large group, and of each large group the place of the first member,
where a rule stands for the group. The lines that go are counted. -/
theorem mergeRules_groups (threshold : Int) (lines : List Text) (s : Stats) :
    ((∃ p, mergeRules threshold lines s = .ok p) ↔
      ∀ key, IsLarge threshold lines key → ∀ r ∈ membersOf key lines, ¬ HidesDomains r) ∧
    ∀ out s', mergeRules threshold lines s = .ok (out, s') →
      (∃ n, out.length + n = lines.length ∧ s' = { s with merged := s.merged + n }) ∧
      ∃ kept, Picks (IsUnmerged threshold lines) lines kept ∧ List.Forall₂ (Becomes threshold lines) kept out := by
  refine ⟨?_, fun out s' h => ?_⟩
  · rw [← exists_mergeLines_iff, mergeRules]
    cases mergeLines threshold lines [] lines <;> simp [Except.map]
  · obtain ⟨⟨out, n⟩, hrun, heq⟩ := exists_of_map_ok h
    obtain ⟨rfl, rfl⟩ := Prod.mk.inj heq
    obtain ⟨hlength, kept, hpicks, hkept⟩ := picks_mergeLines (List.Subset.refl lines)
      (fun key hkey => absurd hkey List.not_mem_nil) hrun
    refine ⟨⟨n, hlength, rfl⟩, kept, hpicks.congr fun i => ?_, hkept⟩
    simp only [IsNew, IsUnmerged, List.not_mem_nil, not_false_eq_true, true_and]

example : (mergeRules 2 ["||a^$domain=x|y,p".toList, "||b^".toList, "||a^$p,domain=z|x".toList] {}).toOption =
    some (["||a^$domain=x|y|z,p".toList, "||b^".toList], { merged := 1 }) := by decide +kernel

/-- A negated domain modifier in front takes the place of the domains, and without a value it makes merging fail. -/
theorem mergeRules_negated :
    mergeRules 2 ["||a.com^$~domain=q.com,domain=x.com".toList, "||a.com^$~domain=q.com,domain=y.com".toList] {} =
      .ok (["||a.com^$~domain=q.com,domain=q.com".toList], { merged := 1 }) ∧
    ∃ e, mergeRules 2 ["||a.com^$~domain,domain=x.com".toList, "||a.com^$~domain,domain=y.com".toList] {} = .error e :=
  ⟨eq_ok_of_mem_toOption (by decide +kernel), ⟨⟨false, "||a.com^".toList, [⟨"~domain".toList, none⟩,
    ⟨"domain".toList, some "x.com".toList⟩]⟩⟩, eq_error_of_mem_errorOf? (by decide +kernel)⟩

end Blocklist.Optimize
