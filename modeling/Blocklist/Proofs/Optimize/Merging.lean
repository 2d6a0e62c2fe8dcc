import Blocklist.Optimize.Merging
import Blocklist.Proofs.Optimize.Patterns
import Blocklist.Proofs.Result

/-!
# Merged rules for the same hostname

The rules of a group have one pattern, and so the rule that takes the place of the first of them names the
hostname of each (`names_mergedRule`). What merging does with one line is `of_mergeLines_cons`; from it,
`mergeLines_names`: after merging, every line that named a hostname is there, or its group was merged further up.
Merging only fails at a rule that hides its domains (`of_mergeLines_error`).
-/

namespace Blocklist.Optimize
open Hostname Output AdblockRule

variable {h k l : Text} {key : MergeKey} {lines all out domains : List Text} {r : AdblockRule} {seen : List MergeKey}
  {threshold : Int} {n : Nat}

theorem mergeable?_eq_some_iff :
    mergeable? l = some (key, r) ↔ ruleOf? l = some r ∧ mergeKey? r = some key := by
  rw [mergeable?, Option.bind_eq_some_iff]
  constructor
  · rintro ⟨r', hr', hkey⟩
    obtain ⟨key', hkey', heq⟩ := Option.map_eq_some_iff.1 hkey
    obtain ⟨rfl, rfl⟩ := Prod.mk.inj heq
    exact ⟨hr', hkey'⟩
  · rintro ⟨hr, hkey⟩
    exact ⟨r, hr, by rw [hkey]; rfl⟩

/-- A rule with a key has a modifier that lists domains. -/
theorem of_mergeKey? (hkey : mergeKey? r = some key) :
    key.exception = r.exception ∧ key.pattern = r.pattern ∧ ∃ m ∈ r.modifiers, listsDomains m := by
  rw [mergeKey?] at hkey
  split at hkey
  · rename_i hone
    obtain rfl := Option.some.inj hkey
    obtain ⟨m, hm⟩ := List.length_eq_one_iff.1 hone
    have hmem : m ∈ r.modifiers.filter listsDomains := hm ▸ List.mem_singleton_self m
    exact ⟨rfl, rfl, m, List.mem_filter.1 hmem⟩
  · cases hkey

/-! ### Domains -/

theorem protected_modifier (hr : ruleOf? l = some r) : ∀ m ∈ r.modifiers, Text.Protected '$' m.text :=
  Modifier.protected_joined_iff.1 (proper_of_read (ruleOf?_eq_some_iff.1 hr).2.2).protected_joined

theorem protected_domainsOf (hr : ruleOf? l = some r) (hdomains : domainsOf r = .ok domains) :
    ∀ d ∈ domains, Text.Protected '$' d := by
  rw [domainsOf] at hdomains
  split at hdomains
  · rename_i v hv
    obtain rfl := Except.ok.inj hdomains
    obtain ⟨m, hm, hvalue⟩ := Option.bind_eq_some_iff.1 hv
    have hprotected := Modifier.protected_value (protected_modifier hr m (List.mem_of_find?_eq_some hm)) v hvalue
    rw [← Text.join_splitOn '|' v, Text.protected_join_iff (by decide) (by decide)] at hprotected
    exact hprotected
  · cases hdomains

theorem exists_line_of_mem_membersOf (hr : r ∈ membersOf key lines) : ∃ l ∈ lines, mergeable? l = some (key, r) := by
  obtain ⟨⟨key', r'⟩, hmem, hif⟩ := List.mem_filterMap.1 hr
  obtain ⟨l, hl, hmergeable⟩ := List.mem_filterMap.1 hmem
  dsimp only at hif
  split at hif
  · rename_i hkey
    obtain rfl := Option.some.inj hif
    exact ⟨l, hl, hkey ▸ hmergeable⟩
  · cases hif

theorem protected_of_members {domains : List (List Text)} (h : (membersOf key lines).mapM domainsOf = .ok domains) :
    ∀ d ∈ domains.flatten, Text.Protected '$' d := by
  intro d hd
  obtain ⟨ds, hds, hd⟩ := List.mem_flatten.1 hd
  obtain ⟨r, hr, hdomains⟩ := exists_of_mem_mapM h hds
  obtain ⟨l, -, hmergeable⟩ := exists_line_of_mem_membersOf hr
  exact protected_domainsOf (mergeable?_eq_some_iff.1 hmergeable).1 hdomains d hd

/-! ### The rule of a group -/

theorem protected_mergedRule (hr : ruleOf? l = some r) (hdomains : ∀ d ∈ domains, Text.Protected '$' d) :
    ∀ m ∈ (mergedRule r domains).modifiers, Text.Protected '$' m.text := by
  intro m hm
  obtain ⟨m', hm', rfl⟩ := List.mem_map.1 hm
  split
  · rw [Modifier.text_some rfl, Text.protected_append_cons (by decide) (by decide),
      Text.protected_replaceChar_iff (by decide) (by decide) (by decide),
      Text.protected_join_iff (by decide) (by decide)]
    have hname : Text.Protected '$' domainModifier := by decide
    exact ⟨hname, fun d hd => hdomains d (List.mem_eraseDups.1 hd)⟩
  · exact protected_modifier hr m' hm'

theorem host_of_mergeable (hl : Names l h) (hm : mergeable? l = some (key, r)) :
    key.exception = false ∧ patternHost? key.pattern = some h ∧ '\n' ∉ key.pattern := by
  obtain ⟨hr, hkey⟩ := mergeable?_eq_some_iff.1 hm
  obtain ⟨hexc, hpattern, m, hmem, -⟩ := of_mergeKey? hkey
  have hread := (ruleOf?_eq_some_iff.1 hr).2.2
  have hbare := isBareDomain_of_modifiers hread (List.ne_nil_of_mem hmem)
  obtain ⟨-, hexc', hp⟩ := patternHost?_of_blocks hl.blocks hr hbare
  rw [hexc, hpattern]
  exact ⟨hexc', hp, hl.feed r hread⟩

/-- The rule of a group names the hostname of the pattern that all members share. -/
theorem names_mergedRule (hm : mergeable? l = some (key, r)) (hdomains : ∀ d ∈ domains, Text.Protected '$' d)
    (hexc : key.exception = false) (hp : patternHost? key.pattern = some h) (hfeed : '\n' ∉ key.pattern) :
    Names (mergedRule r domains).text h := by
  obtain ⟨hr, hkey⟩ := mergeable?_eq_some_iff.1 hm
  obtain ⟨hexc', hpattern, m, hmem, -⟩ := of_mergeKey? hkey
  rw [hexc'] at hexc
  rw [hpattern] at hp hfeed
  have hms : (mergedRule r domains).modifiers ≠ [] := List.ne_nil_of_mem (List.mem_map_of_mem hmem)
  exact names_text hexc hms hp hfeed (Modifier.protected_joined_iff.2 (protected_mergedRule hr hdomains))

/-! ### Lists -/

/-- The group of a key has at least `threshold` members. -/
def IsLarge (threshold : Int) (lines : List Text) (key : MergeKey) : Prop :=
  threshold ≤ (membersOf key lines).length

/-- What merging does with a line: it stays, it goes because its group was merged further up, or it becomes
the rule of its group. -/
theorem of_mergeLines_cons (h : mergeLines threshold all seen (l :: lines) = .ok (out, n)) :
    (∃ rest, mergeLines threshold all seen lines = .ok (rest, n) ∧ out = l :: rest ∧
        ∀ key r, mergeable? l = some (key, r) → key ∉ seen ∧ ¬ IsLarge threshold all key) ∨
      ∃ key r, mergeable? l = some (key, r) ∧
        ((key ∈ seen ∧ ∃ m, mergeLines threshold all seen lines = .ok (out, m) ∧ n = m + 1) ∨
          (key ∉ seen ∧ IsLarge threshold all key) ∧
            ∃ domains rest, (membersOf key all).mapM domainsOf = .ok domains ∧
              mergeLines threshold all (key :: seen) lines = .ok (rest, n) ∧
              out = (mergedRule r domains.flatten).text :: rest) := by
  rw [mergeLines] at h
  split at h
  · rename_i hnone
    obtain ⟨⟨rest, m⟩, hrest, heq⟩ := exists_of_map_ok h
    obtain ⟨rfl, rfl⟩ := Prod.mk.inj heq
    exact .inl ⟨rest, hrest, rfl, fun key r hkey => by rw [hnone] at hkey; cases hkey⟩
  rename_i key r hkey
  split at h
  · rename_i hseen
    obtain ⟨⟨rest, m⟩, hrest, heq⟩ := exists_of_map_ok h
    obtain ⟨rfl, rfl⟩ := Prod.mk.inj heq
    exact .inr ⟨key, r, hkey, .inl ⟨hseen, m, hrest, rfl⟩⟩
  rename_i hnew
  dsimp only at h
  split at h
  · rename_i hsmall
    obtain ⟨⟨rest, m⟩, hrest, heq⟩ := exists_of_map_ok h
    obtain ⟨rfl, rfl⟩ := Prod.mk.inj heq
    refine .inl ⟨rest, hrest, rfl, fun key' r' hkey' => ?_⟩
    rw [hkey] at hkey'
    obtain ⟨rfl, rfl⟩ := Prod.mk.inj (Option.some.inj hkey')
    exact ⟨hnew, not_le.2 hsmall⟩
  · rename_i hlarge
    obtain ⟨domains, hdomains, h⟩ := exists_of_bind_ok h
    obtain ⟨⟨rest, m⟩, hrest, h⟩ := exists_of_bind_ok h
    obtain ⟨rfl, rfl⟩ := Prod.mk.inj (Except.ok.inj h)
    exact .inr ⟨key, r, hkey, .inr ⟨⟨hnew, not_lt.1 hlarge⟩, domains, rest, hdomains, hrest, rfl⟩⟩

theorem mergeLines_of_none (h : ∀ l ∈ lines, mergeable? l = none) :
    mergeLines threshold all seen lines = .ok (lines, 0) := by
  induction lines with
  | nil => rfl
  | cons l lines ih =>
    rw [List.forall_mem_cons] at h
    rw [mergeLines, h.1, ih h.2]
    rfl

theorem mergeLines_names (h : mergeLines threshold all seen lines = .ok (out, n)) (hl : l ∈ lines) {host : Text}
    (hn : Names l host) :
    (∃ k ∈ out, Names k host) ∨ ∃ key r, mergeable? l = some (key, r) ∧ key ∈ seen := by
  induction lines generalizing seen out n with
  | nil => cases hl
  | cons l' lines ih =>
    rcases of_mergeLines_cons h with ⟨rest, hrest, rfl, -⟩ | ⟨key, r, hkey, ⟨hseen, m, hrest, -⟩ |
      ⟨-, domains, rest, hdomains, hrest, rfl⟩⟩
    · rcases List.mem_cons.1 hl with rfl | hl
      · exact .inl ⟨l, List.mem_cons_self .., hn⟩
      · exact (ih hrest hl).imp_left fun ⟨k, hk, hkn⟩ => ⟨k, List.mem_cons_of_mem _ hk, hkn⟩
    · rcases List.mem_cons.1 hl with rfl | hl
      · exact .inr ⟨key, r, hkey, hseen⟩
      · exact ih hrest hl
    · have hprotected := protected_of_members hdomains
      -- The rule of the group names the hostnames of all its members.
      have hgroup {r' : AdblockRule} (hm : mergeable? l = some (key, r')) :
          ∃ k ∈ (mergedRule r domains.flatten).text :: rest, Names k host := by
        obtain ⟨hexc, hp, hfeed⟩ := host_of_mergeable hn hm
        exact ⟨_, List.mem_cons_self .., names_mergedRule hkey hprotected hexc hp hfeed⟩
      rcases List.mem_cons.1 hl with rfl | hl
      · exact .inl (hgroup hkey)
      · rcases ih hrest hl with ⟨k, hk, hkn⟩ | ⟨key', r', hm, hseen⟩
        · exact .inl ⟨k, List.mem_cons_of_mem _ hk, hkn⟩
        · rcases List.mem_cons.1 hseen with rfl | hseen
          · exact .inl (hgroup hm)
          · exact .inr ⟨key', r', hm, hseen⟩

/-- A line after merging was there before, or is the rule of a group. -/
theorem of_mem_mergeLines {k : Text} (h : mergeLines threshold all seen lines = .ok (out, n)) (hk : k ∈ out) :
    k ∈ lines ∨ ∃ l ∈ lines, ∃ key r domains, mergeable? l = some (key, r) ∧ k = (mergedRule r domains).text := by
  induction lines generalizing seen out n with
  | nil =>
    obtain rfl := (Prod.mk.inj (Except.ok.inj h)).1
    cases hk
  | cons l lines ih =>
    have hcons {rest : List Text} {seen : List MergeKey} {m : Nat}
        (hrest : mergeLines threshold all seen lines = .ok (rest, m)) (hk : k ∈ rest) :
        k ∈ l :: lines ∨
          ∃ l' ∈ l :: lines, ∃ key r domains, mergeable? l' = some (key, r) ∧ k = (mergedRule r domains).text :=
      (ih hrest hk).imp (List.mem_cons_of_mem l) fun ⟨l', hl', hgroup⟩ => ⟨l', List.mem_cons_of_mem l hl', hgroup⟩
    rcases of_mergeLines_cons h with ⟨rest, hrest, rfl, -⟩ | ⟨key, r, hkey, ⟨-, m, hrest, -⟩ |
      ⟨-, domains, rest, -, hrest, rfl⟩⟩
    · rcases List.mem_cons.1 hk with rfl | hk
      · exact .inl (List.mem_cons_self ..)
      · exact hcons hrest hk
    · exact hcons hrest hk
    · rcases List.mem_cons.1 hk with rfl | hk
      · exact .inr ⟨l, List.mem_cons_self .., key, r, domains.flatten, hkey, rfl⟩
      · exact hcons hrest hk

theorem mergeLines_noException (h : mergeLines threshold all seen lines = .ok (out, n))
    (hlines : ∀ l ∈ lines, NoException l) : ∀ k ∈ out, NoException k := by
  intro k hk
  rcases of_mem_mergeLines h hk with hk | ⟨l, hl, key, r, domains, hkey, rfl⟩
  · exact hlines k hk
  · have hr := (mergeable?_eq_some_iff.1 hkey).1
    have hopens := opens_of_proper (proper_of_read (ruleOf?_eq_some_iff.1 hr).2.2) (hlines l hl r hr)
    exact noException_text (hlines l hl r hr) hopens

/-! ### Errors -/

/-- A rule with a modifier that lists domains, in front of which a domain modifier without a value stands. -/
def HidesDomains (r : AdblockRule) : Prop :=
  (∃ m ∈ r.modifiers, listsDomains m) ∧ (r.findModifier? domainModifier).bind (·.value) = none

theorem of_domainsOf_error {e : MergeError} (hr : r ∈ membersOf key lines) (h : domainsOf r = .error e) :
    r = e.rule ∧ HidesDomains e.rule := by
  rw [domainsOf] at h
  split at h
  · cases h
  · rename_i hnone
    obtain rfl := Except.error.inj h
    obtain ⟨l, -, hl⟩ := exists_line_of_mem_membersOf hr
    obtain ⟨-, -, hlists⟩ := of_mergeKey? (mergeable?_eq_some_iff.1 hl).2
    exact ⟨rfl, hlists, hnone⟩

theorem of_mergeLines_error {e : MergeError} (h : mergeLines threshold all seen lines = .error e) :
    HidesDomains e.rule ∧ ∃ key, IsLarge threshold all key ∧ e.rule ∈ membersOf key all := by
  induction lines generalizing seen with
  | nil => cases h
  | cons l rest ih =>
    rw [mergeLines] at h
    split at h
    · exact ih (of_map_error h)
    split at h
    · exact ih (of_map_error h)
    dsimp only at h
    split at h
    · exact ih (of_map_error h)
    rename_i key r hkey _ hlarge
    -- a group is merged here, or one further down
    rcases of_bind_error h with hdomains | ⟨domains, -, h⟩
    · obtain ⟨r, hr, herror⟩ := exists_of_mapM_error hdomains
      obtain ⟨hrule, hhides⟩ := of_domainsOf_error hr herror
      exact ⟨hhides, key, not_lt.1 hlarge, hrule ▸ hr⟩
    rcases of_bind_error h with hrest | ⟨p, -, h⟩
    · exact ih hrest
    · cases h

end Blocklist.Optimize
