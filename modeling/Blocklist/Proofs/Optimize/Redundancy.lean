import Blocklist.Optimize.Redundancy
import Blocklist.Proofs.Hostname.PublicSuffix
import Blocklist.Proofs.Transform.Compress

/-!
# What stays blocked without redundant rules

Of the plain rules for a hostname the first stays, unless there is one for a parent
(`exists_mem_dropRedundant`), and every other line stays. Parents have a dot in them if the name has none at
its end, for then its public suffix is at least its last label (`exists_dotted_parent`). So what the lines
block stays blocked (`exists_blocks_dropRedundant`), unless both the hostname and its last label stand in
plain rules with a dot at their ends.
-/

namespace Blocklist.Optimize
open Hostname Output Transform

variable {psl : SuffixList} {d h k l p q w : Text} {lines blocked seen : List Text} {r : AdblockRule}

theorem ruleOf?_eq_some_iff :
    ruleOf? l = some r ↔ isCommentOrBlank l = false ∧ isHostsLine l = false ∧ AdblockRule.read l = .ok r := by
  rw [ruleOf?, isCandidate]
  cases isCommentOrBlank l
  · cases isHostsLine l
    · simp [AdblockRule.read?_eq_some_iff]
    · simp
  · simp

theorem plainHostOf?_eq_some_iff : plainHostOf? l = some w ↔ ∃ r, ruleOf? l = some r ∧ plainHost? r = some w :=
  Option.bind_eq_some_iff

/-- The hostnames of all plain rules of a list. -/
def plainHosts (lines : List Text) : List Text := lines.filterMap plainHostOf?

/-- A rule that the optimizer looks at and that is no bare domain blocks by its pattern. -/
theorem patternHost?_of_blocks (hb : Blocks l h) (hr : ruleOf? l = some r) (hbare : isBareDomain l = false) :
    r.isRegex = false ∧ r.exception = false ∧ patternHost? r.pattern = some h := by
  obtain ⟨-, hhosts, hread⟩ := ruleOf?_eq_some_iff.1 hr
  rcases hb with ⟨r', w, hr', -⟩ | ⟨-, -, hbare', -⟩ | ⟨r', -, -, -, hr', hregex, hexc, hp⟩
  · rw [HostsRule.isHostsLine_of_read hr'] at hhosts
    cases hhosts
  · rw [hbare'] at hbare
    cases hbare
  · obtain rfl := Except.ok.inj (hr'.symm.trans hread)
    exact ⟨hregex, hexc, hp⟩

/-! ### The lines that stay -/

theorem dropRedundant_cons : dropRedundant psl blocked seen (l :: lines) =
    match plainHostOf? l with
    | none => (l :: (dropRedundant psl blocked seen lines).1, (dropRedundant psl blocked seen lines).2)
    | some h =>
      if h ∈ seen then dropRedundant psl blocked seen lines
      else
        let rest := dropRedundant psl blocked (h :: seen) lines
        if (parentDomains psl h).any (· ∈ blocked) then (rest.1, rest.2 + 1) else (l :: rest.1, rest.2) :=
  rfl

theorem mem_of_mem_dropRedundant (hk : k ∈ (dropRedundant psl blocked seen lines).1) : k ∈ lines := by
  induction lines generalizing seen with
  | nil => exact hk
  | cons l lines ih =>
    rw [dropRedundant_cons] at hk
    split at hk
    · exact (List.mem_cons.1 hk).elim (· ▸ List.mem_cons_self ..) fun hk => List.mem_cons_of_mem _ (ih hk)
    · split at hk
      · exact List.mem_cons_of_mem _ (ih hk)
      · dsimp only at hk
        split at hk
        · exact List.mem_cons_of_mem _ (ih hk)
        · exact (List.mem_cons.1 hk).elim (· ▸ List.mem_cons_self ..) fun hk => List.mem_cons_of_mem _ (ih hk)

theorem mem_dropRedundant_of_none (hl : l ∈ lines) (hplain : plainHostOf? l = none) :
    l ∈ (dropRedundant psl blocked seen lines).1 := by
  induction lines generalizing seen with
  | nil => cases hl
  | cons l' lines ih =>
    rw [dropRedundant_cons]
    rcases List.mem_cons.1 hl with rfl | hl
    · rw [hplain]
      exact List.mem_cons_self ..
    · split
      · exact List.mem_cons_of_mem _ (ih hl)
      · split
        · exact ih hl
        · dsimp only
          split
          · exact ih hl
          · exact List.mem_cons_of_mem _ (ih hl)

/-- A plain rule for the hostname stays, if no parent is blocked and none was further up. -/
theorem exists_mem_dropRedundant (hl : l ∈ lines) (hplain : plainHostOf? l = some w) (hw : w ∉ seen)
    (hparent : ∀ p ∈ parentDomains psl w, p ∉ blocked) :
    ∃ k ∈ (dropRedundant psl blocked seen lines).1, plainHostOf? k = some w := by
  induction lines generalizing seen with
  | nil => cases hl
  | cons l' lines ih =>
    rw [dropRedundant_cons]
    by_cases hl' : plainHostOf? l' = some w
    · have hnone : (parentDomains psl w).any (· ∈ blocked) = false := by
        rw [List.any_eq_false]
        exact fun p hp => by simpa using hparent p hp
      rw [hl']
      simp only [hw, hnone, if_false, Bool.false_eq_true]
      exact ⟨l', List.mem_cons_self .., hl'⟩
    · have hl : l ∈ lines := (List.mem_cons.1 hl).resolve_left fun heq => hl' (heq ▸ hplain)
      split
      · obtain ⟨k, hk, hkw⟩ := ih hl hw
        exact ⟨k, List.mem_cons_of_mem _ hk, hkw⟩
      · rename_i v hv
        split
        · exact ih hl hw
        · have hvw : w ∉ v :: seen := by
            rw [List.mem_cons, not_or]
            exact ⟨fun heq => hl' (heq ▸ hv), hw⟩
          obtain ⟨k, hk, hkw⟩ := ih hl hvw
          dsimp only
          split
          · exact ⟨k, hk, hkw⟩
          · exact ⟨k, List.mem_cons_of_mem _ hk, hkw⟩

/-! ### Parents -/

theorem of_mem_parentDomains (hp : p ∈ parentDomains psl w) :
    '.' :: p <:+ w ∧ ((publicSuffix? psl w).getD []).length < p.length := by
  obtain ⟨hmem, hif⟩ := List.mem_filter.1 hp
  simp only [Bool.and_eq_true, decide_eq_true_eq] at hif
  obtain ⟨⟨hne, -⟩, hlength⟩ := hif
  exact ⟨(mem_withAncestors_iff.1 hmem).2.resolve_left hne, hlength⟩

/-- A parent of a hostname has a dot in it, unless both have one at their ends. -/
theorem exists_dotted_parent (hpsl : psl.EndsNames) (hq : isValid q) (hfeed : '\n' ∉ q) (hlower : q.lower = q)
    (hd : d = [] ∨ d = ['.']) (hp : p ∈ parentDomains psl (q ++ d)) :
    ∃ t, p = t ++ d ∧ '.' :: t <:+ q ∧ ('.' ∈ t ∨ d = ['.']) := by
  obtain ⟨hancestor, hlength⟩ := of_mem_parentDomains hp
  rcases ancestor_append hd hancestor with rfl | ⟨t, rfl, ht⟩
  · exact absurd hlength (Nat.not_lt_zero _)
  refine ⟨t, rfl, ht, or_iff_not_imp_left.2 fun htdot => hd.resolve_left ?_⟩
  rintro rfl
  obtain ⟨suffix, hsuffix, hle⟩ := exists_publicSuffix hpsl hq hfeed hlower htdot (.inr ht) (.inl (List.append_nil q))
  rw [hsuffix, List.append_nil] at hlength
  exact absurd hlength (Nat.not_lt.2 hle)

/-! ### What is blocked -/

theorem blocks_of_plainHostOf? (hq : isValid q) (hdot : '.' ∈ q) (hd : d = [] ∨ d = ['.'])
    (hplain : plainHostOf? l = some (q ++ d)) (hl : '\n' ∉ l) : Blocks l q := by
  obtain ⟨r, hr, hplain⟩ := plainHostOf?_eq_some_iff.1 hplain
  obtain ⟨hcomment, hhosts, hr⟩ := ruleOf?_eq_some_iff.1 hr
  exact blocks_plain hq hdot hd hcomment hhosts hr hplain hl

/-- A plain rule for a hostname of the list stays, or there is one for a parent. -/
theorem exists_mem_dropRedundant_or_parent (hw : w ∈ plainHosts lines) :
    (∃ k ∈ (dropRedundant psl (plainHosts lines) [] lines).1, plainHostOf? k = some w) ∨
      ∃ p ∈ plainHosts lines, p ∈ parentDomains psl w := by
  by_cases hparent : ∃ p ∈ plainHosts lines, p ∈ parentDomains psl w
  · exact .inr hparent
  · obtain ⟨k, hk, hkw⟩ := List.mem_filterMap.1 hw
    exact .inl (exists_mem_dropRedundant hk hkw List.not_mem_nil fun p hp hmem => hparent ⟨p, hmem, hp⟩)

theorem exists_blocks_dropRedundant (hpsl : psl.EndsNames) (hfeed : ∀ l ∈ lines, '\n' ∉ l) (hl : l ∈ lines)
    (hb : Blocks l h)
    (htop : h ++ ['.'] ∈ plainHosts lines → ∀ t, '.' ∉ t → '.' :: t <:+ h → t ++ ['.'] ∉ plainHosts lines) :
    ∃ k ∈ (dropRedundant psl (plainHosts lines) [] lines).1, ∃ q, Blocks k q ∧ Covers q h := by
  cases hplain : plainHostOf? l with
  | none => exact ⟨l, mem_dropRedundant_of_none hl hplain, h, hb, .refl h⟩
  | some w =>
  have hw : w ∈ plainHosts lines := List.mem_filterMap.2 ⟨l, hl, hplain⟩
  obtain ⟨r, hr, hplain⟩ := plainHostOf?_eq_some_iff.1 hplain
  have hread := (ruleOf?_eq_some_iff.1 hr).2.2
  have hp : '\n' ∉ r.pattern := fun hmem => hfeed l hl (AdblockRule.mem_of_mem_pattern hread hmem)
  obtain ⟨-, -, hhost⟩ := patternHost?_of_blocks hb hr (isBareDomain_of_plain hplain hp hread)
  obtain ⟨d, hd, rfl⟩ := eq_append_of_plain hplain hp hhost
  obtain ⟨-, hvalid, hdot, -⟩ := patternHost?_eq_some_iff.1 hhost
  have hhfeed := feed_not_mem_host hhost hp
  have hancestor {q : Text} (hq : Covers q h) : isValid q ∧ '\n' ∉ q ∧ q.lower = q :=
    ⟨hq.elim (· ▸ hvalid) (isValid_of_ancestor hvalid), fun hmem => hhfeed (hq.subset hmem),
      lower_eq_self_of_covers hvalid hhfeed (lower_host hhost) hq⟩
  -- Going up from parent to parent, the dot at the end stays as it is.
  have hstep : ∀ q p, '.' ∈ q → Covers q h → q ++ d ∈ plainHosts lines → p ∈ plainHosts lines →
      p ∈ parentDomains psl (q ++ d) → ∃ t, p = t ++ d ∧ '.' ∈ t ∧ '.' :: t <:+ q := by
    intro q p _ hq _ hmem hparent
    obtain ⟨hqvalid, hqfeed, hqlower⟩ := hancestor hq
    obtain ⟨t, rfl, ht, htdot⟩ := exists_dotted_parent hpsl hqvalid hqfeed hqlower hd hparent
    refine ⟨t, rfl, by_contra fun hnot => ?_, ht⟩
    obtain rfl := htdot.resolve_left hnot
    exact htop hw t hnot (Covers.ancestor ht hq) hmem
  obtain ⟨q, hqdot, hq, k, hk, hkq⟩ := exists_kept hdot hw (fun w hw => exists_mem_dropRedundant_or_parent hw) hstep
  have hqvalid := (hancestor hq).1
  exact ⟨k, hk, q, blocks_of_plainHostOf? hqvalid hqdot hd hkq (hfeed k (mem_of_mem_dropRedundant hk)), hq⟩

end Blocklist.Optimize
