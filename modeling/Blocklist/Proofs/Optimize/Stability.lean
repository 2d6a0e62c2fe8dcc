import Blocklist.Proofs.Optimize.Coverage

/-!
# Compressed lists stay as they are

A line of a compressed list gives one entry, with the line as its text and with the hostname that the line is kept for
or with none (`exists_entries_text`): a rule that was written for a hostname reads as a rule for this hostname, unless
a dollar sign in it sets off modifiers. So the hostnames of a compressed list are among those that it was
compressed to, and neither compressing nor the removal of redundant rules finds anything to drop (`compress_stable`).
-/

namespace Blocklist
open Hostname Transform Optimize

variable {psl : SuffixList} {h l w : Text} {lines blocked seen : List Text} {e : Entry} {es : List Entry}

/-! ### Rules that are written for a hostname -/

/-- The last character tells where the name ends, so that a line feed at the end of it makes no difference. -/
theorem AdblockRule.eq_of_anchoredName?_concat {name : Text}
    (hname : anchoredName? (domainMark ++ h ++ [separator]) = some name) : name = h := by
  obtain ⟨hne, hchars, m, k, heq, hm, hk⟩ := exists_of_anchoredName? hname
  rw [List.append_assoc] at heq
  have heq : h ++ [separator] = name ++ (m ++ k) := List.append_cancel_left heq
  have hlast : (name ++ (m ++ k)).getLast? = some separator := by rw [← heq, List.getLast?_concat]
  rcases hk with rfl | rfl
  · rcases hm with rfl | rfl
    · rw [List.append_nil, List.append_nil] at hlast
      exact absurd (hchars _ (List.mem_of_getLast? hlast)) (by decide)
    · rw [List.append_nil] at heq
      exact (List.append_cancel_right heq).symm
  · rw [← List.append_assoc, List.getLast?_concat] at hlast
    exact absurd hlast (by decide)

namespace Transform

theorem NamesHost.lower_eq (hnames : NamesHost l h) : h.lower = h := by
  rcases hnames with ⟨-, -⟩ | - | ⟨-, -, -, -, -, -, hname⟩
  · exact Text.lower_lower _
  · exact Text.lower_lower _
  · obtain ⟨name, -, rfl⟩ := Option.map_eq_some_iff.1 hname
    exact Text.lower_lower name

theorem text_ofHost (h : Text) : (Entry.ofHost h).text = domainMark ++ h ++ [separator] := rfl

theorem trim_text_ofHost (h : Text) : (Entry.ofHost h).text.trim = (Entry.ofHost h).text := by
  rw [text_ofHost]
  refine Text.trim_eq_self_iff.2 ⟨fun c hc => ?_, fun c hc => ?_⟩
  · obtain rfl := Option.some.inj hc
    decide
  · rw [Option.mem_def, List.getLast?_concat] at hc
    obtain rfl := Option.some.inj hc
    decide

/-- A rule that is written for a hostname is about no other one. -/
theorem eq_of_plainHost?_text {r : AdblockRule} (hlower : h.lower = h)
    (hr : AdblockRule.read (Entry.ofHost h).text = .ok r) (hplain : plainHost? r = some w) : w = h := by
  obtain ⟨hexc, hmodifiers, hhost⟩ := plainHost?_eq_some_iff.1 hplain
  obtain ⟨name, hname, rfl⟩ := Option.map_eq_some_iff.1 hhost
  obtain ⟨-, body, htrim, -, hbody⟩ := AdblockRule.read_eq_ok_iff.1 hr
  rw [hexc, AdblockRule.mark_false, List.nil_append, trim_text_ofHost] at htrim
  obtain ⟨-, hpattern, -⟩ | ⟨-, o, ho, -, -, hread⟩ := AdblockRule.of_readBody hbody
  · rw [hpattern, ← htrim] at hname
    rw [AdblockRule.eq_of_anchoredName?_concat hname, hlower]
  · -- the separator at the end would be read as part of a modifier
    have hlast : ('$' :: o).getLast? = some separator := by
      rw [← List.getLast?_append_of_ne_nil r.pattern (List.cons_ne_nil '$' o), ← ho, ← htrim, text_ofHost,
        List.getLast?_concat]
    obtain rfl | ⟨o, c, rfl⟩ := List.eq_nil_or_concat o
    · exact absurd hlast (by decide)
    · rw [List.concat_eq_append, ← List.cons_append, List.getLast?_concat] at hlast
      obtain rfl := Option.some.inj hlast
      rw [hmodifiers, List.concat_eq_append] at hread
      exact absurd hread.symm (Modifier.readAll_concat_ne_nil (by decide) (by decide))

/-- The rule for a hostname gives itself, or it has modifiers and passes through. -/
theorem entries_ofHost (hlower : h.lower = h) :
    entries (Entry.ofHost h).text = [.ofHost h] ∨ entries (Entry.ofHost h).text = [.other (Entry.ofHost h).text] := by
  have htrim : (Entry.ofHost h).text.trim = [] ++ '|' :: ('|' :: (h ++ [separator])) := trim_text_ofHost h
  have hhosts : isHostsLine (Entry.ofHost h).text = false :=
    isHostsLine_eq_false htrim (by simp) (by decide) (by decide) (by decide) (by decide)
  have hbare : isBareDomain (Entry.ofHost h).text = false :=
    isBareDomain_eq_false (c := '|') (by rw [htrim]; exact List.mem_cons_self ..) (by decide) (by decide) (by decide)
  have hrule := entries_of_rule hhosts hbare (isCommentOrBlank_eq_false htrim (by decide) (by decide))
  rw [hrule]
  split
  · rename_i w hw
    obtain ⟨r, hr, hplain⟩ := Option.bind_eq_some_iff.1 hw
    rw [eq_of_plainHost?_text hlower (AdblockRule.read?_eq_some_iff.1 hr) hplain]
    exact .inl rfl
  · exact .inr rfl

/-- A line of a compressed list gives one entry, with this text. -/
theorem exists_entries_text (he : e ∈ entries l) :
    ∃ e', entries e.text = [e'] ∧ e'.text = e.text ∧ e'.host?.toList.Sublist e.host?.toList := by
  have hwritten {h : Text} (hlower : h.lower = h) : ∃ e', entries (Entry.ofHost h).text = [e'] ∧
      e'.text = (Entry.ofHost h).text ∧ e'.host?.toList.Sublist (Entry.ofHost h).host?.toList := by
    rcases entries_ofHost hlower with hentries | hentries
    · exact ⟨_, hentries, rfl, List.Sublist.refl _⟩
    · exact ⟨_, hentries, rfl, List.nil_sublist _⟩
  obtain ⟨rfl, hpass⟩ | ⟨h, hnames, rfl | rfl⟩ := of_mem_entries he
  · exact ⟨_, entries_of_passesThrough hpass, rfl, List.Sublist.refl _⟩
  · exact hwritten hnames.lower_eq
  · -- such an entry is only given by a line that is the rule, or it was written for the hostname after all
    have hlower := hnames.lower_eq
    rcases hnames with ⟨hr, hw⟩ | ⟨hhosts, hbare⟩ | ⟨hhosts, hbare, hcomment, hr, hexc, hmodifiers, hname⟩
    · rw [entries_of_hosts hr] at he
      obtain ⟨v, -, hv⟩ := List.mem_map.1 he
      rw [← hv]
      exact hwritten (Text.lower_lower v)
    · rw [entries_of_bare hhosts hbare, List.mem_singleton] at he
      rw [he]
      exact hwritten hlower
    · refine ⟨_, ?_, rfl, List.Sublist.refl _⟩
      rw [Entry.text, entries_of_rule hhosts hbare hcomment, AdblockRule.read?_eq_some_iff.2 hr, Option.bind_some,
        plainHost?_eq_some_iff.2 ⟨hexc, hmodifiers, hname⟩]

theorem flatMap_entries_text (hes : ∀ e ∈ es, ∃ l, e ∈ entries l) :
    ((es.map Entry.text).flatMap entries).map Entry.text = es.map Entry.text ∧
      List.Sublist (((es.map Entry.text).flatMap entries).filterMap Entry.host?) (es.filterMap Entry.host?) := by
  induction es with
  | nil => exact ⟨rfl, List.Sublist.refl _⟩
  | cons e es ih =>
    obtain ⟨l, hl⟩ := hes e (List.mem_cons_self ..)
    obtain ⟨e', hentries, htext, hhost⟩ := exists_entries_text hl
    obtain ⟨hmap, hsub⟩ := ih fun k hk => hes k (List.mem_cons_of_mem e hk)
    rw [List.map_cons, List.flatMap_cons, hentries, List.singleton_append]
    refine ⟨by rw [List.map_cons, htext, hmap], ?_⟩
    simp only [List.filterMap_eq_flatMap_toList] at hsub ⊢
    exact hhost.append hsub

/-! ### Entries of which none covers another -/

theorem firstPerHost_eq_self (hnodup : (es.filterMap Entry.host?).Nodup)
    (hseen : List.Disjoint (es.filterMap Entry.host?) seen) : firstPerHost seen es = es := by
  induction es generalizing seen with
  | nil => rfl
  | cons e es ih =>
    rw [firstPerHost_cons]
    cases hhost : e.host? with
    | none =>
      rw [List.filterMap_cons_none hhost] at hnodup hseen
      exact congrArg (e :: ·) (ih hnodup hseen)
    | some w =>
      rw [List.filterMap_cons_some hhost] at hnodup hseen
      obtain ⟨hw, hnodup⟩ := List.nodup_cons.1 hnodup
      obtain ⟨hnew, hseen⟩ := List.disjoint_cons_left.1 hseen
      simp only [hnew, if_false]
      exact congrArg (e :: ·) (ih hnodup (List.disjoint_cons_right.2 ⟨hw, hseen⟩))

theorem not_ancestor_of_pairwise {hosts : List Text} {p : Text}
    (hpair : hosts.Pairwise fun p q => ¬ Covers p q ∧ ¬ Covers q p) (hp : p ∈ hosts) (hw : w ∈ hosts) :
    ¬ '.' :: p <:+ w := by
  have hdown : hosts.Pairwise fun p q => ¬ '.' :: p <:+ q := hpair.imp fun h hpq => h.1 (.inr hpq)
  have hup : hosts.Pairwise (flip fun p q => ¬ '.' :: p <:+ q) := hpair.imp fun h hqp => h.2 (.inr hqp)
  have hself : ∀ q ∈ hosts, ¬ '.' :: q <:+ q := fun q _ h => Nat.lt_irrefl _ (length_lt_of_ancestor h)
  exact hdown.forall_of_forall_of_flip hself hup hp hw

theorem staying_eq_self (hpair : (es.filterMap Entry.host?).Pairwise fun p q => ¬ Covers p q ∧ ¬ Covers q p) :
    staying es = es := by
  have hnodup : (es.filterMap Entry.host?).Nodup := hpair.imp fun ⟨hpq, _⟩ heq => hpq (.inl heq)
  rw [staying, firstPerHost_eq_self hnodup (List.disjoint_nil_right _)]
  refine List.filter_eq_self.2 fun e he => ?_
  cases hhost : e.host? with
  | none => simp [Entry.isCovered, hhost]
  | some w =>
    rw [Bool.not_eq_true', ← Bool.not_eq_true, isCovered_iff hhost]
    rintro ⟨p, hp, hancestor⟩
    exact not_ancestor_of_pairwise hpair hp (List.mem_filterMap.2 ⟨e, he, hhost⟩) hancestor

end Transform

namespace Optimize

theorem entries_of_plainHostOf? (hplain : plainHostOf? l = some w) : entries l = [.rule l w] := by
  obtain ⟨r, hr, hhost⟩ := plainHostOf?_eq_some_iff.1 hplain
  obtain ⟨hcomment, hhosts, hread⟩ := ruleOf?_eq_some_iff.1 hr
  obtain ⟨name, hname, -⟩ := Option.map_eq_some_iff.1 (plainHost?_eq_some_iff.1 hhost).2.2
  obtain ⟨-, -, m, k, hpattern, -⟩ := AdblockRule.exists_of_anchoredName? hname
  have hbar : '|' ∈ r.pattern := hpattern ▸ List.mem_cons_self ..
  rw [entries_of_rule hhosts (isBareDomain_of_mem_pattern hread hbar (by decide) (by decide) (by decide)) hcomment,
    AdblockRule.read?_eq_some_iff.2 hread, Option.bind_some, hhost]

theorem plainHosts_sublist (lines : List Text) :
    List.Sublist (plainHosts lines) ((lines.flatMap entries).filterMap Entry.host?) := by
  induction lines with
  | nil => exact List.Sublist.refl _
  | cons l lines ih =>
    rw [List.flatMap_cons, List.filterMap_append]
    cases hplain : plainHostOf? l with
    | none =>
      rw [plainHosts, List.filterMap_cons_none hplain]
      exact ih.trans (List.sublist_append_right _ _)
    | some w =>
      rw [plainHosts, List.filterMap_cons_some hplain, entries_of_plainHostOf? hplain]
      exact ih.cons_cons w

theorem dropRedundant_eq_self (hnodup : (plainHosts lines).Nodup) (hseen : List.Disjoint (plainHosts lines) seen)
    (hparent : ∀ h ∈ plainHosts lines, ∀ p ∈ parentDomains psl h, p ∉ blocked) :
    dropRedundant psl blocked seen lines = (lines, 0) := by
  induction lines generalizing seen with
  | nil => rfl
  | cons l lines ih =>
    rw [dropRedundant_cons]
    cases hplain : plainHostOf? l with
    | none =>
      rw [plainHosts, List.filterMap_cons_none hplain] at hnodup hseen hparent
      rw [ih hnodup hseen hparent]
    | some w =>
      rw [plainHosts, List.filterMap_cons_some hplain] at hnodup hseen hparent
      obtain ⟨hw, hnodup⟩ := List.nodup_cons.1 hnodup
      obtain ⟨hnew, hseen⟩ := List.disjoint_cons_left.1 hseen
      have hnone : (parentDomains psl w).any (· ∈ blocked) = false := by
        rw [List.any_eq_false]
        exact fun p hp => by simpa using hparent w (List.mem_cons_self ..) p hp
      simp only [hnew, hnone, if_false, Bool.false_eq_true]
      rw [ih hnodup (List.disjoint_cons_right.2 ⟨hw, hseen⟩) fun h hh => hparent h (List.mem_cons_of_mem w hh)]

end Optimize

/-- A compressed list is not changed by compressing it once more, and has no redundant rules, whatever the public
suffixes are. -/
theorem compress_stable (psl : SuffixList) (lines : List Text) (s : Stats) :
    compress (compress lines) = compress lines ∧ removeRedundant psl (compress lines) s = (compress lines, s) := by
  have hgiven : ∀ e ∈ staying (lines.flatMap entries), ∃ l, e ∈ entries l := by
    intro e he
    obtain ⟨l, -, hl⟩ := List.mem_flatMap.1 (mem_of_mem_firstPerHost (List.mem_filter.1 he).1)
    exact ⟨l, hl⟩
  obtain ⟨htexts, hhosts⟩ := flatMap_entries_text hgiven
  rw [← compress_eq] at htexts hhosts
  have hpair := (pairwise_staying (lines.flatMap entries)).sublist hhosts
  refine ⟨?_, ?_⟩
  · rw [compress_eq (compress lines), staying_eq_self hpair, htexts]
  · have hplain := hpair.sublist (plainHosts_sublist (compress lines))
    have hnodup : (plainHosts (compress lines)).Nodup := hplain.imp fun ⟨hpq, _⟩ heq => hpq (.inl heq)
    have hparent :
        ∀ h ∈ plainHosts (compress lines), ∀ p ∈ parentDomains psl h, p ∉ plainHosts (compress lines) :=
      fun h hh p hp hmem => not_ancestor_of_pairwise hplain hmem hh (of_mem_parentDomains hp).1
    rw [removeRedundant, show (compress lines).filterMap plainHostOf? = plainHosts (compress lines) from rfl,
      dropRedundant_eq_self hnodup (List.disjoint_nil_right _) hparent]
    rfl

end Blocklist
