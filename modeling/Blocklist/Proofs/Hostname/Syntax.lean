import Blocklist.Hostname.Syntax
import Blocklist.Proofs.Text.Basic
import Blocklist.Proofs.Text.Case
import Blocklist.Proofs.Text.Trim
import Mathlib.Order.WellFounded

/-!
# Hostnames and their ancestors

`Covers p s`: the hostname `p` is `s` or an ancestor of it, and so blocking `p` blocks `s`.
`mem_withAncestors_iff` says the same of the ancestors that are enumerated. An ancestor of a hostname is
a hostname (`isValid_of_ancestor`), and a hostname has nothing but label characters and dots in it, with
no dot at either end.
-/

namespace Blocklist.Hostname

/-- `p` is `s` or one of its ancestors. -/
def Covers (p s : Text) : Prop := p = s ∨ '.' :: p <:+ s

instance (p s : Text) : Decidable (Covers p s) := inferInstanceAs (Decidable (_ ∨ _))

namespace Covers
variable {p q s : Text}

theorem refl (s : Text) : Covers s s := .inl rfl

theorem ancestor (h : '.' :: p <:+ q) (h' : Covers q s) : '.' :: p <:+ s := by
  rcases h' with rfl | h'
  · exact h
  · exact h.trans ((List.suffix_cons '.' q).trans h')

theorem trans (h : Covers p q) (h' : Covers q s) : Covers p s := by
  rcases h with rfl | h
  · exact h'
  · exact .inr (ancestor h h')

theorem subset (h : Covers p s) : p ⊆ s := by
  rcases h with rfl | h
  · exact List.Subset.refl _
  · exact ((List.suffix_cons '.' p).trans h).subset

theorem length_le (h : Covers p s) : p.length ≤ s.length := by
  rcases h with rfl | h
  · exact Nat.le_refl _
  · exact (Nat.le_succ _).trans h.length_le

end Covers

section
variable {a l p s : Text} {c : Char}

theorem mem_afterDots_iff : p ∈ afterDots s ↔ '.' :: p <:+ s := by
  induction s with
  | nil => simp [afterDots]
  | cons d s ih =>
    rw [List.suffix_cons_iff, ← ih]
    by_cases hd : d = '.'
    · subst hd
      rw [afterDots, List.mem_cons, List.cons.injEq]
      simp
    · have hne : '.' :: p ≠ d :: s := fun h => hd (List.cons.inj h).1.symm
      rw [afterDots]
      · simp [hne]
      · exact hd

theorem mem_withAncestors_iff : p ∈ withAncestors s ↔ s ≠ [] ∧ Covers p s := by
  rw [withAncestors, Covers, ← mem_afterDots_iff]
  split
  · rename_i hs
    simp [hs]
  · rename_i hs
    simp [hs]

theorem length_lt_of_ancestor (h : '.' :: p <:+ s) : p.length < s.length := h.length_le

/-- A dot at the end of a name is one at the end of its ancestors. -/
theorem ancestor_append {d q : Text} (hd : d = [] ∨ d = ['.']) (h : '.' :: p <:+ q ++ d) :
    p = [] ∨ ∃ t, p = t ++ d ∧ '.' :: t <:+ q := by
  rcases hd with rfl | rfl
  · rw [List.append_nil] at h
    exact .inr ⟨p, (List.append_nil p).symm, h⟩
  · rcases List.suffix_concat_iff.1 h with hnil | ⟨u, hu, hsuffix⟩
    · cases hnil
    cases u with
    | nil => exact .inl (List.cons.inj hu).2
    | cons c u =>
      obtain ⟨rfl, rfl⟩ := List.cons.inj hu
      exact .inr ⟨u, rfl, hsuffix⟩

/-- Where each hostname stays or has a parent among `hosts`, one that covers `h` stays. All names end
in `d` and, without it, have a dot. -/
theorem exists_kept {d h : Text} {hosts : List Text} {kept : Text → Prop} {parent : Text → Text → Prop}
    (hdot : '.' ∈ h) (hmem : h ++ d ∈ hosts) (hkept : ∀ w ∈ hosts, kept w ∨ ∃ p ∈ hosts, parent p w)
    (hstep : ∀ q p, '.' ∈ q → Covers q h → q ++ d ∈ hosts → p ∈ hosts → parent p (q ++ d) →
      ∃ t, p = t ++ d ∧ '.' ∈ t ∧ '.' :: t <:+ q) :
    ∃ q, '.' ∈ q ∧ Covers q h ∧ kept (q ++ d) := by
  -- The shortest of the names that cover `h` has no parent.
  let covering : Set Text := {q | q ++ d ∈ hosts ∧ '.' ∈ q ∧ Covers q h}
  obtain ⟨q, ⟨hq, hqdot, hcovers⟩, hmin⟩ :=
    (measure List.length).wf.has_min covering ⟨h, hmem, hdot, .refl h⟩
  rcases hkept (q ++ d) hq with hkept | ⟨p, hp, hparent⟩
  · exact ⟨q, hqdot, hcovers, hkept⟩
  · obtain ⟨t, rfl, htdot, ht⟩ := hstep q p hqdot hcovers hq hp hparent
    have hcovering : t ∈ covering := ⟨hp, htdot, .inr (Covers.ancestor ht hcovers)⟩
    exact absurd (length_lt_of_ancestor ht) (hmin t hcovering)

/-! ### Labels -/

theorem isLabel_iff :
    isLabel l ↔ l ≠ [] ∧ l.length ≤ 63 ∧ (∀ c ∈ l, isLabelChar c) ∧ l.head? ≠ some '-' ∧ l.getLast? ≠ some '-' := by
  simp [isLabel, and_assoc]

theorem splitOn_append_dot (a p : Text) : (a ++ '.' :: p).splitOn '.' = a.splitOn '.' ++ p.splitOn '.' :=
  Text.splitWhere_append_cons (by decide) a p

theorem splitOn_of_not_mem (h : '.' ∉ p) : p.splitOn '.' = [p] := by
  refine Text.splitWhere_word fun c hc => ?_
  rw [decide_eq_false_iff_not]
  exact fun hdot => h (hdot ▸ hc)

theorem isValid_iff :
    isValid s ↔ 1 ≤ s.dropLineFeed.length ∧ s.dropLineFeed.length ≤ 253 ∧
      ∀ l ∈ s.dropLineFeed.splitOn '.', isLabel l := by
  simp [isValid, and_assoc]

theorem isValid_iff_of_no_feed (h : '\n' ∉ s) :
    isValid s ↔ 1 ≤ s.length ∧ s.length ≤ 253 ∧ ∀ l ∈ s.splitOn '.', isLabel l := by
  have hdrop : s.dropLineFeed = s := by
    refine Text.removeSuffix_eq_self fun hsuffix => h ?_
    exact hsuffix.subset (List.mem_singleton_self '\n')
  rw [isValid_iff, hdrop]

/-- A label by itself is a hostname. -/
theorem isValid_of_isLabel (h : isLabel l) (hdot : '.' ∉ l) (hfeed : '\n' ∉ l) : isValid l := by
  obtain ⟨hne, hlength, -⟩ := isLabel_iff.1 h
  refine (isValid_iff_of_no_feed hfeed).2 ⟨List.length_pos_iff.2 hne, by omega, ?_⟩
  rw [splitOn_of_not_mem hdot]
  exact List.forall_mem_singleton.2 h

/-- An ancestor of a hostname is a hostname. -/
theorem isValid_of_ancestor (h : isValid s) (hp : '.' :: p <:+ s) : isValid p := by
  obtain ⟨a, rfl⟩ := hp
  obtain ⟨-, hlength, hlabels⟩ := isValid_iff.1 h
  rw [Text.dropLineFeed_append_cons (by decide)] at hlength hlabels
  rw [splitOn_append_dot] at hlabels
  have hlabels : ∀ l ∈ p.dropLineFeed.splitOn '.', isLabel l := fun l hl =>
    hlabels l (List.mem_append_right _ hl)
  refine isValid_iff.2 ⟨?_, ?_, hlabels⟩
  · refine List.length_pos_iff.2 fun hnil => ?_
    rw [hnil] at hlabels
    exact absurd (hlabels [] (List.mem_singleton_self _)) (by decide)
  · rw [List.length_append, List.length_cons] at hlength
    omega

/-! ### Characters -/

theorem toNat_of_isLabelChar (h : isLabelChar c) : 0x2D ≤ c.toNat ∧ c.toNat ≤ 0x7A := by
  rw [isLabelChar, Bool.or_eq_true, decide_eq_true_eq] at h
  rcases h with h | rfl
  · have := toNat_of_isAlphanum h
    omega
  · decide

/-- Up to a line feed, a hostname has label characters and dots only. -/
theorem not_mem_of_isValid (h : isValid s) (hc : isLabelChar c = false) (hdot : c ≠ '.') (hfeed : c ≠ '\n') :
    c ∉ s := by
  intro hmem
  have hname : c ∈ s.dropLineFeed := Text.mem_removeSuffix hmem (mt List.mem_singleton.1 hfeed)
  obtain ⟨l, hl, hcl⟩ := Text.mem_splitOn hname hdot
  have hlabel := (isLabel_iff.1 ((isValid_iff.1 h).2.2 l hl)).2.2.1 c hcl
  rw [hc] at hlabel
  cases hlabel

theorem isDot_of_isLabelChar (h : isLabelChar c) : isDot c = false := by
  have hrange := toNat_of_isLabelChar h
  simp only [isDot, Bool.or_eq_false_iff, decide_eq_false_iff_not]
  refine ⟨⟨⟨?_, ?_⟩, ?_⟩, ?_⟩
  · rintro rfl
    exact absurd h (by decide)
  · rintro rfl
    exact absurd hrange (by decide)
  · rintro rfl
    exact absurd hrange (by decide)
  · rintro rfl
    exact absurd hrange (by decide)

/-- All characters of a hostname are ASCII. -/
theorem ascii_of_isValid (h : isValid s) (hc : c ∈ s) : c.toNat < 0x80 := by
  by_cases hlabel : isLabelChar c
  · have := toNat_of_isLabelChar hlabel
    omega
  by_cases hdot : c = '.'
  · exact hdot ▸ by decide
  by_cases hfeed : c = '\n'
  · exact hfeed ▸ by decide
  exact absurd hc (not_mem_of_isValid h (Bool.eq_false_iff.2 hlabel) hdot hfeed)

theorem getLast?_ne_dot (h : isValid s) : s.getLast? ≠ some '.' := by
  intro hlast
  obtain ⟨p, rfl⟩ := List.getLast?_eq_some_iff.1 hlast
  exact absurd (isValid_of_ancestor h (List.suffix_append p ['.'])) (by decide)

theorem removeSuffix_dot_of_isValid (h : isValid s) : Text.removeSuffix ['.'] s = s :=
  Text.removeSuffix_eq_self (mt Text.singleton_suffix_iff.1 (getLast?_ne_dot h))

theorem dropEndWhile_dot_of_isValid (h : isValid s) : Text.dropEndWhile (· = '.') s = s := by
  refine Text.dropEndWhile_eq_self_iff.2 fun c hc => decide_eq_false fun hdot => ?_
  exact getLast?_ne_dot h (hdot ▸ hc)

theorem isLabelChar_toLower (h : isLabelChar c) : isLabelChar c.toLower := by
  cases hupper : c.isUpper with
  | false => rwa [toLower_of_not_isUpper hupper]
  | true =>
    have hlower : c.toLower.isAlphanum := isAlphanum_iff.2 (.inl (.inr (isLower_toLower hupper)))
    rw [isLabelChar, hlower, Bool.true_or]

theorem isLabel_map_toLower (h : isLabel l) : isLabel (l.map Char.toLower) := by
  obtain ⟨hne, hlength, hchars, hhead, hlast⟩ := isLabel_iff.1 h
  have hhyphen (o : Option Char) (ho : o ≠ some '-') : o.map Char.toLower ≠ some '-' := by
    intro hmap
    obtain ⟨c, rfl, hc⟩ := Option.map_eq_some_iff.1 hmap
    exact ho (congrArg some ((toLower_eq_iff (by decide) (by decide)).1 hc))
  refine isLabel_iff.2 ⟨mt List.map_eq_nil_iff.1 hne, (List.length_map ..).trans_le hlength, ?_, ?_, ?_⟩
  · intro c hc
    obtain ⟨d, hd, rfl⟩ := List.mem_map.1 hc
    exact isLabelChar_toLower (hchars d hd)
  · rw [List.head?_map]
    exact hhyphen _ hhead
  · rw [List.getLast?_map]
    exact hhyphen _ hlast

/-- A hostname in lower case is a hostname. -/
theorem isValid_lower (h : isValid s) : isValid s.lower := by
  have hdot (c : Char) : decide (c.toLower = '.') = decide (c = '.') :=
    decide_eq_decide.2 (toLower_eq_iff (by decide) (by decide))
  have hlower : s.lower = s.map Char.toLower := Case.lowerAfter_of_ascii (fun c hc => ascii_of_isValid h hc) []
  obtain ⟨hpos, hlength, hlabels⟩ := isValid_iff.1 h
  rw [hlower, isValid_iff, Text.dropLineFeed_map fun c => toLower_eq_iff (by decide) (by decide), List.length_map]
  refine ⟨hpos, hlength, fun l hl => ?_⟩
  rw [Text.splitOn, Text.splitWhere_map hdot] at hl
  obtain ⟨l, hmem, rfl⟩ := List.mem_map.1 hl
  exact isLabel_map_toLower (hlabels l hmem)

variable (h : isValid s) (hfeed : '\n' ∉ s)
include h hfeed

/-- A hostname has label characters and dots only. -/
theorem isLabelChar_or_dot (hc : c ∈ s) : isLabelChar c ∨ c = '.' := by
  by_cases hdot : c = '.'
  · exact .inr hdot
  · obtain ⟨l, hl, hcl⟩ := Text.mem_splitOn hc hdot
    exact .inl ((isLabel_iff.1 (((isValid_iff_of_no_feed hfeed).1 h).2.2 l hl)).2.2.1 c hcl)

theorem toNat_of_mem (hc : c ∈ s) : 0x2D ≤ c.toNat ∧ c.toNat ≤ 0x7A := by
  rcases isLabelChar_or_dot h hfeed hc with hc | rfl
  · exact toNat_of_isLabelChar hc
  · decide

theorem isBlank_of_mem (hc : c ∈ s) : isBlank c = false := by
  have := toNat_of_mem h hfeed hc
  exact isBlank_eq_false (by omega)

theorem ne_nil_of_isValid : s ≠ [] :=
  List.length_pos_iff.1 ((isValid_iff_of_no_feed hfeed).1 h).1

theorem trim_of_isValid : s.trim = s :=
  Text.trim_eq_self_iff.2 (Text.trimmed_word fun _ hc => isBlank_of_mem h hfeed hc)

end

end Blocklist.Hostname
