import Blocklist.Hostname.SuffixRules
import Blocklist.Proofs.Hostname.Syntax
import Blocklist.Proofs.Text.Case

/-!
# The suffix of a hostname

Where a list names ends of hostnames only (`SuffixList.EndsNames`), as one made of rules does
(`SuffixList.endsNames_ofRules`), every hostname has a public suffix, and that is no shorter than the last
label (`exists_publicSuffix`): an ancestor that is longer than the suffix has a dot in it.
-/

namespace Blocklist
open Hostname

variable {psl : SuffixList} {rules : List Text} {p s t w : Text}

namespace SuffixList

/-- What the list finds for a hostname in lower case is the name or an end of it behind a dot, if it is
anything. -/
def EndsNames (psl : SuffixList) : Prop :=
  ∀ s, isValid s → '\n' ∉ s → s.lower = s → psl.find s = [] ∨ Covers (psl.find s) s

/-! ### Lists made of rules -/

section
variable (h : isValid s) (hfeed : '\n' ∉ s)
include h hfeed

/-- A hostname is its own host part. -/
theorem hostPart_of_isValid : hostPart s = s := by
  have hnot {c : Char} (hc : isLabelChar c = false) (hdot : c ≠ '.') : c ∉ s := fun hmem =>
    not_mem_of_isValid h hc hdot (fun hc => hfeed (hc ▸ hmem)) hmem
  have hslash : '/' ∉ s := hnot (by decide) (by decide)
  have hscheme : dropScheme s = s := by
    rw [dropScheme, Text.cut?_eq_none_of_not_mem (List.mem_cons_self ..) hslash]
  have hauthority : (s.takeWhile fun c => c ≠ '/' && c ≠ '?' && c ≠ '#') = s := by
    refine List.takeWhile_eq_self_iff.2 fun c hc => ?_
    simp only [Bool.and_eq_true, decide_eq_true_eq]
    refine ⟨⟨?_, ?_⟩, ?_⟩
    · rintro rfl
      exact hslash hc
    · rintro rfl
      exact hnot (by decide) (by decide) hc
    · rintro rfl
      exact hnot (by decide) (by decide) hc
  have huser : Text.cutAfterLast? (· = '@') s = none := by
    refine Text.cutAfterLast?_eq_none fun c hc => decide_eq_false ?_
    rintro rfl
    exact hnot (by decide) (by decide) hc
  have hport : s.takeWhile (· ≠ ':') = s := by
    refine List.takeWhile_eq_self_iff.2 fun c hc => ?_
    rw [decide_eq_true_eq]
    rintro rfl
    exact hnot (by decide) (by decide) hc
  have hend : Text.dropEndWhile isDot s = s := by
    refine Text.dropEndWhile_eq_self_iff.2 fun c hc => ?_
    rcases isLabelChar_or_dot h hfeed (List.mem_of_getLast? hc) with hlabel | rfl
    · exact isDot_of_isLabelChar hlabel
    · exact absurd hc (getLast?_ne_dot h)
  simp only [hostPart, hscheme, hauthority, huser, Option.map_none, Option.getD_none]
  split
  · rename_i hbracket hcut
    exact absurd (List.mem_of_head? hbracket) (hnot (by decide) (by decide))
  · rw [hport, trim_of_isValid h hfeed, hend]

/-- The rules name some of the last labels of a hostname, or none. -/
theorem find_ofRules (rules : List Text) : ∃ n, (ofRules rules).find s = Text.join ['.'] ((s.splitOn '.').drop n) := by
  have hlabels : Text.splitWhere isDot s = s.splitOn '.' := by
    refine Text.splitWhere_congr fun c hc => ?_
    rcases isLabelChar_or_dot h hfeed hc with hlabel | rfl
    · rw [isDot_of_isLabelChar hlabel, eq_comm, decide_eq_false_iff_not]
      rintro rfl
      exact absurd hlabel (by decide)
    · rfl
  simp only [ofRules, hostPart_of_isValid h hfeed, hlabels]
  exact ⟨_, rfl⟩

end

/-- Some last labels of a name make an end of it. -/
theorem covers_join_drop (labels : List Text) (n : Nat) :
    Text.join ['.'] (labels.drop n) = [] ∨ Covers (Text.join ['.'] (labels.drop n)) (Text.join ['.'] labels) := by
  induction labels generalizing n with
  | nil => exact .inl (by rw [List.drop_nil]; rfl)
  | cons l labels ih =>
    cases n with
    | zero => exact .inr (.refl _)
    | succ n =>
      rw [List.drop_succ_cons]
      by_cases hlabels : labels = []
      · exact .inl (by rw [hlabels, List.drop_nil]; rfl)
      · rw [Text.join_cons hlabels]
        exact (ih n).imp_right (·.trans (.inr (List.suffix_append ..)))

theorem endsNames_ofRules (rules : List Text) : (ofRules rules).EndsNames := by
  intro s h hfeed _
  obtain ⟨n, hfind⟩ := find_ofRules h hfeed rules
  have hcovers := covers_join_drop (s.splitOn '.') n
  rwa [Text.join_splitOn, ← hfind] at hcovers

end SuffixList

/-- A hostname in lower case has ancestors in lower case. -/
theorem Hostname.lower_eq_self_of_covers (h : isValid s) (hfeed : '\n' ∉ s) (hlower : s.lower = s)
    (hcovers : Covers t s) : t.lower = t := by
  have hascii : ∀ c ∈ s, c.toNat < 0x80 := fun c hc => by
    have := toNat_of_mem h hfeed hc
    omega
  rw [Text.lower_eq_self_iff fun c hc => hascii c (hcovers.subset hc)]
  exact fun c hc => (Text.lower_eq_self_iff hascii).1 hlower c (hcovers.subset hc)

/-- The last label of a hostname: it has no dot and covers the name. -/
theorem Hostname.getLast?_splitOn (ht : '.' ∉ t) (hcovers : Covers t s) : (s.splitOn '.').getLast? = some t := by
  rcases hcovers with rfl | ⟨a, rfl⟩
  · rw [splitOn_of_not_mem ht]
    rfl
  · rw [splitOn_append_dot, splitOn_of_not_mem ht, List.getLast?_concat]

/-- The last label is no longer than any end of the name behind a dot. -/
theorem Hostname.length_le_of_covers (ht : '.' ∉ t) (hcovers : Covers t s) (hp : Covers p s) :
    t.length ≤ p.length := by
  rcases hp with rfl | hp
  · exact hcovers.length_le
  · refine Nat.le_of_not_lt fun hlt => ht ?_
    have hpt : '.' :: p <:+ t := List.suffix_of_suffix_length_le hp (hcovers.elim (· ▸ List.suffix_refl _)
      (List.suffix_cons '.' t).trans) hlt
    exact hpt.subset (List.mem_cons_self ..)

/-- A hostname, with a dot at its end or without one, has a public suffix, and its last label is no
longer than that. -/
theorem exists_publicSuffix (hpsl : psl.EndsNames) (h : isValid s) (hfeed : '\n' ∉ s) (hlower : s.lower = s)
    (ht : '.' ∉ t) (hcovers : Covers t s) (hw : w = s ∨ w = s ++ ['.']) :
    ∃ suffix, publicSuffix? psl w = some suffix ∧ t.length ≤ suffix.length := by
  have hname : Text.dropEndWhile (· = '.') w.trim.lower = s := by
    have hblank : ∀ c ∈ s, isBlank c = false := fun c hc => isBlank_of_mem h hfeed hc
    rcases hw with rfl | rfl
    · rw [trim_of_isValid h hfeed, hlower, dropEndWhile_dot_of_isValid h]
    · have htrim : (s ++ ['.']).trim = s ++ ['.'] := by
        refine Text.trim_eq_self_iff.2 (Text.trimmed_word fun c hc => ?_)
        rcases List.mem_append.1 hc with hc | hc
        · exact hblank c hc
        · exact List.mem_singleton.1 hc ▸ by decide
      rw [htrim, Text.lower_append_dot, hlower, Text.dropEndWhile_append_of_pos (List.forall_mem_singleton.2 rfl),
        dropEndWhile_dot_of_isValid h]
  have hne : s ≠ [] := by
    rintro rfl
    exact absurd h (by decide)
  simp only [publicSuffix?, hname, hne, if_false]
  by_cases hfind : psl.find s = []
  · have hlast := getLast?_splitOn ht hcovers
    have hlabel : isLabel t :=
      ((isValid_iff_of_no_feed hfeed).1 h).2.2 t (List.mem_of_getLast? hlast)
    have htfeed : '\n' ∉ t := fun hmem => absurd ((isLabel_iff.1 hlabel).2.2.1 _ hmem) (by decide)
    rw [hlast]
    simp only [hfind, ne_eq, not_true_eq_false, if_false, isValid_of_isLabel hlabel ht htfeed, if_true]
    exact ⟨t, rfl, Nat.le_refl _⟩
  · rw [if_pos hfind]
    exact ⟨_, rfl, length_le_of_covers ht hcovers ((hpsl s h hfeed hlower).resolve_left hfind)⟩

end Blocklist
