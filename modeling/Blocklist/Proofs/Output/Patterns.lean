import Blocklist.Output.Hostnames
import Blocklist.Proofs.Hostname.Syntax

/-!
# The hostname of a pattern

`nameIn p` is the hostname of a pattern as it is written there: all other characters are marks
(`mem_or_mem_nameIn`), and so a pattern with a hostname is no regular expression (`head_ne_slash`). In a pattern
that starts with the domain mark the hostname ends at the first separator (`host_of_separator`).
-/

namespace Blocklist.Output
open Hostname

variable {c : Char} {host p s : Text}

/-- A text whose lower case is a hostname is mapped to it character by character. -/
theorem map_lowerChar_eq (h : s.lower = host) (hvalid : isValid host) : s.map lowerChar = host := by
  rw [← h, Text.lower_eq_map]
  rw [h]
  exact fun c hc => ascii_of_isValid hvalid hc

/-- A character without case is in such a text only if it may be in a hostname. -/
theorem not_mem_of_lower (h : s.lower = host) (hvalid : isValid host) (hself : lowerChar c = c)
    (hc : isLabelChar c = false) (hdot : c ≠ '.') (hfeed : c ∈ host → c ≠ '\n') : c ∉ s := by
  intro hmem
  have hhost : lowerChar c ∈ host := map_lowerChar_eq h hvalid ▸ List.mem_map_of_mem hmem
  rw [hself] at hhost
  exact not_mem_of_isValid hvalid hc hdot (hfeed hhost) hhost

/-! ### Patterns -/

/-- A pattern without what may stand before its hostname. -/
def withoutLead (p : Text) : Text :=
  Text.removePrefix [':', '/', '/'] (Text.removePrefix [wildcard, '.']
    (Text.removePrefix ['|'] (Text.removePrefix domainMark p)))

/-- The rest of a pattern without what may stand after its hostname. -/
def withoutEnd (s : Text) : Text :=
  Text.removeSuffix ['.'] (Text.removeSuffix [separator] (Text.dropEndWhile (· = '|') s))

/-- The place of a pattern where its hostname may be. -/
def nameIn (p : Text) : Text := withoutEnd (withoutLead p)

/-- The characters around the hostname of a pattern. -/
def marks : List Char := ['|', '*', '.', ':', '/', '^']

theorem patternHost?_eq_some_iff :
    patternHost? p = some host ↔ (nameIn p).lower = host ∧ isValid host ∧ '.' ∈ host ∧ wildcard ∉ host := by
  show (if _ then none else some (nameIn p).lower) = some host ↔ _
  split
  · rename_i h
    simp only [Bool.or_eq_true, Bool.not_eq_true', List.elem_eq_mem, decide_eq_true_eq, decide_eq_false_iff_not] at h
    refine iff_of_false (by simp) ?_
    rintro ⟨rfl, hvalid, hdot, hwildcard⟩
    rcases h with (h | h) | h
    · exact hwildcard h
    · exact Bool.false_ne_true (h.symm.trans hvalid)
    · exact h hdot
  · rename_i h
    simp only [Bool.or_eq_true, Bool.not_eq_true', List.elem_eq_mem, decide_eq_true_eq, decide_eq_false_iff_not,
      not_or, Bool.not_eq_false, not_not] at h
    obtain ⟨⟨hwildcard, hvalid⟩, hdot⟩ := h
    constructor
    · intro h
      obtain rfl := Option.some.inj h
      exact ⟨rfl, hvalid, hdot, hwildcard⟩
    · rintro ⟨rfl, -⟩
      rfl

theorem eq_append_withoutEnd (s : Text) :
    ∃ dot sep bars : Text, s = withoutEnd s ++ (dot ++ (sep ++ bars)) ∧ (dot = [] ∨ dot = ['.']) ∧
      (sep = [] ∨ sep = [separator]) ∧ ∀ c ∈ bars, c = '|' := by
  obtain ⟨bars, hbars, hall⟩ := Text.eq_dropEndWhile_append (· = '|') s
  obtain ⟨sep, hsep, hsep'⟩ := Text.eq_removeSuffix_append [separator] (Text.dropEndWhile (· = '|') s)
  obtain ⟨dot, hdot, hdot'⟩ := Text.eq_removeSuffix_append ['.']
    (Text.removeSuffix [separator] (Text.dropEndWhile (· = '|') s))
  refine ⟨dot, sep, bars, ?_, hdot, hsep, fun c hc => of_decide_eq_true (hall c hc)⟩
  calc s = Text.dropEndWhile (· = '|') s ++ bars := hbars
    _ = Text.removeSuffix [separator] (Text.dropEndWhile (· = '|') s) ++ (sep ++ bars) := by
      rw [← List.append_assoc, ← hsep']
    _ = withoutEnd s ++ dot ++ (sep ++ bars) := congrArg (· ++ (sep ++ bars)) hdot'
    _ = withoutEnd s ++ (dot ++ (sep ++ bars)) := List.append_assoc ..

theorem withoutEnd_eq_self (hc : s.getLast? = some c) (hmark : c ∉ ['.', '^', '|']) : withoutEnd s = s := by
  have hkeep {d : Char} (hd : d ∈ ['.', '^', '|']) : ¬ [d] <:+ s := by
    rw [Text.singleton_suffix_iff, hc]
    exact fun heq => hmark (Option.some.inj heq ▸ hd)
  have hbar : Text.dropEndWhile (· = '|') s = s := by
    refine Text.dropEndWhile_eq_self_iff.2 fun d hd => decide_eq_false ?_
    rintro rfl
    exact hkeep (by decide) (Text.singleton_suffix_iff.2 hd)
  rw [withoutEnd, hbar, Text.removeSuffix_eq_self (hkeep (by decide)),
    Text.removeSuffix_eq_self (hkeep (by decide))]

theorem withoutEnd_wildcard (r : Text) : withoutEnd (r ++ [wildcard, separator]) = r ++ [wildcard] := by
  have happend : r ++ [wildcard, separator] = r ++ [wildcard] ++ [separator] := by simp
  have hbar : Text.dropEndWhile (· = '|') (r ++ [wildcard] ++ [separator]) = r ++ [wildcard] ++ [separator] := by
    refine Text.dropEndWhile_eq_self_iff.2 fun d hd => ?_
    rw [List.getLast?_concat] at hd
    exact Option.some.inj hd ▸ by decide
  rw [withoutEnd, happend, hbar, Text.removeSuffix_append, Text.removeSuffix_eq_self]
  rw [Text.singleton_suffix_iff, List.getLast?_concat]
  decide

theorem eq_append_withoutLead (p : Text) :
    ∃ lead, p = lead ++ withoutLead p ∧ (∀ c ∈ lead, c ∈ marks) ∧ lead.head? ≠ some '/' := by
  obtain ⟨a, ha, ha'⟩ := Text.eq_append_removePrefix domainMark p
  obtain ⟨b, hb, hb'⟩ := Text.eq_append_removePrefix ['|'] (Text.removePrefix domainMark p)
  obtain ⟨w, hw, hw'⟩ := Text.eq_append_removePrefix [wildcard, '.']
    (Text.removePrefix ['|'] (Text.removePrefix domainMark p))
  obtain ⟨d, hd, hd'⟩ := Text.eq_append_removePrefix [':', '/', '/']
    (Text.removePrefix [wildcard, '.'] (Text.removePrefix ['|'] (Text.removePrefix domainMark p)))
  refine ⟨a ++ (b ++ (w ++ d)), ?_, ?_⟩
  · have hw' := hw'.trans (congrArg (w ++ ·) hd')
    have hb' := hb'.trans (congrArg (b ++ ·) hw')
    calc p = a ++ (b ++ (w ++ (d ++ withoutLead p))) := ha'.trans (congrArg (a ++ ·) hb')
      _ = a ++ (b ++ (w ++ d)) ++ withoutLead p := by simp only [List.append_assoc]
  · rcases ha with rfl | rfl <;> rcases hb with rfl | rfl <;> rcases hw with rfl | rfl <;>
      rcases hd with rfl | rfl <;> exact ⟨forall_mem_of_all (by decide), by decide⟩

section
variable (h : patternHost? p = some host) (hfeed : '\n' ∉ p)
include h

theorem isValid_host : isValid host := (patternHost?_eq_some_iff.1 h).2.1

theorem lower_host : host.lower = host := by
  have hlower := (patternHost?_eq_some_iff.1 h).1
  rw [← hlower, Text.lower_lower]

omit h in
/-- What is around the hostname are marks. -/
theorem mem_or_mem_nameIn (hc : c ∈ p) : c ∈ marks ∨ c ∈ nameIn p := by
  obtain ⟨lead, hlead, hmarks, -⟩ := eq_append_withoutLead p
  obtain ⟨dot, sep, bars, hend, hdot, hsep, hbars⟩ := eq_append_withoutEnd (withoutLead p)
  rw [hlead, hend] at hc
  rcases List.mem_append.1 hc with hc | hc
  · exact .inl (hmarks c hc)
  rcases List.mem_append.1 hc with hc | hc
  · exact .inr hc
  left
  rcases List.mem_append.1 hc with hc | hc
  · rcases hdot with rfl | rfl
    · cases hc
    · exact List.mem_singleton.1 hc ▸ by decide
  rcases List.mem_append.1 hc with hc | hc
  · rcases hsep with rfl | rfl
    · cases hc
    · exact List.mem_singleton.1 hc ▸ by decide
  · exact hbars c hc ▸ by decide

include hfeed

theorem feed_not_mem_host : '\n' ∉ host := by
  intro hmem
  rw [← (patternHost?_eq_some_iff.1 h).1] at hmem
  have hname := Text.mem_of_mem_lower hmem (by decide) (by decide)
  obtain ⟨lead, hlead, -⟩ := eq_append_withoutLead p
  obtain ⟨dot, sep, bars, hend, -⟩ := eq_append_withoutEnd (withoutLead p)
  rw [hlead, hend] at hfeed
  exact hfeed (List.mem_append_right _ (List.mem_append_left _ hname))

theorem nameIn_ne_nil : nameIn p ≠ [] := by
  intro hnil
  have hhost := (patternHost?_eq_some_iff.1 h).1
  rw [hnil, Text.lower_nil] at hhost
  exact ne_nil_of_isValid (isValid_host h) (feed_not_mem_host h hfeed) hhost.symm

theorem not_mem_nameIn (hself : lowerChar c = c) (hc : isLabelChar c = false) (hdot : c ≠ '.') : c ∉ nameIn p :=
  not_mem_of_lower (patternHost?_eq_some_iff.1 h).1 (isValid_host h) hself hc hdot fun hhost heq =>
    feed_not_mem_host h hfeed (heq ▸ hhost)

theorem not_mem_of_patternHost? (hself : lowerChar c = c) (hc : isLabelChar c = false) (hmark : c ∉ marks) :
    c ∉ p := by
  intro hmem
  rcases mem_or_mem_nameIn hmem with hin | hin
  · exact hmark hin
  · refine not_mem_nameIn h hfeed hself hc ?_ hin
    rintro rfl
    exact hmark (by decide)

theorem isBlank_of_mem_pattern (hc : c ∈ p) : isBlank c = false := by
  rw [Bool.eq_false_iff]
  intro hb
  have hlabel : isLabelChar c = false := by
    rw [Bool.eq_false_iff]
    intro hlabel
    have := toNat_of_isLabelChar hlabel
    rw [isBlank_eq_false (by omega)] at hb
    cases hb
  refine not_mem_of_patternHost? h hfeed (lowerChar_of_isBlank hb) hlabel ?_ hc
  intro hmark
  have hnone : ∀ c ∈ marks, isBlank c = false := forall_mem_of_all (by decide)
  rw [hnone c hmark] at hb
  cases hb

theorem pattern_ne_nil : p ≠ [] := by
  rintro rfl
  exact nameIn_ne_nil h hfeed rfl

theorem head?_withoutLead : (withoutLead p).head? = (nameIn p).head? := by
  obtain ⟨dot, sep, bars, hend, -⟩ := eq_append_withoutEnd (withoutLead p)
  have hend : withoutLead p = nameIn p ++ (dot ++ (sep ++ bars)) := hend
  rw [hend, List.head?_append_of_ne_nil _ (nameIn_ne_nil h hfeed)]

theorem head_ne_slash : p.head? ≠ some '/' := by
  obtain ⟨lead, hlead, -, hhead⟩ := eq_append_withoutLead p
  rw [hlead, List.head?_append]
  cases hl : lead.head? with
  | some c => exact fun hc => hhead (hl.trans hc)
  | none =>
    rw [Option.none_or, head?_withoutLead h hfeed]
    exact fun hc => not_mem_nameIn h hfeed (by decide) (by decide) (by decide) (List.mem_of_head? hc)

theorem withoutLead_ne_nil : withoutLead p ≠ [] := by
  intro hnil
  refine nameIn_ne_nil h hfeed ?_
  rw [nameIn, hnil]
  rfl

theorem getLast?_ne (hself : lowerChar c = c) (hc : isLabelChar c = false) (hmark : c ∉ ['.', '^', '|']) :
    p.getLast? ≠ some c := by
  intro hlast
  obtain ⟨lead, hlead, -⟩ := eq_append_withoutLead p
  rw [hlead, List.getLast?_append_of_ne_nil _ (withoutLead_ne_nil h hfeed)] at hlast
  have hdot : c ≠ '.' := fun hdot => hmark (hdot ▸ List.mem_cons_self ..)
  refine not_mem_nameIn h hfeed hself hc hdot ?_
  rw [nameIn, withoutEnd_eq_self hlast hmark]
  exact List.mem_of_getLast? hlast

/-- No wildcard stands before the last separator. -/
theorem not_wildcard_separator_suffix : ¬ [wildcard, separator] <:+ p := by
  intro hsuffix
  obtain ⟨lead, hlead, -⟩ := eq_append_withoutLead p
  have hwithout : withoutLead p <:+ p := ⟨lead, hlead.symm⟩
  have hname := nameIn_ne_nil h hfeed
  have hstar : wildcard ∉ nameIn p := not_mem_nameIn h hfeed (by decide) (by decide) (by decide)
  rw [nameIn] at hname hstar
  rcases List.suffix_or_suffix_of_suffix hsuffix hwithout with ⟨r, hr⟩ | hshort
  · refine hstar ?_
    rw [← hr, withoutEnd_wildcard]
    exact List.mem_append_right r (List.mem_singleton_self _)
  · obtain heq | hshort := List.suffix_cons_iff.1 hshort
    · rw [heq] at hstar
      exact hstar (by decide)
    obtain heq | hnil := List.suffix_cons_iff.1 hshort
    · rw [heq] at hname
      exact hname (by decide)
    · exact withoutLead_ne_nil h hfeed (List.suffix_nil.1 hnil)

end

theorem withoutLead_domainMark (hs : ∀ c ∈ s.head?, c ∉ ['|', '*', ':']) : withoutLead (domainMark ++ s) = s := by
  have hkeep {d : Char} {m : Text} (hd : d ∈ ['|', '*', ':']) : Text.removePrefix (d :: m) s = s := by
    refine Text.removePrefix_eq_self ?_
    rintro ⟨t, rfl⟩
    exact hs d rfl hd
  rw [withoutLead, Text.removePrefix_append, hkeep (by decide), hkeep (by decide), hkeep (by decide)]

theorem nameIn_domainMark {m : Text} (hs : ∀ c ∈ s, c ∉ ['|', '*', ':', '^']) (hm : m = [] ∨ m = [separator]) :
    nameIn (domainMark ++ (s ++ m)) = Text.removeSuffix ['.'] s := by
  have hsm : ∀ c ∈ s ++ m, c ∉ ['|', '*', ':'] := by
    intro c hc hmem
    rcases List.mem_append.1 hc with hc | hc
    · exact hs c hc (List.mem_append_left ['^'] hmem)
    · rcases hm with rfl | rfl
      · cases hc
      · exact absurd hmem (List.mem_singleton.1 hc ▸ by decide)
  have hbar : Text.dropEndWhile (· = '|') (s ++ m) = s ++ m := by
    refine Text.dropEndWhile_eq_self_iff.2 fun d hd => decide_eq_false ?_
    rintro rfl
    exact hsm _ (List.mem_of_getLast? hd) (by decide)
  have hsep : Text.removeSuffix [separator] (s ++ m) = s := by
    rcases hm with rfl | rfl
    · rw [List.append_nil]
      exact Text.removeSuffix_eq_self fun h => hs _ (h.subset (List.mem_singleton_self _)) (by decide)
    · exact Text.removeSuffix_append ..
  rw [nameIn, withoutLead_domainMark fun c hc => hsm c (List.mem_of_head? hc), withoutEnd, hbar, hsep]

/-- If there is a hostname in a pattern, it ends at the first separator. -/
theorem host_of_separator {t : Text} (hs : ∀ c ∈ s, c ∉ ['|', '*', ':', '^'])
    (h : patternHost? (domainMark ++ (s ++ separator :: t)) = some host) :
    (Text.removeSuffix ['.'] s).lower = host := by
  obtain ⟨hlower, hvalid, -⟩ := patternHost?_eq_some_iff.1 h
  have hhead : ∀ c ∈ (s ++ separator :: t).head?, c ∉ ['|', '*', ':'] := by
    cases s with
    | nil => exact fun c hc => Option.some.inj hc ▸ by decide
    | cons d s =>
      intro c hc hmem
      obtain rfl := Option.some.inj hc
      exact hs d (List.mem_cons_self ..) (List.mem_append_left ['^'] hmem)
  have hsep : separator ∉ nameIn (domainMark ++ (s ++ separator :: t)) := by
    intro hmem
    have hhost : separator ∈ host := hlower ▸ Text.mem_lower_of_mem hmem (by decide)
    exact not_mem_of_isValid hvalid (by decide) (by decide) (by decide) hhost
  have hdrop : Text.dropEndWhile (· = '|') (s ++ separator :: t) = s ++ separator :: Text.dropEndWhile (· = '|') t :=
    Text.dropEndWhile_append_cons (by decide) s t
  rw [nameIn, withoutLead_domainMark hhead, withoutEnd, hdrop] at hlower hsep
  rcases List.eq_nil_or_concat (Text.dropEndWhile (· = '|') t) with hnil | ⟨t', c, ht⟩
  · rwa [hnil, Text.removeSuffix_append] at hlower
  · -- What is after the separator cannot go with it, and so the separator stays.
    refine absurd (Text.mem_removeSuffix ?_ (by decide)) hsep
    rw [ht, List.concat_eq_append, ← List.cons_append, ← List.append_assoc]
    have hmem : separator ∈ s ++ separator :: t' := List.mem_append_right s (List.mem_cons_self ..)
    by_cases hc : c = separator
    · rw [hc, Text.removeSuffix_append]
      exact hmem
    · rw [Text.removeSuffix_eq_self]
      · exact List.mem_append_left _ hmem
      · rw [Text.singleton_suffix_iff, List.getLast?_concat]
        exact fun h => hc (Option.some.inj h)

/-- A hostname after the domain mark, with a dot after it or without one, and with a separator or
without one. -/
theorem patternHost?_domainMark {m : Text} (hs : (Text.removeSuffix ['.'] s).lower = host) (hvalid : isValid host)
    (hdot : '.' ∈ host) (hm : m = [] ∨ m = [separator]) :
    patternHost? (domainMark ++ (s ++ m)) = some host := by
  have hname : ∀ c ∈ s, c ∉ ['|', '*', ':', '^'] := by
    intro c hmem hmark
    have hself : ∀ c ∈ ['|', '*', ':', '^'], lowerChar c = c ∧ isLabelChar c = false ∧ c ≠ '.' ∧ c ≠ '\n' :=
      forall_mem_of_all (by decide)
    obtain ⟨hself, hlabel, hc, hfeed⟩ := hself c hmark
    have hname := Text.mem_removeSuffix hmem (mt List.mem_singleton.1 hc)
    exact not_mem_of_lower hs hvalid hself hlabel hc (fun _ => hfeed) hname
  refine patternHost?_eq_some_iff.2 ⟨?_, hvalid, hdot, not_mem_of_isValid hvalid (by decide) (by decide) (by decide)⟩
  rw [nameIn_domainMark hname hm, hs]

end Blocklist.Output
