import Blocklist.Proofs.Hostname.Syntax
import Blocklist.Proofs.Regex.Language

/-!
# The syntax of hostnames as a regular expression

A regular expression can look ahead for the length of a whole name and then take label after label, each in rounds that
can end in many places (`expression`). It is found exactly in the hostnames (`occursIn_expression`): what its parts
take is a language, and that of its names has the texts whose pieces between dots are labels. `isValid_iff_joined`
says what a hostname is with neither an expression nor a split.
-/

namespace Blocklist.Hostname
open Regex

variable {c : Char} {l s : Text} {p : Place}

/-! ### Labels -/

/-- A label: 1 to 63 letters, digits and hyphens, all of ASCII, with no hyphen at either end. -/
structure Label (l : Text) : Prop where
  length : 1 ≤ l.length ∧ l.length ≤ 63
  chars : ∀ c ∈ l, c.isAlphanum ∨ c = '-'
  head : l.head? ≠ some '-'
  last : l.getLast? ≠ some '-'

theorem isLabelChar_iff : isLabelChar c ↔ c.isAlphanum ∨ c = '-' := by
  rw [isLabelChar, Bool.or_eq_true, decide_eq_true_eq]

theorem isLabel_iff_label : isLabel l ↔ Label l := by
  simp only [isLabel_iff, isLabelChar_iff]
  constructor
  · rintro ⟨hne, hlength, hchars, hhead, hlast⟩
    exact ⟨⟨List.length_pos_iff.2 hne, hlength⟩, hchars, hhead, hlast⟩
  · rintro ⟨⟨hpos, hlength⟩, hchars, hhead, hlast⟩
    exact ⟨List.length_pos_iff.1 hpos, hlength, hchars, hhead, hlast⟩

theorem isAlphanum_iff_isLabelChar : c.isAlphanum ↔ isLabelChar c ∧ c ≠ '-' := by
  rw [isLabelChar_iff]
  constructor
  · intro h
    refine ⟨.inl h, ?_⟩
    rintro rfl
    exact absurd h (by decide)
  · rintro ⟨h, hne⟩
    exact h.resolve_right hne

/-- A label is a letter or a digit, or has one at each end. -/
theorem isLabel_iff_ends : isLabel l ↔ ∃ c v, c.isAlphanum ∧
    (v = [] ∨ ∃ u d, (u.length ≤ 61 ∧ ∀ x ∈ u, isLabelChar x) ∧ d.isAlphanum ∧ v = u ++ [d]) ∧ l = c :: v := by
  simp only [isLabel_iff, isAlphanum_iff_isLabelChar]
  constructor
  · rintro ⟨hne, hlength, hchars, hhead, hlast⟩
    obtain ⟨c, v, rfl⟩ := List.exists_cons_of_ne_nil hne
    refine ⟨c, v, ⟨hchars c (List.mem_cons_self ..), fun hc => hhead (hc ▸ rfl)⟩, ?_, rfl⟩
    rcases List.eq_nil_or_concat v with rfl | ⟨u, d, rfl⟩
    · exact .inl rfl
    · rw [List.concat_eq_append] at hlength hchars hlast
      rw [← List.cons_append, List.getLast?_concat, ne_eq, Option.some.injEq] at hlast
      refine .inr ⟨u, d, ⟨?_, fun x hx => hchars x (by simp [hx])⟩, ⟨hchars d (by simp), hlast⟩, ?_⟩
      · rw [List.length_cons, List.length_append, List.length_singleton] at hlength
        omega
      · rw [List.concat_eq_append]
  · rintro ⟨c, _, ⟨hc, hcne⟩, rfl | ⟨u, d, ⟨hlength, hu⟩, ⟨hd, hdne⟩, rfl⟩, rfl⟩
    · simp [hc, hcne]
    · refine ⟨List.cons_ne_nil _ _, ?_, ?_, by simpa using hcne, ?_⟩
      · rw [List.length_cons, List.length_append, List.length_singleton]
        omega
      · rw [List.forall_mem_cons, List.forall_mem_append]
        exact ⟨hc, hu, List.forall_mem_singleton.2 hd⟩
      · rw [← List.cons_append, List.getLast?_concat, ne_eq, Option.some.injEq]
        exact hdne

theorem dot_not_mem_of_isLabel (h : isLabel l) : '.' ∉ l := fun hdot =>
  absurd ((isLabel_iff.1 h).2.2.1 '.' hdot) (by decide)

theorem feed_not_mem_of_isLabel (h : isLabel l) : '\n' ∉ l := fun hfeed =>
  absurd ((isLabel_iff.1 h).2.2.1 '\n' hfeed) (by decide)

/-- The pieces of a text between dots are the labels that it is joined from. -/
theorem forall_isLabel_splitOn_iff : (∀ l ∈ s.splitOn '.', isLabel l) ↔
    ∃ labels : List Text, labels ≠ [] ∧ s = Text.join ['.'] labels ∧ ∀ l ∈ labels, isLabel l := by
  constructor
  · exact fun h => ⟨s.splitOn '.', Text.splitWhere_ne_nil _ s, (Text.join_splitOn '.' s).symm, h⟩
  · rintro ⟨labels, hne, rfl, h⟩
    rwa [Text.splitOn_join hne fun l hl => dot_not_mem_of_isLabel (h l hl)]

/-! ### The expression and its parts -/

/-- The syntax of a hostname as a regular expression. -/
def expression : Text :=
  "^(?=.\x7b1,253\x7d$)[0-9A-Za-z]" ++
    "(?:(?:[0-9A-Za-z]|-)\x7b0,61\x7d[0-9A-Za-z])?" ++
    "(?:\\.[0-9A-Za-z](?:(?:[0-9A-Za-z]|-)\x7b0,61\x7d[0-9A-Za-z])?)*$"

/-- The mode of the expression: classes are of ASCII alone. -/
def mode : Mode := ⟨false, false, false, true⟩

/-- A letter or a digit. -/
def alphanumeric : Regex := .set .exact false [.range '0' '9', .range 'A' 'Z', .range 'a' 'z']

/-- The label characters between the first and the last of a label. -/
def inner : Regex := .repeat (.group none (.alt alphanumeric (.char .exact '-'))) 0 (some 61) .greedy

/-- What follows the first character of a label. -/
def labelRest : Regex := .repeat (.group none (.seq inner alphanumeric)) 0 (some 1) .greedy

/-- The labels behind the first one. -/
def moreLabels : Regex :=
  .repeat (.group none (.seq (.char .exact '.') (.seq alphanumeric labelRest))) 0 none .greedy

/-- What has to come next where a name starts. -/
def lengthCheck : Regex := .seq (.repeat (.any false) 1 (some 253) .greedy) (.anchor .lastLineEnd)

/-- A name up to the end of the text. -/
def nameParts : List Part :=
  [.atom alphanumeric, .repeated labelRest, .repeated moreLabels, .anchor (.anchor .lastLineEnd)]

theorem read_expression (characters : CharNames) : Regex.read characters mode expression =
    .ok (sequence (.anchor (.anchor .textStart) :: .atom (.ahead false lengthCheck) :: nameParts)) := rfl

/-! ### What the parts take -/

/-- The language of labels. -/
def labels : Language Char := {l | isLabel l}

theorem mem_labels_iff : l ∈ labels ↔ isLabel l := Iff.rfl

/-- The language of labels with dots between them. -/
def names : Language Char := labels * repetitions ((chars fun c => '.' = c) * labels) 0 none

theorem has_range_iff {first last : Char} :
    (SetItem.range first last).has .exact c ↔ first.toNat ≤ c.toNat ∧ c.toNat ≤ last.toNat := by
  rw [SetItem.has, Folding.variants, List.any_cons, List.any_nil, Bool.or_false, Bool.and_eq_true, decide_eq_true_eq,
    decide_eq_true_eq]
  exact and_congr UInt32.le_iff_toNat_le UInt32.le_iff_toNat_le

theorem takes_alphanumeric : Takes (run alphanumeric) (chars Char.isAlphanum) := by
  have hset : (fun d => false != [SetItem.range '0' '9', .range 'A' 'Z', .range 'a' 'z'].any (·.has .exact d)) =
      Char.isAlphanum := by
    funext d
    rw [Bool.eq_iff_iff, isAlphanum_iff, isUpper_iff, isLower_iff, isDigit_iff]
    simp only [Bool.false_bne, List.any_cons, List.any_nil, Bool.or_false, Bool.or_eq_true, has_range_iff]
    exact or_comm
  exact hset ▸ Takes.set .exact false _

theorem takes_inner : Takes (run inner) (repetitions (chars isLabelChar) 0 (some 61)) := by
  have hchars : chars Char.isAlphanum + chars fun c => '-' = c = chars isLabelChar := by
    rw [chars_add]
    congr 1
    funext d
    exact congrArg (d.isAlphanum || ·) (decide_eq_decide.2 eq_comm)
  have h : Takes (run (.alt alphanumeric (.char .exact '-'))) (chars isLabelChar) :=
    hchars ▸ takes_alphanumeric.alt (.char .exact '-')
  exact h.group.repetition nil_not_mem_chars (by simp)

theorem takes_labelRest : Takes (run labelRest)
    (repetitions (repetitions (chars isLabelChar) 0 (some 61) * chars Char.isAlphanum) 0 (some 1)) :=
  (takes_inner.seq takes_alphanumeric).group.repetition (nil_not_mem_mul (.inr nil_not_mem_chars)) (by simp)

/-- A first character and what may follow it make up a label. -/
theorem chars_mul_eq_labels : chars Char.isAlphanum *
    repetitions (repetitions (chars isLabelChar) 0 (some 61) * chars Char.isAlphanum) 0 (some 1) = labels := by
  ext l
  simp only [mem_labels_iff, isLabel_iff_ends, mem_chars_mul_iff, mem_optional_iff, mem_mul_chars_iff,
    mem_repetitions_chars_iff, Nat.zero_le, true_and, Option.mem_some_iff, forall_eq']

theorem takes_moreLabels : Takes (run moreLabels) (repetitions ((chars fun c => '.' = c) * labels) 0 none) := by
  have hlabel : Takes (run (.seq alphanumeric labelRest)) labels :=
    chars_mul_eq_labels ▸ takes_alphanumeric.seq takes_labelRest
  exact ((Takes.char .exact '.').seq hlabel).group.repetition (nil_not_mem_mul (.inl nil_not_mem_chars)) nofun

theorem mem_repetitions_labels_iff : s ∈ repetitions ((chars fun c => '.' = c) * labels) 0 none ↔
    ∃ ls : List Text, s = ls.flatMap ('.' :: ·) ∧ ∀ l ∈ ls, isLabel l := by
  simp only [mem_star_iff, mem_chars_mul_iff, decide_eq_true_eq]
  constructor
  · rintro ⟨ws, rfl, hws⟩
    have hdot : ∀ w ∈ ws, '.' :: w.tail = w ∧ isLabel w.tail := by
      intro w hw
      obtain ⟨_, l, rfl, hl, rfl⟩ := hws w hw
      exact ⟨rfl, hl⟩
    refine ⟨ws.map List.tail, ?_, List.forall_mem_map.2 fun w hw => (hdot w hw).2⟩
    rw [List.flatMap_map, ← List.flatMap_id]
    exact List.flatMap_congr fun w hw => (hdot w hw).1.symm
  · rintro ⟨ls, rfl, hls⟩
    refine ⟨ls.map ('.' :: ·), List.flatMap_def, List.forall_mem_map.2 fun l hl => ?_⟩
    exact ⟨'.', l, rfl, hls l hl, rfl⟩

theorem mem_names_iff : s ∈ names ↔ ∀ l ∈ s.splitOn '.', isLabel l := by
  rw [forall_isLabel_splitOn_iff, names, Language.mem_mul]
  simp only [mem_repetitions_labels_iff]
  constructor
  · rintro ⟨l, hl, _, ⟨ls, rfl, hls⟩, rfl⟩
    refine ⟨l :: ls, List.cons_ne_nil l ls, ?_, List.forall_mem_cons.2 ⟨hl, hls⟩⟩
    exact (Text.join_cons_eq_append ['.'] l ls).symm
  · rintro ⟨labels, hne, rfl, h⟩
    obtain ⟨l, ls, rfl⟩ := List.exists_cons_of_ne_nil hne
    obtain ⟨hl, hls⟩ := List.forall_mem_cons.1 h
    exact ⟨l, hl, _, ⟨ls, rfl, hls⟩, (Text.join_cons_eq_append ['.'] l ls).symm⟩

theorem feed_not_mem_of_mem_names (h : s ∈ names) : '\n' ∉ s := by
  intro hfeed
  obtain ⟨l, hl, hmem⟩ := Text.mem_splitOn hfeed (by decide : '\n' ≠ '.')
  exact feed_not_mem_of_isLabel (mem_names_iff.1 h l hl) hmem

theorem finds_nameParts : Finds nameParts p ↔ Spans names p.after := by
  have h : ∀ q, Finds nameParts q ↔ Spans _ q.after := fun q =>
    finds_spans takes_alphanumeric fun _ => finds_spans takes_labelRest fun _ =>
      finds_spans takes_moreLabels fun _ => finds_lastLineEnd_spans
  rw [h, mul_one, ← mul_assoc, chars_mul_eq_labels, names]

theorem run_lengthCheck : run lengthCheck p ≠ [] ↔ Spans (repetitions (chars (· ≠ '\n')) 1 (some 253)) p.after := by
  have h : Finds [.repeated (.repeat (.any false) 1 (some 253) .greedy), .anchor (.anchor .lastLineEnd)] p ↔ _ :=
    finds_spans ((Takes.any false).repetition nil_not_mem_chars (by simp)) fun _ => finds_lastLineEnd_spans
  rwa [mul_one] at h

/-- The expression is found exactly in the hostnames. -/
theorem occursIn_expression (characters : CharNames) :
    ∃ r, Regex.read characters mode expression = .ok r ∧ ∀ s, r.occursIn s = isValid s := by
  refine ⟨_, read_expression characters, fun s => ?_⟩
  rw [Bool.eq_iff_iff, occursIn_textStart_iff, finds_ahead fun _ => finds_nameParts, run_lengthCheck, isValid_iff,
    spans_iff_of_no_feed, spans_iff_of_no_feed, mem_names_iff, mem_repetitions_chars_iff]
  -- the condition in front of the name asks for a length and for no line feeds, which no label has
  · constructor
    · rintro ⟨⟨hpos, hlength, -⟩, hlabels⟩
      exact ⟨hpos, hlength 253 rfl, hlabels⟩
    · rintro ⟨hpos, hlength, hlabels⟩
      refine ⟨⟨hpos, by simpa using hlength, fun c hc => decide_eq_true ?_⟩, hlabels⟩
      rintro rfl
      exact feed_not_mem_of_mem_names (mem_names_iff.2 hlabels) hc
  · exact fun w => feed_not_mem_of_mem_names
  · intro w hw hfeed
    exact absurd ((mem_repetitions_chars_iff.1 hw).2.2 '\n' hfeed) (by decide)

/-- A text without line feeds is a hostname exactly if it has 1 to 253 characters and is a list of labels, with at least
one of them, joined with dots; and exactly if it is not empty and the expression is found in it. -/
theorem isValid_iff_joined (characters : CharNames) (h : '\n' ∉ s) :
    (isValid s ↔ (1 ≤ s.length ∧ s.length ≤ 253) ∧
      ∃ labels : List Text, labels ≠ [] ∧ s = Text.join ['.'] labels ∧ ∀ l ∈ labels, Label l) ∧
    ∃ r, Regex.read characters mode expression = .ok r ∧ (isValid s ↔ s ≠ [] ∧ r.occursIn s) := by
  obtain ⟨r, hread, hoccurs⟩ := occursIn_expression characters
  refine ⟨?_, r, hread, ?_⟩
  · rw [isValid_iff_of_no_feed h, forall_isLabel_splitOn_iff, and_assoc]
    simp only [isLabel_iff_label]
  · rw [hoccurs]
    exact ⟨fun hs => ⟨ne_nil_of_isValid hs h, hs⟩, fun hs => hs.2⟩

/-- The longest label, and one with a hyphen between its ends. -/
theorem isValid_iff_joined_longLabel : '\n' ∉ Text.fill 'a' 63 ++ ".b-2".toList ∧
    isValid (Text.fill 'a' 63 ++ ".b-2".toList) ∧
      ∃ r, Regex.read (fun _ => none) mode expression = .ok r ∧ r.occursIn (Text.fill 'a' 63 ++ ".b-2".toList) := by
  have hfeed : '\n' ∉ Text.fill 'a' 63 ++ ".b-2".toList := by decide
  obtain ⟨hjoined, r, hread, hoccurs⟩ := isValid_iff_joined (fun _ => none) hfeed
  have hlabels : ∀ l ∈ [Text.fill 'a' 63, "b-2".toList], Label l := fun l hl =>
    isLabel_iff_label.1 (List.all_eq_true.1 (by decide) l hl)
  have hvalid := hjoined.2 ⟨by decide, _, List.cons_ne_nil _ _, rfl, hlabels⟩
  exact ⟨hfeed, hvalid, r, hread, (hoccurs.1 hvalid).2⟩

end Blocklist.Hostname
