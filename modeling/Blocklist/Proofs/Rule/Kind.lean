import Blocklist.Proofs.Hostname.Syntax
import Blocklist.Proofs.Rule.RoundTrip

/-!
# Kinds of lines

The kind of a line and what is read from it do not depend on the blanks around it. A hosts line has
nothing but an address and a zone before its first blank (`exists_blank_of_isHostsLine`), and a bare
domain has nothing but characters of a hostname; a rule with other characters in front is neither. `rulesOf`
takes the lines out of a list that are neither comments nor blank.
-/

namespace Blocklist

section
variable {c : Char} {line p s : Text}

theorem Text.trim_trim (s : Text) : s.trim.trim = s.trim := Text.trim_eq_self_iff.2 (Text.trimmed_trim s)

theorem isBlankText_trim (line : Text) : line.trim.isBlankText = line.isBlankText := by
  rw [Bool.eq_iff_iff, ← Text.trim_eq_nil_iff, ← Text.trim_eq_nil_iff, Text.trim_trim]

theorem isHostsLine_trim (line : Text) : isHostsLine line.trim = isHostsLine line := by
  rw [isHostsLine, isHostsLine, hostsAddress?, hostsAddress?, Text.trim_trim]

theorem isBareDomain_trim (line : Text) : isBareDomain line.trim = isBareDomain line := by
  rw [isBareDomain, isBareDomain, Text.trim_trim]

theorem HostsRule.read_trim_eq_ok_iff {r : HostsRule} : read line.trim = .ok r ↔ read line = .ok r := by
  rw [read, read, isHostsLine_trim, Text.trim_trim]
  split
  · cases Text.words (line.trim.takeWhile (· ≠ '#')) <;> simp
  · simp

theorem AdblockRule.read_trim_eq_ok_iff {r : AdblockRule} : read line.trim = .ok r ↔ read line = .ok r := by
  rw [read_eq_ok_iff, read_eq_ok_iff, Text.trim_trim]

theorem AdblockRule.read?_eq_some_iff {r : AdblockRule} : read? line = some r ↔ read line = .ok r := by
  rw [read?]
  cases read line <;> simp

theorem AdblockRule.mem_trim_of_mem_pattern {r : AdblockRule} (h : read line = .ok r) (hc : c ∈ r.pattern) :
    c ∈ line.trim := by
  obtain ⟨-, body, htrim, -, hbody⟩ := read_eq_ok_iff.1 h
  rw [htrim]
  exact List.mem_append_right _ ((prefix_of_readBody hbody).subset hc)

theorem AdblockRule.mem_of_mem_pattern {r : AdblockRule} (h : read line = .ok r) (hc : c ∈ r.pattern) : c ∈ line :=
  Text.mem_of_mem_trim (mem_trim_of_mem_pattern h hc)

theorem isCommentOrBlank_eq_false (htrim : line.trim = c :: s) (hmark : c ≠ '!') (hhash : c ≠ '#') :
    isCommentOrBlank line = false := by
  rw [isCommentOrBlank, Bool.or_eq_false_iff]
  constructor
  · rw [← isBlankText_trim, htrim, Text.isBlankText, List.all_cons, (Text.trimmed_trim line).1 c (by rw [htrim]; rfl)]
    rfl
  · rw [isComment, htrim]
    split
    · rename_i hcons
      exact absurd (List.cons.inj hcons).1 hmark
    · rename_i hcons
      exact absurd (List.cons.inj hcons).1 hhash
    · rfl

theorem Line.read_eq_adblock {r : AdblockRule} (hcomment : isCommentOrBlank line = false)
    (hhosts : isHostsLine line = false) (hr : AdblockRule.read line = .ok r) : read line = .ok (.adblock r) := by
  rw [isCommentOrBlank, Bool.or_eq_false_iff] at hcomment
  exact read_eq_adblock_iff.2 ⟨by simp [hcomment.1], by simp [hcomment.2], by simp [hhosts], hr⟩

theorem AdblockRule.isRegexPattern_eq_false (h : p.head? ≠ some '/') : isRegexPattern p = false := by
  simp [isRegexPattern, h]

/-! ### Hosts lines -/

theorem HostsRule.read_error_iff : (∃ e, read line = .error e) ↔ isHostsLine line = false := by
  rw [← Bool.not_eq_true, isHostsLine_iff_exists_read]
  cases read line <;> simp

theorem isCommentOrBlank_of_isHostsLine (h : isHostsLine line) : isCommentOrBlank line = false := by
  obtain ⟨a, haddress, -⟩ := isHostsLine_iff.1 h
  obtain ⟨hne, ha, z, t, htrim, -⟩ := eq_append_of_hostsAddress? haddress
  obtain ⟨c, a, rfl⟩ := List.exists_cons_of_ne_nil hne
  have hc : isAddressChar c := ha c (List.mem_cons_self ..)
  refine isCommentOrBlank_eq_false htrim ?_ ?_
  · rintro rfl
    exact absurd hc (by decide)
  · rintro rfl
    exact absurd hc (by decide)

/-- Before its first blank, a hosts line has an address and a zone. -/
theorem exists_blank_of_isHostsLine (h : isHostsLine line) :
    ∃ w b t, line.trim = w ++ b :: t ∧ isBlank b ∧ ∀ c ∈ w, isAddressChar c ∨ c = '%' ∨ c.isAlphanum := by
  obtain ⟨a, haddress, -⟩ := isHostsLine_iff.1 h
  obtain ⟨-, ha, z, t, htrim, hz, ht⟩ := eq_append_of_hostsAddress? haddress
  obtain ⟨b, t, rfl, hb⟩ := eq_cons_of_isHostsTail ht
  refine ⟨a ++ z, b, t, by rw [htrim, List.append_assoc], hb, fun c hc => ?_⟩
  rcases List.mem_append.1 hc with hc | hc
  · exact .inl (ha c hc)
  rcases hz with rfl | ⟨w, -, rfl, hw⟩
  · cases hc
  · exact .inr ((List.mem_cons.1 hc).imp_right (hw c))

/-- A rule is no hosts line if something else than an address is in front of its first blank. -/
theorem isHostsLine_eq_false (htrim : line.trim = p ++ c :: s) (hp : ∀ d ∈ p, isBlank d = false)
    (hblank : isBlank c = false) (hc : isAddressChar c = false) (hzone : c ≠ '%') (hword : c.isAlphanum = false) :
    isHostsLine line = false := by
  rw [Bool.eq_false_iff]
  intro h
  obtain ⟨w, b, t, hw, hb, hall⟩ := exists_blank_of_isHostsLine h
  rw [htrim] at hw
  have hnot : c ∉ w := by
    intro hmem
    rcases hall c hmem with h | h | h
    · rw [hc] at h
      cases h
    · exact hzone h
    · rw [hword] at h
      cases h
  rcases List.append_eq_append_iff.1 hw with ⟨u, hu, hrest⟩ | ⟨u, hu, hrest⟩
  · cases u with
    | nil =>
      obtain rfl := (List.cons.inj hrest).1
      rw [hblank] at hb
      cases hb
    | cons d u =>
      obtain rfl := (List.cons.inj hrest).1
      exact hnot (hu ▸ List.mem_append_right _ (List.mem_cons_self ..))
  · cases u with
    | nil =>
      obtain rfl := (List.cons.inj hrest).1
      rw [hblank] at hb
      cases hb
    | cons d u =>
      obtain rfl := (List.cons.inj hrest).1
      have hd := hp b (hu ▸ List.mem_append_right _ (List.mem_cons_self ..))
      rw [hb] at hd
      cases hd

/-! ### Bare domains -/

/-- A bare domain has label characters and dots only, up to a line feed. -/
theorem isBareDomain_eq_false (hmem : c ∈ line.trim) (hc : Hostname.isLabelChar c = false) (hdot : c ≠ '.')
    (hfeed : c ≠ '\n') : isBareDomain line = false := by
  rw [Bool.eq_false_iff]
  intro h
  obtain ⟨-, hvalid⟩ := Bool.and_eq_true_iff.1 h
  have hstart : c ∈ Text.dropEndWhile (· = '.') line.trim := by
    obtain ⟨b, hb, hall⟩ := Text.eq_dropEndWhile_append (· = '.') line.trim
    rw [hb] at hmem
    rcases List.mem_append.1 hmem with h | h
    · exact h
    · exact absurd (of_decide_eq_true (hall c h)) hdot
  exact Hostname.not_mem_of_isValid hvalid hc hdot hfeed hstart

theorem isBareDomain_of_mem_pattern {r : AdblockRule} (hr : AdblockRule.read line = .ok r) (hmem : c ∈ r.pattern)
    (hc : Hostname.isLabelChar c = false) (hdot : c ≠ '.') (hfeed : c ≠ '\n') : isBareDomain line = false :=
  isBareDomain_eq_false (AdblockRule.mem_trim_of_mem_pattern hr hmem) hc hdot hfeed

/-- A bare domain has no modifiers. -/
theorem isBareDomain_of_modifiers {r : AdblockRule} (hr : AdblockRule.read line = .ok r) (hne : r.modifiers ≠ []) :
    isBareDomain line = false := by
  obtain ⟨-, body, htrim, -, hbody⟩ := AdblockRule.read_eq_ok_iff.1 hr
  refine isBareDomain_eq_false (c := '$') ?_ (by decide) (by decide) (by decide)
  rw [htrim]
  obtain ⟨-, -, hnil⟩ | ⟨-, o, rfl, -⟩ := AdblockRule.of_readBody hbody
  · exact absurd hnil hne
  · exact List.mem_append_right _ (List.mem_append_right _ (List.mem_cons_self ..))

end

/-! ### Lists -/

section
variable {l : Text} {lines : List Text}

/-- The lines of a list that are neither comments nor blank. -/
def rulesOf (lines : List Text) : List Text := lines.filter (!isCommentOrBlank ·)

theorem rulesOf_cons_of_comment (h : isCommentOrBlank l) : rulesOf (l :: lines) = rulesOf lines :=
  List.filter_cons_of_neg (by simp [h])

theorem rulesOf_cons_of_rule (h : isCommentOrBlank l = false) : rulesOf (l :: lines) = l :: rulesOf lines :=
  List.filter_cons_of_pos (by simp [h])

theorem rulesOf_append (lines more : List Text) : rulesOf (lines ++ more) = rulesOf lines ++ rulesOf more :=
  List.filter_append ..

theorem rulesOf_map {g : Text → Text} (hg : ∀ l, isCommentOrBlank l → g l = l) (lines : List Text) :
    rulesOf (lines.map g) = rulesOf ((rulesOf lines).map g) := by
  induction lines with
  | nil => rfl
  | cons l lines ih =>
    cases hl : isCommentOrBlank l with
    | true =>
      rw [List.map_cons, hg l hl, rulesOf_cons_of_comment hl, rulesOf_cons_of_comment hl]
      exact ih
    | false =>
      rw [List.map_cons, rulesOf_cons_of_rule hl, List.map_cons]
      cases hgl : isCommentOrBlank (g l) with
      | true => rw [rulesOf_cons_of_comment hgl, rulesOf_cons_of_comment hgl, ih]
      | false => rw [rulesOf_cons_of_rule hgl, rulesOf_cons_of_rule hgl, ih]

end

end Blocklist
