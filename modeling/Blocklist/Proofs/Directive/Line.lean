import Blocklist.Directive.Line
import Blocklist.Proofs.Text.Basic

/-!
# Telling directives apart

No mark starts with another one, and so a line is the directive whose mark it starts with:
`of?_of_opening` and its companions say so mark by mark, `of?_eq_none_iff` says what content is.
-/

namespace Blocklist.Directive
variable {line r : Text}

/-- The marks, one for each kind of directive. -/
def marks : List Text := [openingMark, alternativeMark, closingMark, inclusionMark, safariMark]

theorem of?_of_opening (h : line.trim = openingMark ++ r) : of? line = some (.opening (Text.trim r)) := by
  simp only [of?, h, Text.dropPrefix?_append]

theorem of?_of_alternative (h : alternativeMark <+: line.trim) : of? line = some .alternative := by
  obtain ⟨r, h⟩ := h
  have ho : Text.dropPrefix? openingMark (alternativeMark ++ r) = none := rfl
  have ha : Text.startsWith alternativeMark (alternativeMark ++ r) := Text.startsWith_iff.2 ⟨r, rfl⟩
  simp only [of?, ← h, ho, ha, if_true]

theorem of?_of_closing (h : closingMark <+: line.trim) : of? line = some .closing := by
  obtain ⟨r, h⟩ := h
  have ho : Text.dropPrefix? openingMark (closingMark ++ r) = none := rfl
  have ha : Text.startsWith alternativeMark (closingMark ++ r) = false := rfl
  have hc : Text.startsWith closingMark (closingMark ++ r) := Text.startsWith_iff.2 ⟨r, rfl⟩
  simp only [of?, ← h, ho, ha, hc, Bool.false_eq_true, if_false, if_true]

theorem of?_of_inclusion (h : line.trim = inclusionMark ++ r) :
    of? line = some (.inclusion (Text.trim r)) := by
  have ho : Text.dropPrefix? openingMark (inclusionMark ++ r) = none := rfl
  have ha : Text.startsWith alternativeMark (inclusionMark ++ r) = false := rfl
  have hc : Text.startsWith closingMark (inclusionMark ++ r) = false := rfl
  simp only [of?, h, ho, ha, hc, Text.dropPrefix?_append, Bool.false_eq_true, if_false]

theorem of?_of_safari (h : line.trim = safariMark ++ r) : of? line = some (.safari (r = [])) := by
  have ho : Text.dropPrefix? openingMark (safariMark ++ r) = none := rfl
  have ha : Text.startsWith alternativeMark (safariMark ++ r) = false := rfl
  have hc : Text.startsWith closingMark (safariMark ++ r) = false := rfl
  have hi : Text.dropPrefix? inclusionMark (safariMark ++ r) = none := rfl
  simp only [of?, h, ho, ha, hc, hi, Text.dropPrefix?_append, Bool.false_eq_true, if_false,
    Option.map_some]

/-- Content is what starts with no mark. -/
theorem of?_eq_none_iff : of? line = none ↔ ∀ m ∈ marks, ¬ m <+: line.trim := by
  simp only [marks, List.forall_mem_cons, List.not_mem_nil, false_implies, implies_true, and_true]
  constructor
  · intro h
    refine ⟨?_, ?_, ?_, ?_, ?_⟩
    · rintro ⟨r, hr⟩; simp [of?_of_opening hr.symm] at h
    · intro hr; simp [of?_of_alternative hr] at h
    · intro hr; simp [of?_of_closing hr] at h
    · rintro ⟨r, hr⟩; simp [of?_of_inclusion hr.symm] at h
    · rintro ⟨r, hr⟩; simp [of?_of_safari hr.symm] at h
  · rintro ⟨ho, ha, hc, hi, hs⟩
    have ho := Text.dropPrefix?_eq_none_iff.2 ho
    have hi := Text.dropPrefix?_eq_none_iff.2 hi
    have hs := Text.dropPrefix?_eq_none_iff.2 hs
    have ha := Text.startsWith_eq_false_iff.2 ha
    have hc := Text.startsWith_eq_false_iff.2 hc
    simp only [of?, ho, hi, hs, ha, hc, Bool.false_eq_true, if_false, Option.map_none]

/-- What stands on the line of a directive. -/
theorem of_of? {d : Directive} (h : of? line = some d) :
    (∃ r, line.trim = openingMark ++ r ∧ d = .opening r.trim) ∨ (alternativeMark <+: line.trim ∧ d = .alternative) ∨
      (closingMark <+: line.trim ∧ d = .closing) ∨
      (∃ r, line.trim = inclusionMark ++ r ∧ d = .inclusion r.trim) ∨
      ∃ r, line.trim = safariMark ++ r ∧ d = .safari (r = []) := by
  rw [of?] at h
  split at h
  · rename_i r hr
    exact .inl ⟨r, Text.dropPrefix?_eq_some_iff.1 hr, (Option.some.inj h).symm⟩
  split at h
  · rename_i ha
    exact .inr (.inl ⟨Text.startsWith_iff.1 ha, (Option.some.inj h).symm⟩)
  split at h
  · rename_i hc
    exact .inr (.inr (.inl ⟨Text.startsWith_iff.1 hc, (Option.some.inj h).symm⟩))
  split at h
  · rename_i r hr
    exact .inr (.inr (.inr (.inl ⟨r, Text.dropPrefix?_eq_some_iff.1 hr, (Option.some.inj h).symm⟩)))
  · obtain ⟨r, hr, hd⟩ := Option.map_eq_some_iff.1 h
    exact .inr (.inr (.inr (.inr ⟨r, Text.dropPrefix?_eq_some_iff.1 hr, hd.symm⟩)))

theorem safariMark_prefix_of {closes : Bool} (h : of? line = some (.safari closes)) :
    safariMark <+: line.trim := by
  rcases of_of? h with ⟨r, -, hd⟩ | ⟨-, hd⟩ | ⟨-, hd⟩ | ⟨r, -, hd⟩ | ⟨r, hr, -⟩
  · cases hd
  · cases hd
  · cases hd
  · cases hd
  · exact ⟨r, hr.symm⟩

end Blocklist.Directive
