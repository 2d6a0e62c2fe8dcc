import Blocklist.Compile.Header
import Blocklist.Proofs.Text.Basic
import Mathlib.Data.List.TakeDrop

/-!
# Where the checksum of a list stands

`insert` puts a line at the place `place lines`, and the checksum of a list is that of the list with its checksum
line (`checksum_addChecksum`).
-/

namespace Blocklist.Header

variable {l new : Text} {lines : List Text}

/-- How many lines stand before the checksum of a list. -/
def place (lines : List Text) : Nat :=
  let i := lines.findIdx (Text.contains compiledBy ·)
  if i < lines.length then if (lines.take i).getLast? = some bare then i - 1 else i
  else lines.findIdx isRule

theorem span_eq_take_drop (f : Text → Bool) (lines : List Text) :
    lines.span (fun l => !f l) = (lines.take (lines.findIdx f), lines.drop (lines.findIdx f)) := by
  rw [List.span_eq_takeWhile_dropWhile, List.takeWhile_eq_take_findIdx_not, List.dropWhile_eq_drop_findIdx_not]
  simp only [Bool.not_not]

theorem insert_eq (new : Text) (lines : List Text) :
    insert new lines = lines.take (place lines) ++ new :: lines.drop (place lines) := by
  rw [insert, place, span_eq_take_drop (Text.contains compiledBy ·), span_eq_take_drop isRule]
  generalize lines.findIdx (Text.contains compiledBy ·) = i
  by_cases hi : i < lines.length
  · rw [if_pos hi]
    obtain ⟨a, after, hafter⟩ : ∃ a after, lines.drop i = a :: after := ⟨_, _, List.drop_eq_getElem_cons hi⟩
    simp only [hafter]
    by_cases hbare : (lines.take i).getLast? = some bare
    · obtain ⟨header, hheader⟩ := List.getLast?_eq_some_iff.1 hbare
      have hlength : header.length = i - 1 := by
        have := congrArg List.length hheader
        rw [List.length_take_of_le (Nat.le_of_lt hi), List.length_append, List.length_singleton] at this
        omega
      have hlines : lines = header ++ bare :: a :: after := by
        rw [← List.take_append_drop i lines, hheader, hafter, List.append_assoc]
        rfl
      rw [if_pos hbare, if_pos hbare, hheader, List.dropLast_concat, ← hlength, hlines, List.take_left, List.drop_left]
    · rw [if_neg hbare, if_neg hbare, hafter]
  · rw [if_neg hi, List.drop_eq_nil_of_le (Nat.le_of_not_lt hi)]

theorem place_le (lines : List Text) : place lines ≤ lines.length := by
  rw [place]
  split
  · split
    · exact Nat.le_trans (Nat.sub_le ..) List.findIdx_le_length
    · exact List.findIdx_le_length
  · exact List.findIdx_le_length

/-- The checksum stands at the end exactly if no line names the program and no line is a rule. -/
theorem place_eq_length_iff :
    place lines = lines.length ↔ ∀ l ∈ lines, Text.contains compiledBy l = false ∧ isRule l = false := by
  rw [forall₂_and, ← List.findIdx_eq_length, ← List.findIdx_eq_length, place]
  have hle : lines.findIdx (Text.contains compiledBy ·) ≤ lines.length := List.findIdx_le_length
  split
  · rename_i hlt
    refine iff_of_false ?_ fun h => Nat.ne_of_lt hlt h.1
    split <;> omega
  · rename_i hge
    exact (and_iff_right (Nat.le_antisymm hle (Nat.le_of_not_lt hge))).symm

/-- A line goes into the header if that names the program. -/
theorem insert_append {header : List Text} (h : ∃ l ∈ header, Text.contains compiledBy l) (new : Text)
    (rules : List Text) :
    ∃ before after, header = before ++ after ∧ insert new (header ++ rules) = before ++ new :: (after ++ rules) := by
  have hlt := List.findIdx_lt_length.2 h
  have hplace : place (header ++ rules) ≤ header.length := by
    have hlength : header.length ≤ (header ++ rules).length := List.length_append ▸ Nat.le_add_right ..
    rw [place, List.findIdx_append, if_pos hlt, if_pos (Nat.lt_of_lt_of_le hlt hlength)]
    split
    · exact Nat.le_trans (Nat.sub_le ..) (Nat.le_of_lt hlt)
    · exact Nat.le_of_lt hlt
  refine ⟨header.take (place (header ++ rules)), header.drop (place (header ++ rules)),
    (List.take_append_drop ..).symm, ?_⟩
  rw [insert_eq, List.take_append_of_le_length hplace, List.drop_append_of_le_length hplace]

/-- Without the line at its place, a list is as it was before. -/
theorem eraseIdx_insert (new : Text) (lines : List Text) : (insert new lines).eraseIdx (place lines) = lines := by
  have hlength : (lines.take (place lines)).length = place lines := List.length_take_of_le (place_le lines)
  rw [insert_eq, List.eraseIdx_append_of_length_le (Nat.le_of_eq hlength), hlength, Nat.sub_self]
  exact List.take_append_drop ..

/-! ### Checksums -/

theorem getElem?_addChecksum (lines : List Text) : (addChecksum lines)[place lines]? = some (checksumLine lines) := by
  have hlength : (lines.take (place lines)).length = place lines := List.length_take_of_le (place_le lines)
  rw [addChecksum, insert_eq, List.getElem?_append_right (Nat.le_of_eq hlength), hlength, Nat.sub_self]
  rfl

theorem startsWith_checksumLine (lines : List Text) : Text.startsWith checksumLabel (checksumLine lines) :=
  Text.startsWith_iff.2 (List.prefix_append ..)

/-- The checksum of a list is that of the list with its checksum line. -/
theorem checksum_addChecksum (lines : List Text) : checksum (addChecksum lines) = checksum lines := by
  have hfilter : (addChecksum lines).filter (fun l => !Text.startsWith checksumLabel l) =
      lines.filter fun l => !Text.startsWith checksumLabel l := by
    rw [addChecksum, insert_eq, List.filter_append, List.filter_cons_of_neg (by simp [startsWith_checksumLine]),
      ← List.filter_append, List.take_append_drop]
  rw [checksum, hfilter]
  rfl

end Blocklist.Header
