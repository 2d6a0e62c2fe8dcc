import Blocklist.Output.Format
import Blocklist.Proofs.Compile.Header
import Blocklist.Proofs.Text.Case

/-!
# The checksum of a written list

A list is hashed as lines with line feeds between them, but it is written with a line feed at its end. So the text
without its checksum line tells the list up to an empty line at the end (`checksumLine_of_file`), and lists that
differ in that line alone have different checksums (`checksumLine_of_final_line`).
-/

namespace Blocklist

/-- A text without its line `n`, counted from zero. -/
def Text.withoutLine (n : Nat) (s : Text) : Text := Text.join ['\n'] ((s.splitOn '\n').eraseIdx n)

theorem Base64.toNat_digit (n : Nat) : 0x2B ≤ (digit n).toNat := by
  have hcode {m : Nat} (hm : 0x2B ≤ m) (hm' : m < 0x80) : 0x2B ≤ (Char.ofNat m).toNat := by
    rw [toNat_ofNat_toNat (.inl (by omega))]
    exact hm
  rw [digit]
  split
  · exact hcode (by omega) (by omega)
  split
  · exact hcode (by omega) (by omega)
  split
  · exact hcode (by omega) (by omega)
  split <;> decide

theorem Base64.toNat_of_mem_encode {c : Char} {octets : List UInt8} (h : c ∈ encode octets) : 0x2B ≤ c.toNat := by
  fun_induction encode octets with
  | case1 => cases h
  | case2 a n =>
    simp only [List.mem_cons, List.not_mem_nil, or_false] at h
    rcases h with rfl | rfl | rfl | rfl
    all_goals first | exact toNat_digit _ | decide
  | case3 a b n =>
    simp only [List.mem_cons, List.not_mem_nil, or_false] at h
    rcases h with rfl | rfl | rfl | rfl
    all_goals first | exact toNat_digit _ | decide
  | case4 a b c rest n ih =>
    simp only [List.mem_cons] at h
    rcases h with rfl | rfl | rfl | rfl | h
    · exact toNat_digit _
    · exact toNat_digit _
    · exact toNat_digit _
    · exact toNat_digit _
    · exact ih h

namespace Header
open Output

variable {lines lines₁ lines₂ : List Text}

theorem feed_not_mem_checksumLine (lines : List Text) : '\n' ∉ checksumLine lines := by
  have hlabel : '\n' ∉ checksumLabel := by decide
  simp only [checksumLine, List.mem_append, List.mem_cons, not_or]
  refine ⟨hlabel, by decide, fun hmem => ?_⟩
  have := Base64.toNat_of_mem_encode (List.mem_of_mem_take hmem)
  exact absurd this (by decide)

theorem feed_not_mem_addChecksum (h : ∀ l ∈ lines, '\n' ∉ l) : ∀ l ∈ addChecksum lines, '\n' ∉ l := by
  intro l hl
  rw [addChecksum, insert_eq] at hl
  rcases List.mem_append.1 hl with hl | hl
  · exact h l (List.mem_of_mem_take hl)
  rcases List.mem_cons.1 hl with rfl | hl
  · exact feed_not_mem_checksumLine lines
  · exact h l (List.mem_of_mem_drop hl)

/-- The lines of the text of a list: there is an empty one at the end. -/
def closed (lines : List Text) : List Text := if lines.getLast? = some [] then lines else lines ++ [[]]

theorem listText_of_feed (h : (Text.join ['\n'] lines).getLast? = some '\n') :
    listText lines = Text.join ['\n'] lines := by
  simp [listText, h]

theorem listText_of_not_feed (hne : Text.join ['\n'] lines ≠ []) (h : (Text.join ['\n'] lines).getLast? ≠ some '\n') :
    listText lines = Text.join ['\n'] lines ++ ['\n'] := by
  simp [listText, hne, h]

theorem listText_eq_join (h : ∀ l ∈ lines, '\n' ∉ l) (hne : ∃ l ∈ lines, l ≠ []) :
    listText lines = Text.join ['\n'] (closed lines) := by
  obtain ⟨l, hl, hl'⟩ := hne
  rcases List.eq_nil_or_concat lines with rfl | ⟨pieces, last, rfl⟩
  · cases hl
  rw [List.concat_eq_append] at h hl ⊢
  rw [closed, List.getLast?_concat]
  by_cases hlast : last = []
  · subst hlast
    have hpieces : pieces ≠ [] := by
      rintro rfl
      exact hl' (List.mem_singleton.1 hl)
    rw [if_pos rfl]
    refine listText_of_feed ?_
    rw [Text.join_concat hpieces, List.append_nil, List.getLast?_concat]
  · obtain ⟨s, hs⟩ : ∃ s, Text.join ['\n'] (pieces ++ [last]) = s ++ last := by
      by_cases hpieces : pieces = []
      · exact ⟨[], by rw [hpieces]; rfl⟩
      · exact ⟨_, (Text.join_concat hpieces last).trans (List.append_assoc ..).symm⟩
    rw [if_neg fun heq => hlast (Option.some.inj heq), Text.join_concat (List.concat_ne_nil _ _)]
    refine listText_of_not_feed ?_ ?_
    · rw [hs]
      exact List.append_ne_nil_of_right_ne_nil s hlast
    · rw [hs, List.getLast?_append_of_ne_nil _ hlast]
      exact fun hfeed => h last (List.mem_append_right _ (List.mem_singleton_self _)) (List.mem_of_getLast? hfeed)

theorem splitOn_file (o : Options) (h : ∀ l ∈ lines, '\n' ∉ l) :
    (file .adblock o (addChecksum lines)).splitOn '\n' = closed (addChecksum lines) := by
  have hmem : checksumLine lines ∈ addChecksum lines := by
    rw [addChecksum, insert_eq]
    exact List.mem_append_right _ (List.mem_cons_self ..)
  have hfeed := feed_not_mem_addChecksum h
  have htext : file .adblock o (addChecksum lines) = Text.join ['\n'] (closed (addChecksum lines)) :=
    listText_eq_join hfeed ⟨_, hmem, List.append_ne_nil_of_left_ne_nil (by decide) _⟩
  rw [htext, Text.splitOn_join]
  · rw [closed]
    split
    · exact List.ne_nil_of_mem hmem
    · exact List.concat_ne_nil _ _
  · intro l hl
    rw [closed] at hl
    split at hl
    · exact hfeed l hl
    · rcases List.mem_append.1 hl with hl | hl
      · exact hfeed l hl
      · exact List.mem_singleton.1 hl ▸ List.not_mem_nil

/-- A list that ends with an empty line, and not with its checksum line after that. -/
def EndsEmpty (lines : List Text) : Prop := lines.getLast? = some [] ∧ place lines ≠ lines.length

instance : DecidablePred EndsEmpty := fun _ => inferInstanceAs (Decidable (_ ∧ _))

theorem getLast?_addChecksum (lines : List Text) : (addChecksum lines).getLast? = some [] ↔ EndsEmpty lines := by
  rw [addChecksum, insert_eq, List.getLast?_append_cons, EndsEmpty]
  by_cases hplace : place lines = lines.length
  · have hne : checksumLine lines ≠ [] := List.append_ne_nil_of_left_ne_nil (by decide) _
    rw [hplace, List.drop_length, List.getLast?_singleton]
    simp [hne]
  · have hlt : place lines < lines.length := Nat.lt_of_le_of_ne (place_le lines) hplace
    have hdrop : lines.drop (place lines) ≠ [] := by
      rw [ne_eq, List.drop_eq_nil_iff]
      exact Nat.not_le_of_lt hlt
    rw [List.getLast?_cons_of_ne_nil hdrop, List.getLast?_drop, if_neg (Nat.not_le_of_lt hlt)]
    simp [hplace]

/-- The lines of the text of a list without its checksum line. -/
def written (lines : List Text) : List Text := if EndsEmpty lines then lines else lines ++ [[]]

theorem withoutLine_file (o : Options) (h : ∀ l ∈ lines, '\n' ∉ l) :
    Text.withoutLine (place lines) (file .adblock o (addChecksum lines)) = Text.join ['\n'] (written lines) := by
  have herase : (addChecksum lines).eraseIdx (place lines) = lines := eraseIdx_insert _ lines
  rw [Text.withoutLine, splitOn_file o h, closed, written]
  by_cases hend : EndsEmpty lines
  · rw [if_pos ((getLast?_addChecksum lines).2 hend), if_pos hend, herase]
  · have hlt : place lines < (addChecksum lines).length := (List.getElem?_eq_some_iff.1 (getElem?_addChecksum lines)).1
    rw [if_neg (mt (getLast?_addChecksum lines).1 hend), if_neg hend, List.eraseIdx_append_of_lt_length hlt, herase]

theorem splitOn_written (h : ∀ l ∈ lines, '\n' ∉ l) :
    (Text.join ['\n'] (written lines)).splitOn '\n' = written lines := by
  refine Text.splitOn_join ?_ ?_
  · rw [written]
    split
    · rename_i hend
      rintro rfl
      cases hend.1
    · exact List.concat_ne_nil _ _
  · intro l hl
    rw [written] at hl
    split at hl
    · exact h l hl
    · rcases List.mem_append.1 hl with hl | hl
      · exact h l hl
      · exact List.mem_singleton.1 hl ▸ List.not_mem_nil

/-- An empty line at the end does not change whether the checksum stands at the end. -/
theorem place_concat_nil :
    place (lines ++ [[]]) = (lines ++ [[]]).length ↔ place lines = lines.length := by
  rw [place_eq_length_iff, place_eq_length_iff, List.forall_mem_append, List.forall_mem_singleton]
  exact and_iff_left ⟨rfl, rfl⟩

theorem eq_of_written_eq (h : written lines₁ = written lines₂) :
    lines₁ = lines₂ ∨ lines₁ = lines₂ ++ [[]] ∨ lines₂ = lines₁ ++ [[]] := by
  rw [written, written] at h
  split at h <;> split at h
  · exact .inl h
  · exact .inr (.inl h)
  · exact .inr (.inr h.symm)
  · exact .inl (List.append_cancel_right h)

theorem written_concat_nil (h : lines.getLast? = some []) : written (lines ++ [[]]) = written lines ++ [[]] := by
  have hend : EndsEmpty (lines ++ [[]]) ↔ EndsEmpty lines := by
    rw [EndsEmpty, EndsEmpty, ne_eq, place_concat_nil, List.getLast?_concat, h]
  rw [written, written]
  by_cases hlines : EndsEmpty lines
  · rw [if_pos (hend.2 hlines), if_pos hlines]
  · rw [if_neg (mt hend.1 hlines), if_neg hlines]

/-- Lists that both end with an empty line, or neither of them, are written differently. -/
theorem eq_of_written_eq_of_iff (h : written lines₁ = written lines₂)
    (hlast : lines₁.getLast? = some [] ↔ lines₂.getLast? = some []) : lines₁ = lines₂ := by
  have hlonger (lines : List Text) : written lines ++ [[]] ≠ written lines := by
    intro heq
    have := congrArg List.length heq
    rw [List.length_append, List.length_singleton] at this
    omega
  rcases eq_of_written_eq h with heq | rfl | rfl
  · exact heq
  · rw [written_concat_nil (hlast.1 List.getLast?_concat)] at h
    exact absurd h (hlonger lines₂)
  · rw [written_concat_nil (hlast.2 List.getLast?_concat)] at h
    exact absurd h.symm (hlonger lines₁)

/-- The text of a list without its checksum line tells the list up to an empty line at its end. So it tells the
checksum line among the lists that end with an empty line, and among those that do not. -/
theorem checksumLine_of_file (o₁ o₂ : Options) (h₁ : ∀ l ∈ lines₁, '\n' ∉ l) (h₂ : ∀ l ∈ lines₂, '\n' ∉ l)
    (heq : Text.withoutLine (place lines₁) (file .adblock o₁ (addChecksum lines₁)) =
      Text.withoutLine (place lines₂) (file .adblock o₂ (addChecksum lines₂))) :
    (lines₁ = lines₂ ∨ lines₁ = lines₂ ++ [[]] ∨ lines₂ = lines₁ ++ [[]]) ∧
      ((lines₁.getLast? = some [] ↔ lines₂.getLast? = some []) → checksumLine lines₁ = checksumLine lines₂) := by
  rw [withoutLine_file o₁ h₁, withoutLine_file o₂ h₂] at heq
  have hwritten : written lines₁ = written lines₂ := by
    rw [← splitOn_written h₁, heq, splitOn_written h₂]
  refine ⟨eq_of_written_eq hwritten, fun hlast => ?_⟩
  rw [eq_of_written_eq_of_iff hwritten hlast]

theorem checksumLine_of_file_one_more :
    let lines : List Text := ["||a.com^".toList]
    lines = lines ++ [[]] ∨ lines = lines ++ [[]] ++ [[]] ∨ lines ++ [[]] = lines ++ [[]] :=
  let o : Options := { generated := ⟨2024, 1, 2, 3, 4, 5, 0, 0⟩ }
  (checksumLine_of_file o o (by decide) (by decide) (by decide +kernel)).1

/-- Lists that are written alike and have different checksums. -/
theorem checksumLine_of_final_line :
    let o : Options := { generated := ⟨2024, 1, 2, 3, 4, 5, 0, 0⟩ }
    let lines : List Text := ["||a.com^".toList]
    (∀ l ∈ lines ++ [[]], '\n' ∉ l) ∧
      Text.withoutLine (place lines) (file .adblock o (addChecksum lines)) =
        Text.withoutLine (place (lines ++ [[]])) (file .adblock o (addChecksum (lines ++ [[]]))) ∧
      checksumLine lines ≠ checksumLine (lines ++ [[]]) := by
  decide +kernel

end Header
end Blocklist
