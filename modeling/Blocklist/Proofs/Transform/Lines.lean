import Blocklist.Proofs.Rule.Kind
import Blocklist.Transform.Lines

/-!
# Rules without removable modifiers

`read_stripLine_iff`: a rule loses its removable modifiers and nothing else exactly if what is left of it can be read
from its written form. A dollar sign of the pattern that stood before the modifiers may come to set off others, and
then even removable ones may be there again.
-/

namespace Blocklist.Transform

variable {l : Text} {r : AdblockRule}

/-- The rule without its removable modifiers. -/
def stripped (r : AdblockRule) : AdblockRule := { r with modifiers := r.modifiers.filter (!isRemovable ·) }

theorem isRemovable_of_mem_stripped {m : Modifier} (hm : m ∈ (stripped r).modifiers) : isRemovable m = false := by
  simpa using (List.mem_filter.1 hm).2

theorem stripped_eq_self (h : r.modifiers.any isRemovable = false) : stripped r = r := by
  have hkept : r.modifiers.filter (!isRemovable ·) = r.modifiers := by
    rw [List.filter_eq_self]
    intro m hm
    rw [List.any_eq_false] at h
    simpa using h m hm
  rw [stripped, hkept]

theorem proper_stripped (hr : r.Proper) : (stripped r).Proper := hr.of_subset (List.filter_subset_self _)

theorem stripLine_of_read (h : Line.read l = .ok (.adblock r)) :
    stripLine l = if r.modifiers.any isRemovable then (stripped r).text else l := by
  obtain ⟨hblank, hcomment, hhosts, hread⟩ := Line.read_eq_adblock_iff.1 h
  rw [Bool.not_eq_true] at hblank hcomment hhosts
  rw [stripLine, isCommentOrBlank, hblank, hcomment, hhosts, AdblockRule.read?_eq_some_iff.2 hread]
  rfl

/-- A line stays as it is if reading it gives no removable modifier. -/
theorem stripLine_eq_self (h : AdblockRule.read l = .ok r) (hms : ∀ m ∈ r.modifiers, isRemovable m = false) :
    stripLine l = l := by
  have hnone : r.modifiers.any isRemovable = false := by simpa using hms
  rw [stripLine, AdblockRule.read?_eq_some_iff.2 h]
  simp [hnone]

/-- Where there is a removable modifier at all, a rule is read without those and with the rest as it was exactly if
what is left is legible, and the line is read as one with that rule exactly if what is left is restorable. Then it has
no removable modifier, and stays as it is when it is stripped again. -/
theorem read_stripLine_iff (h : Line.read l = .ok (.adblock r)) :
    (AdblockRule.read (stripLine l) = .ok (stripped r) ↔
      (r.modifiers.any isRemovable → (stripped r).Legible)) ∧
    (Line.read (stripLine l) = .ok (.adblock (stripped r)) ↔
      (r.modifiers.any isRemovable → (Line.adblock (stripped r)).Restorable)) ∧
    (AdblockRule.read (stripLine l) = .ok (stripped r) →
      (∀ m ∈ (stripped r).modifiers, isRemovable m = false) ∧ stripLine (stripLine l) = stripLine l) := by
  have hread := (Line.read_eq_adblock_iff.1 h).2.2.2
  have hproper := proper_stripped (AdblockRule.proper_of_read hread)
  refine ⟨?_, ?_, fun hagain => ⟨fun m => isRemovable_of_mem_stripped, ?_⟩⟩
  · rw [stripLine_of_read h]
    split
    · rename_i hany
      rw [hproper.read_text_iff]
      exact ⟨fun hlegible _ => hlegible, fun hlegible => hlegible hany⟩
    · rename_i hnone
      rw [stripped_eq_self (Bool.eq_false_iff.2 hnone)]
      exact iff_of_true hread fun hany => absurd hany hnone
  · rw [stripLine_of_read h]
    split
    · rename_i hany
      rw [Line.read_text_adblock_iff hproper]
      exact ⟨fun hrestorable _ => hrestorable, fun hrestorable => hrestorable hany⟩
    · rename_i hnone
      rw [stripped_eq_self (Bool.eq_false_iff.2 hnone)]
      exact iff_of_true h fun hany => absurd hany hnone
  · exact stripLine_eq_self hagain fun m => isRemovable_of_mem_stripped

/-- A value with an escaped comma in it is kept. -/
theorem read_stripLine_iff_escaped :
    AdblockRule.read (stripLine "@@||a.com^$~third-party,ctag=x\\,y,all".toList) =
        .ok ⟨true, "||a.com^".toList, [⟨"ctag".toList, some "x,y".toList⟩]⟩ ∧
      stripLine (stripLine "@@||a.com^$~third-party,ctag=x\\,y,all".toList) = "@@||a.com^$ctag=x\\,y".toList := by
  have hread : Line.read "@@||a.com^$~third-party,ctag=x\\,y,all".toList = .ok (.adblock ⟨true, "||a.com^".toList,
      [⟨"~third-party".toList, none⟩, ⟨"ctag".toList, some "x,y".toList⟩, ⟨"all".toList, none⟩]⟩) := rfl
  obtain ⟨hlegible, -, htwice⟩ := read_stripLine_iff hread
  have hstripped := hlegible.2 (by decide)
  exact ⟨hstripped, (htwice hstripped).2.trans rfl⟩

/-- Without the modifiers, a dollar sign of the pattern sets off others: the pattern is not the same, and a removable
modifier may be there again. -/
theorem read_stripLine_of_dollar :
    Line.read "||a.com^$b$third-party".toList =
        .ok (.adblock ⟨false, "||a.com^$b".toList, [⟨"third-party".toList, none⟩]⟩) ∧
      AdblockRule.read (stripLine "||a.com^$b$third-party".toList) =
        .ok ⟨false, "||a.com^".toList, [⟨"b".toList, none⟩]⟩ ∧
      stripLine "||a.com^$3p$third-party".toList = "||a.com^$3p".toList ∧
      stripLine (stripLine "||a.com^$3p$third-party".toList) = "||a.com^".toList :=
  ⟨rfl, rfl, rfl, rfl⟩

end Blocklist.Transform
