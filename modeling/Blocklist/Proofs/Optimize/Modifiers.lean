import Blocklist.Optimize.Modifiers
import Blocklist.Proofs.Optimize.Patterns

/-!
# Rules without repeated modifiers

A rule keeps its pattern when its repeated modifiers go, and at least one modifier. So a line names the same
hostnames (`names_dropRepeatedModifiers`), and no line becomes an exception.
-/

namespace Blocklist.Optimize
open Hostname Output AdblockRule

variable {h l : Text} {r : AdblockRule}

theorem dropRepeatedModifiers_of_none (hr : ruleOf? l = none) : (dropRepeatedModifiers l).1 = l := by
  rw [dropRepeatedModifiers, hr]

theorem dropRepeatedModifiers_of_some (hr : ruleOf? l = some r) :
    (dropRepeatedModifiers l).1 = if r.modifiers.length - r.modifiers.eraseDups.length = 0 then l
      else ({ r with modifiers := r.modifiers.eraseDups } : AdblockRule).text := by
  rw [dropRepeatedModifiers, hr]

/-- Where a modifier repeats another, one of them stays. -/
theorem modifiers_ne_nil_of_repeated (h : ¬ r.modifiers.length - r.modifiers.eraseDups.length = 0) :
    r.modifiers ≠ [] ∧ r.modifiers.eraseDups ≠ [] := by
  cases hms : r.modifiers with
  | nil =>
    rw [hms] at h
    exact absurd rfl h
  | cons m ms =>
    rw [List.eraseDups_cons]
    exact ⟨List.cons_ne_nil _ _, List.cons_ne_nil _ _⟩

/-- A line stays, or it is a rule that is written again with each of its modifiers once. -/
theorem of_dropRepeatedModifiers {P : Text → Prop} (hl : P l)
    (h : ∀ r, ruleOf? l = some r → r.modifiers ≠ [] → r.modifiers.eraseDups ≠ [] →
      P ({ r with modifiers := r.modifiers.eraseDups } : AdblockRule).text) : P (dropRepeatedModifiers l).1 := by
  cases hr : ruleOf? l with
  | none => rwa [dropRepeatedModifiers_of_none hr]
  | some r =>
    rw [dropRepeatedModifiers_of_some hr]
    split
    · exact hl
    · rename_i hrepeated
      obtain ⟨hms, hkept⟩ := modifiers_ne_nil_of_repeated hrepeated
      exact h r hr hms hkept

theorem noException_dropRepeatedModifiers (hl : NoException l) : NoException (dropRepeatedModifiers l).1 := by
  refine of_dropRepeatedModifiers hl fun r hr _ _ => ?_
  have hopens := opens_of_proper (proper_of_read (ruleOf?_eq_some_iff.1 hr).2.2) (hl r hr)
  exact noException_text (hl r hr) hopens

theorem names_dropRepeatedModifiers (hl : Names l h) : Names (dropRepeatedModifiers l).1 h := by
  refine of_dropRepeatedModifiers (P := (Names · h)) hl fun r hr hms hkept => ?_
  have hread := (ruleOf?_eq_some_iff.1 hr).2.2
  obtain ⟨-, hexc, hp⟩ := patternHost?_of_blocks hl.blocks hr (isBareDomain_of_modifiers hread hms)
  have hprotected := Modifier.protected_joined_iff.1 (proper_of_read hread).protected_joined
  refine names_text hexc hkept hp (hl.feed r hread) (Modifier.protected_joined_iff.2 fun m hm => ?_)
  exact hprotected m (List.mem_eraseDups.1 hm)

end Blocklist.Optimize
