/-!
# Cascades

When a line is removed, the comments and blank lines directly above it go with it. `Cascade.sweep` does
this for lines of which it is known which are attached to the line below and which are removed.
-/

namespace Blocklist

/-- What a line is to a cascade: attached to the line below, kept, or removed. -/
inductive Mark where
  | attached
  | kept
  | removed
deriving DecidableEq, Repr

/-- The result of a cascade: the lines that stay, the number of lines removed for themselves, the
number lost with a line below, and whether the next line above, if attached, is lost too. -/
structure Cascade (α : Type) where
  kept : List α
  removed : Nat
  lost : Nat
  carry : Bool
deriving Repr

namespace Cascade

variable {α : Type}

/-- No line at all. -/
def empty : Cascade α := ⟨[], 0, 0, false⟩

/-- One more line above. -/
def cons (a : α) (m : Mark) (c : Cascade α) : Cascade α :=
  match m with
  | .removed => { c with removed := c.removed + 1, carry := true }
  | .kept => { c with kept := a :: c.kept, carry := false }
  | .attached =>
    if c.carry then { c with lost := c.lost + 1 } else { c with kept := a :: c.kept }

/-- The cascade over all lines, from the last one up. -/
def sweep (mark : α → Mark) (lines : List α) : Cascade α :=
  lines.foldr (fun a c => cons a (mark a) c) empty

@[simp] theorem sweep_nil (mark : α → Mark) : sweep mark [] = empty := rfl

@[simp] theorem sweep_cons (mark : α → Mark) (a : α) (lines : List α) :
    sweep mark (a :: lines) = cons a (mark a) (sweep mark lines) := rfl

/-- Every line stays, is removed or is lost. -/
theorem length_sweep (mark : α → Mark) (lines : List α) :
    (sweep mark lines).kept.length + (sweep mark lines).removed + (sweep mark lines).lost =
      lines.length := by
  induction lines with
  | nil => rfl
  | cons a lines ih =>
    rw [sweep_cons]
    cases mark a
    · simp only [cons]
      split <;> simp only [List.length_cons] <;> omega
    · simp only [cons, List.length_cons]; omega
    · simp only [cons, List.length_cons]; omega

end Cascade
end Blocklist
