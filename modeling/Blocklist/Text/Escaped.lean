import Blocklist.Text.Basic

/-!
# Escapes

A delimiter after an escape character is an ordinary character. `splitEscaped` cuts a text at the
other delimiters and takes the escapes out; `cutLastUnescaped?` finds the last character of a kind
that no backslash protects. In the first the escape character itself is never protected, in the
second a backslash protects a backslash.
-/

namespace Blocklist.Text

/-- The tokens of the rest of a text, after the character `last` (`none` at the start) and the
characters `token` of the token that is being read. A delimiter at the very start is dropped, an
empty token only counts with `keepEmpty`. -/
def splitEscapedAfter (delimiter escape : Char) (keepEmpty : Bool) :
    Option Char → Text → Text → List Text
  | _, token, [] => if keepEmpty || token ≠ [] then [token] else []
  | last, token, c :: s =>
    if c = delimiter then
      match last with
      | none => splitEscapedAfter delimiter escape keepEmpty (some c) token s
      | some d =>
        if d = escape then
          splitEscapedAfter delimiter escape keepEmpty (some c) (token.dropLast ++ [c]) s
        else if keepEmpty || token ≠ [] then
          token :: splitEscapedAfter delimiter escape keepEmpty (some c) [] s
        else splitEscapedAfter delimiter escape keepEmpty (some c) [] s
    else splitEscapedAfter delimiter escape keepEmpty (some c) (token ++ [c]) s

/-- The tokens of `s` between unescaped delimiters. -/
def splitEscaped (delimiter escape : Char) (keepEmpty : Bool) (s : Text) : List Text :=
  if s = [] then [] else splitEscapedAfter delimiter escape keepEmpty none [] s

/-- The cut of a text after an odd number of backslashes (`escaped`) or an even number of them. -/
def cutLastUnescapedAfter? (c : Char) : (escaped : Bool) → Text → Option (Text × Text)
  | _, [] => none
  | escaped, d :: s =>
    match cutLastUnescapedAfter? c (d = '\\' && !escaped) s with
    | some (a, b) => some (d :: a, b)
    | none => if d = c && !escaped then some ([], s) else none

/-- What comes before and after the last `c` that an even number of backslashes precedes. -/
def cutLastUnescaped? (c : Char) (s : Text) : Option (Text × Text) :=
  cutLastUnescapedAfter? c false s

theorem eq_of_cutLastUnescapedAfter? {c : Char} {e : Bool} {s a b : Text}
    (h : cutLastUnescapedAfter? c e s = some (a, b)) : s = a ++ c :: b := by
  induction s generalizing e a b with
  | nil => simp [cutLastUnescapedAfter?] at h
  | cons d s ih =>
    rw [cutLastUnescapedAfter?] at h
    split at h
    · rename_i a' b' h'
      simp only [Option.some.injEq, Prod.mk.injEq] at h
      obtain ⟨rfl, rfl⟩ := h
      rw [ih h']; rfl
    · split at h
      · rename_i hd
        simp only [Option.some.injEq, Prod.mk.injEq] at h
        obtain ⟨rfl, rfl⟩ := h
        simp only [Bool.and_eq_true, decide_eq_true_eq] at hd
        simp [hd.1]
      · cases h

/-- The place of the last unescaped `c` of `s`, if it is not before `start`. -/
def lastUnescaped? (c : Char) (start : Nat) (s : Text) : Option Nat :=
  match cutLastUnescaped? c s with
  | some (a, _) => if start ≤ a.length then some a.length else none
  | none => none

end Blocklist.Text
