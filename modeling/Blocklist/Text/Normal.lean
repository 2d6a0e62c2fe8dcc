import Blocklist.Text.CompositionTable
import Blocklist.Text.Basic

/-!
# Compatibility normalization

`normalize` is Unicode's normalization form KC: every character is replaced by its full compatibility
decomposition, the combining marks after a base are put in the order of their classes, and then a
base takes up the marks that a single character can express together with it. Hangul syllables are
decomposed and composed by their numbers.
-/

namespace Blocklist.Normal

/-! ### Hangul -/

/-- The parts of a Hangul syllable. -/
def hangulParts? (n : Nat) : Option (List Nat) :=
  if 0xAC00 ≤ n && n ≤ 0xD7A3 then
    let s := n - 0xAC00
    let lead := 0x1100 + s / 588
    let vowel := 0x1161 + s % 588 / 28
    some (if s % 28 = 0 then [lead, vowel] else [lead, vowel, 0x11A7 + s % 28])
  else none

/-- The Hangul syllable of two parts. -/
def hangulWhole? (a b : Nat) : Option Nat :=
  if 0x1100 ≤ a && a ≤ 0x1112 && 0x1161 ≤ b && b ≤ 0x1175 then
    some (0xAC00 + ((a - 0x1100) * 21 + (b - 0x1161)) * 28)
  else if 0xAC00 ≤ a && a ≤ 0xD7A3 && (a - 0xAC00) % 28 = 0 && 0x11A8 ≤ b && b ≤ 0x11C2 then
    some (a + (b - 0x11A7))
  else none

/-! ### Steps -/

/-- The full compatibility decomposition of a character. -/
def decompose (c : Char) : Text :=
  let n := c.toNat
  if n < 0x80 then [c]
  else
    match hangulParts? n with
    | some parts => parts.map Char.ofNat
    | none =>
      match decompositions.find? fun e => e.first ≤ n && n ≤ e.last with
      | some ⟨first, _, [m]⟩ => [Char.ofNat (m + (n - first))]
      | some e => e.target.map Char.ofNat
      | none => [c]

/-- The canonical combining class; zero for a character that starts a sequence. -/
def combiningClass (c : Char) : Nat :=
  match combiningClasses.find? fun (first, last, _) => first ≤ c.toNat && c.toNat ≤ last with
  | some (_, _, k) => k
  | none => 0

/-- Puts `c` before the first character of a higher class; characters of class zero stay put. -/
def insertMark (c : Char) : Text → Text
  | [] => [c]
  | d :: s =>
    if combiningClass d = 0 || combiningClass c ≤ combiningClass d then c :: d :: s
    else d :: insertMark c s

/-- The marks between characters of class zero in the order of their classes. -/
def sortMarks : Text → Text
  | [] => []
  | c :: s => if combiningClass c = 0 then c :: sortMarks s else insertMark c (sortMarks s)

/-- The primary composite of two characters. -/
def compose? (a b : Char) : Option Char :=
  match hangulWhole? a.toNat b.toNat with
  | some n => some (Char.ofNat n)
  | none =>
    (composites.find? fun e => e.target = [a.toNat, b.toNat]).map fun e => Char.ofNat e.first

/-- Composition after the base `base` and the marks `marks` that stay with it, of which the last has
the class `last`. -/
def composeAfter (base : Option Char) (marks : Text) (last : Nat) : Text → Text
  | [] => base.toList ++ marks
  | c :: s =>
    let k := combiningClass c
    let whole := if marks = [] || last < k then base.bind (compose? · c) else none
    match whole with
    | some d => composeAfter (some d) marks last s
    | none =>
      if k = 0 then base.toList ++ marks ++ composeAfter (some c) [] 0 s
      else composeAfter base (marks ++ [c]) k s

/-- Normalization form KC. -/
def normalize (s : Text) : Text := composeAfter none [] 0 (sortMarks (s.flatMap decompose))

end Blocklist.Normal
