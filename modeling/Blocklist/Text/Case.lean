import Blocklist.Text.CaseTable
import Blocklist.Text.CodeRange
import Blocklist.Text.Basic

/-!
# Letter case

`lower` is Unicode's full lower-case mapping: a capital I with a dot becomes two characters, and a
capital sigma becomes the final sigma where it ends a word. `fold` maps every character to one
representative of the characters that are equal when case is ignored.
-/

namespace Blocklist

/-- The simple lower-case partner of a character, or the character itself. -/
def lowerChar (c : Char) : Char :=
  if c.toNat < 0x80 then c.toLower
  else
    match Case.lowerRuns.find? (·.has c.toNat) with
    | some r => Char.ofNat (c.toNat + r.delta).toNat
    | none => c

theorem lowerChar_of_ascii {c : Char} (h : c.toNat < 0x80) : lowerChar c = c.toLower := by
  simp [lowerChar, h]

namespace Case

/-- A letter that has case. -/
def isCased (c : Char) : Bool :=
  if c.toNat < 0x80 then c.isAlpha else inRanges cased c.toNat

/-- A character that the search for a neighbouring letter passes over. -/
def isIgnorable (c : Char) : Bool :=
  if c.toNat < 0x80 then c ∈ ['\'', '.', ':', '^', '`'] else inRanges ignorable c.toNat

/-- Whether the nearest character that is not passed over has case. -/
def nextIsCased (s : Text) : Bool :=
  match s.dropWhile isIgnorable with
  | [] => false
  | c :: _ => isCased c

/-- The lower-case text of `c` between `before`, whose nearest character comes first, and
`after`. -/
def lowerAt (before : Text) (c : Char) (after : Text) : Text :=
  if c = 'İ' then ['i', '\u0307']
  else if c = 'Σ' then
    if nextIsCased before && !nextIsCased after then ['ς'] else ['σ']
  else [lowerChar c]

/-- The lower-case text of `s` after `before`, whose nearest character comes first. -/
def lowerAfter (before : Text) : Text → Text
  | [] => []
  | c :: s => lowerAt before c s ++ lowerAfter (c :: before) s

end Case

namespace Text

/-- The lower-case text of `s`. -/
def lower (s : Text) : Text := Case.lowerAfter [] s

end Text

namespace Case

theorem lowerAt_of_ascii {c : Char} (h : c.toNat < 0x80) (b a : Text) :
    lowerAt b c a = [c.toLower] := by
  have h1 : c ≠ 'İ' := by rintro rfl; revert h; decide
  have h2 : c ≠ 'Σ' := by rintro rfl; revert h; decide
  simp [lowerAt, h1, h2, lowerChar_of_ascii h]

/-- On ASCII text the mapping works on each letter alone. -/
theorem lowerAfter_of_ascii {s : Text} (h : ∀ c ∈ s, c.toNat < 0x80) (b : Text) :
    lowerAfter b s = s.map Char.toLower := by
  induction s generalizing b with
  | nil => rfl
  | cons c s ih =>
    rw [lowerAfter, lowerAt_of_ascii (h c (by simp)), ih fun d hd => h d (by simp [hd])]
    rfl

/-- The representative of the characters that equal `c` when case is ignored. -/
def fold (c : Char) : Char :=
  let l := lowerChar c
  if l.toNat < 0x80 then l
  else
    match sameLetter.lookup l.toNat with
    | some n => Char.ofNat n
    | none => l

/-- The characters whose lower-case partner is `c`. -/
def uppers (c : Char) : List Char :=
  let own := if lowerChar c = c then [c] else []
  let ascii := if c.isLower then [c.toUpper] else []
  own ++ ascii ++ lowerRuns.filterMap fun r =>
    let n := ((c.toNat : Int) - r.delta).toNat
    if r.has n then some (Char.ofNat n) else none

/-- The characters that equal `c` when case is ignored. -/
def variants (c : Char) : List Char :=
  let rep := fold c
  let partners := (sameLetter.filter (·.2 = rep.toNat)).map fun (n, _) => Char.ofNat n
  (rep :: partners).flatMap uppers

end Case
end Blocklist
