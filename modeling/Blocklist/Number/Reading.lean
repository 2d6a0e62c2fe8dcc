import Blocklist.Number.Decimal
import Blocklist.Text.Blank
import Blocklist.Text.Word

/-!
# Reading numbers

Numbers as people write them: with blanks around them, in the digits of any script, and with single
underscores between digits.
-/

namespace Blocklist.Number

/-- The greatest number of digits of an integer that is read. -/
def maxDigits : Nat := 4300

/-- The text of the error that an integer has too many digits. -/
def longMessage (digits : Nat) : Text :=
  "Exceeds the limit (" ++ Text.ofNat maxDigits ++ " digits) for integer string conversion: value has " ++
    Text.ofNat digits ++ " digits; use sys.set_int_max_str_digits() to increase the limit"

/-- The ASCII digit of the same value for a decimal digit; other characters stay. -/
def asciiDigit (c : Char) : Char :=
  match decimalDigits.find? fun (first, last) => first ≤ c.toNat && c.toNat ≤ last with
  | some (first, _) => Char.ofNat (0x30 + (c.toNat - first) % 10)
  | none => c

/-- A blank that may stand around a number; the information separators may not. -/
def isMargin (c : Char) : Bool := isBlank c && !(0x1C ≤ c.toNat && c.toNat ≤ 0x1F)

/-- The text without its underscores, where `afterDigit` says whether it comes after a digit; none if an
underscore does not stand between digits. -/
def dropUnderscores? : (afterDigit : Bool) → Text → Option Text
  | _, [] => some []
  | afterDigit, '_' :: c :: s =>
    if afterDigit && c.isDigit then (dropUnderscores? true s).map (c :: ·) else none
  | _, c :: s => if c = '_' then none else (dropUnderscores? c.isDigit s).map (c :: ·)

/-- The sign of a number, and its text in ASCII digits, without blanks, sign and underscores. -/
def plain? (s : Text) : Option (Bool × Text) :=
  let (negative, s) := Decimal.takeSign (Text.trimBy isMargin (s.map asciiDigit))
  (dropUnderscores? false s).map fun s => (negative, s)

/-- The integer that a text writes. -/
def int? (s : Text) : Option Int :=
  match plain? s with
  | some (negative, digits) =>
    if digits ≠ [] && digits.all Char.isDigit && digits.length ≤ maxDigits then
      some (if negative then -(Decimal.natOf digits) else Decimal.natOf digits)
    else none
  | none => none

/-- The floating-point number that a text writes; infinity and the absence of a number have names. -/
def binary64? (s : Text) : Option Binary64 :=
  match plain? s with
  | some (negative, s) =>
    let name := s.map Char.toLower
    if name = "inf".toList || name = "infinity".toList then some (.infinite negative)
    else if name = "nan".toList then some .nan
    else Decimal.unsigned? negative s
  | none => none

end Blocklist.Number
