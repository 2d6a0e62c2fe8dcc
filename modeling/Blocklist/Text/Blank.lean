import Blocklist.Text.Basic

/-!
# Blank characters and line ends

`isBlank` is Unicode's White_Space together with the four information separators U+001C to U+001F.
`trim` cuts blanks from both ends, `words` splits at runs of them, and `lines` splits at every
character that ends a line.
-/

namespace Blocklist

/-- White space, or one of the separators U+001C to U+001F. -/
def isBlank (c : Char) : Bool :=
  let n := c.toNat
  (0x09 ≤ n && n ≤ 0x0D) || (0x1C ≤ n && n ≤ 0x20) || n = 0x85 || n = 0xA0 || n = 0x1680 ||
    (0x2000 ≤ n && n ≤ 0x200A) || n = 0x2028 || n = 0x2029 || n = 0x202F || n = 0x205F || n = 0x3000

/-- A character that ends a line by itself. -/
def isLineEnd (c : Char) : Bool :=
  let n := c.toNat
  (0x0A ≤ n && n ≤ 0x0D) || (0x1C ≤ n && n ≤ 0x1E) || n = 0x85 || n = 0x2028 || n = 0x2029

namespace Text

/-- `s` without blanks at its ends. -/
def trim (s : Text) : Text := trimBy isBlank s

/-- Nothing but blanks. -/
def isBlankText (s : Text) : Bool := s.all isBlank

/-- The maximal runs of characters that are not blank. -/
def words (s : Text) : List Text := (splitWhere isBlank s).filter (· ≠ [])

/-- The lines of `s`. A line end closes its line, and so a text that ends with one has no empty
line after it; carriage return and line feed together are one end. -/
def lines : Text → List Text
  | [] => []
  | '\r' :: '\n' :: s => [] :: lines s
  | c :: s =>
    if isLineEnd c then [] :: lines s
    else
      match lines s with
      | [] => [[c]]
      | l :: rest => (c :: l) :: rest

end Text
end Blocklist
