import Blocklist.Text.Basic
import Blocklist.Text.CodeRange
import Blocklist.Text.PrintableTable

/-!
# Quoted text

Messages show a piece of input between quotes, with what cannot be printed written as an escape.
The quote is `'`, or `"` for text that has the first and not the second.
-/

namespace Blocklist

/-- A character that a message shows as it is; of the separators only the space. -/
def isPrintable (c : Char) : Bool :=
  if c.toNat < 0x80 then 0x20 ≤ c.toNat && c.toNat < 0x7F else !inRanges unprintable c.toNat

namespace Text

/-- The lower-case hexadecimal digits of `n`, at least `width` of them. -/
def hex (width n : Nat) : Text := padLeft '0' width (Nat.toDigits 16 n)

/-- The quote that encloses `s`. -/
def quoteFor (s : Text) : Char := if s.elem '\'' && !s.elem '"' then '"' else '\''

/-- The written form of one character between quotes `q`. -/
def escapeIn (q c : Char) : Text :=
  if c = q || c = '\\' then ['\\', c]
  else if c = '\n' then ['\\', 'n']
  else if c = '\r' then ['\\', 'r']
  else if c = '\t' then ['\\', 't']
  else if isPrintable c then [c]
  else if c.toNat < 0x100 then '\\' :: 'x' :: hex 2 c.toNat
  else if c.toNat < 0x10000 then '\\' :: 'u' :: hex 4 c.toNat
  else '\\' :: 'U' :: hex 8 c.toNat

/-- `s` between quotes. -/
def quoted (s : Text) : Text :=
  let q := quoteFor s
  q :: s.flatMap (escapeIn q) ++ [q]

end Text
end Blocklist
