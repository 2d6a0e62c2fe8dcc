import Blocklist.Text.CodeRange
import Blocklist.Text.WordTable

/-!
# Word characters

Words are made of letters, of characters with a numeric value, and of underscores.
-/

namespace Blocklist

/-- A letter, a character with a numeric value, or an underscore. -/
def isWordChar (c : Char) : Bool :=
  c.isAlphanum || c = '_' || (0x80 ≤ c.toNat && inRanges alphanumeric c.toNat)

/-- A decimal digit of any script. -/
def isDecimalDigit (c : Char) : Bool :=
  c.isDigit || (0x80 ≤ c.toNat && inRanges decimalDigits c.toNat)

end Blocklist
