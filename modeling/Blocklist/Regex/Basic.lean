import Blocklist.Text.Blank
import Blocklist.Text.Case
import Blocklist.Text.Word

/-!
# Regular expressions

The abstract form of a regular expression: characters and sets under a folding of case, anchors,
sequences and alternatives, groups and references to them, repetitions, and conditions on what comes
before and after.
-/

namespace Blocklist

/-- How letters are compared: as they are, with ASCII case ignored, or with all case ignored. -/
inductive Folding where
  | exact
  | ascii
  | full
deriving DecidableEq, Repr

/-- The representative of the characters that count as equal to `c`. -/
def Folding.fold : Folding → Char → Char
  | .exact, c => c
  | .ascii, c => c.toLower
  | .full, c => Case.fold c

/-- The characters that count as equal to `c`. -/
def Folding.variants : Folding → Char → List Char
  | .exact, c => [c]
  | .ascii, c => [c, c.toLower, c.toUpper]
  | .full, c => Case.variants c

/-- A class of characters, of ASCII alone or of all scripts. -/
inductive CharClass where
  | digit (ascii : Bool)
  | space (ascii : Bool)
  | word (ascii : Bool)
deriving DecidableEq, Repr

/-- Whether a character is in the class. -/
def CharClass.has : CharClass → Char → Bool
  | .digit true, c => c.isDigit
  | .digit false, c => isDecimalDigit c
  | .space true, c => c.toNat < 0x1C && isBlank c || c = ' '
  | .space false, c => isBlank c
  | .word true, c => c.isAlphanum || c = '_'
  | .word false, c => isWordChar c

/-- A member of a set of characters. -/
inductive SetItem where
  | char (c : Char)
  | range (first last : Char)
  | class (negated : Bool) (k : CharClass)
deriving DecidableEq, Repr

/-- Whether a member of a set has the character. -/
def SetItem.has (f : Folding) : SetItem → Char → Bool
  | .char x, c => f.fold x = f.fold c
  | .range first last, c => (f.variants c).any fun v => first ≤ v && v ≤ last
  | .class negated k, c => negated != k.has c

/-- A condition on a place that takes no character. -/
inductive Anchor where
  | textStart
  | lineStart
  | textEnd
  | lineEnd
  | lastLineEnd
  | boundary (negated : Bool) (ascii : Bool)
deriving DecidableEq, Repr

/-- How a repetition prefers its number of rounds: many, few, or as many as there can be and no
other. -/
inductive Preference where
  | greedy
  | lazy
  | possessive
deriving DecidableEq, Repr

/-- The name of a repetition with the preference. -/
def Preference.operator : Preference → Text
  | .greedy => "MAX_REPEAT"
  | .lazy => "MIN_REPEAT"
  | .possessive => "POSSESSIVE_REPEAT"

/-- A regular expression. -/
inductive Regex where
  | empty
  | char (f : Folding) (c : Char)
  | any (lineFeed : Bool)
  | set (f : Folding) (negated : Bool) (items : List SetItem)
  | anchor (a : Anchor)
  | seq (a b : Regex)
  | alt (a b : Regex)
  | group (number : Option Nat) (r : Regex)
  | repeat (r : Regex) (least : Nat) (most : Option Nat) (p : Preference)
  | backref (f : Folding) (number : Nat)
  | ahead (negated : Bool) (r : Regex)
  | behind (negated : Bool) (width : Nat) (r : Regex)
  | atomic (r : Regex)
  | ifGroup (number : Nat) (a b : Regex)
deriving Repr

end Blocklist
