import Blocklist.Text.Basic

/-!
# Hostname syntax

A hostname is a sequence of labels with dots between them. A label has 1 to 63 ASCII letters, digits
and hyphens and neither starts nor ends with a hyphen; the whole name has at most 253 characters. One
line feed at the end is not looked at.
-/

namespace Blocklist.Hostname

/-- A letter, a digit or a hyphen, all of ASCII. -/
def isLabelChar (c : Char) : Bool := c.isAlphanum || c = '-'

/-- Whether `l` can stand between the dots of a hostname. -/
def isLabel (l : Text) : Bool :=
  l ≠ [] && l.length ≤ 63 && l.all isLabelChar && l.head? ≠ some '-' && l.getLast? ≠ some '-'

/-- Whether `s`, up to one line feed at its end, is a hostname. -/
def isValid (s : Text) : Bool :=
  let name := s.dropLineFeed
  1 ≤ name.length && name.length ≤ 253 && (name.splitOn '.').all isLabel

/-- What follows the dots of `s`, from the first dot on. -/
def afterDots : Text → List Text
  | [] => []
  | '.' :: s => s :: afterDots s
  | _ :: s => afterDots s

/-- A name and its ancestors: what follows each of its dots. -/
def withAncestors (s : Text) : List Text := if s = [] then [] else s :: afterDots s

/-- A dot of an internationalized name, in any of its four forms. -/
def isDot (c : Char) : Bool := c = '.' || c = '。' || c = '．' || c = '｡'

end Blocklist.Hostname
