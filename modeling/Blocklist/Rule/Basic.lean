import Blocklist.Text.Blank
import Blocklist.Text.Case

/-!
# Rules

A line of a list is empty, a comment, a hosts line or an adblock rule. An adblock rule blocks what its
pattern matches, or excepts it from blocking, subject to its modifiers; a hosts line gives an address
to some hostnames. `Line.text` is the written form of each.
-/

namespace Blocklist

/-- A modifier of a rule: a name, with a value after an equals sign or without one. -/
structure Modifier where
  name : Text
  value : Option Text := none
deriving DecidableEq, Repr

/-- The written form; a comma in the value is escaped. -/
def Modifier.text (m : Modifier) : Text :=
  match m.value with
  | none => m.name
  | some v => m.name ++ '=' :: Text.replaceChar ',' ['\\', ','] v

/-- The name without the tildes that negate it. -/
def Modifier.bareName (m : Modifier) : Text := m.name.dropWhile (· = '~')

/-- A rule that blocks what `pattern` matches, or excepts it. -/
structure AdblockRule where
  exception : Bool
  pattern : Text
  modifiers : List Modifier
deriving DecidableEq, Repr

/-- An address for some hostnames. -/
structure HostsRule where
  ip : Text
  hostnames : List Text
deriving DecidableEq, Repr

/-- A line of a list. -/
inductive Line where
  | empty
  | comment (text : Text)
  | hosts (rule : HostsRule)
  | adblock (rule : AdblockRule)
deriving DecidableEq, Repr

/-! ### Markers -/

/-- What an exception starts with. -/
def exceptionMark : Text := ['@', '@']

/-- What anchors a pattern at the start of a hostname or of one of its ancestors. -/
def domainMark : Text := ['|', '|']

/-- A character of a pattern that stands for any text. -/
def wildcard : Char := '*'

/-- A character of a pattern that stands for the end of a hostname. -/
def separator : Char := '^'

/-! ### Written forms -/

namespace AdblockRule

/-- The written form. -/
def text (r : AdblockRule) : Text :=
  (if r.exception then exceptionMark else []) ++ r.pattern ++
    if r.modifiers = [] then [] else '$' :: Text.join [','] (r.modifiers.map Modifier.text)

/-- A pattern between slashes. -/
def isRegexPattern (p : Text) : Bool :=
  1 < p.length && p.head? = some '/' && p.getLast? = some '/'

/-- A rule whose pattern is a regular expression. -/
def isRegex (r : AdblockRule) : Bool := isRegexPattern r.pattern

/-- A character of a hostname in a pattern, where case is ignored. -/
def isAnchoredChar (c : Char) : Bool :=
  (Case.fold c).isLower || c.isDigit || c = '-' || c = '.'

/-- The name in a pattern that is the domain mark, a name, at most one separator, and nothing else
but a line feed. -/
def anchoredName? (pattern : Text) : Option Text :=
  match Text.dropPrefix? domainMark pattern with
  | none => none
  | some s =>
    let name := s.takeWhile isAnchoredChar
    let rest := s.dropWhile isAnchoredChar
    let tail := Text.dropLineFeed (Text.removePrefix [separator] rest)
    if name ≠ [] && tail = [] then some name else none

/-- The hostname that the rule is about as a whole, in lower case. -/
def hostname? (r : AdblockRule) : Option Text := (anchoredName? r.pattern).map Text.lower

/-- The first modifier of this name, negated or not. -/
def findModifier? (r : AdblockRule) (name : Text) : Option Modifier :=
  r.modifiers.find? fun m => m.name = name || m.name = '~' :: name

end AdblockRule

/-- The written form. -/
def HostsRule.text (r : HostsRule) : Text := Text.join [' '] (r.ip :: r.hostnames)

/-- The written form. -/
def Line.text : Line → Text
  | .empty => []
  | .comment s => s
  | .hosts r => r.text
  | .adblock r => r.text

end Blocklist
