import Blocklist.Number.Reading
import Blocklist.Text.Quoted

/-!
# Faults of regular expressions

What is wrong with a pattern, and where. Some patterns are refused although nothing is wrong with their
form; that is not expected of a pattern.
-/

namespace Blocklist.Regex

/-- What is wrong at a place of a pattern. -/
inductive FaultKind where
  | loneBackslash
  | badEscape (escape : Text)
  | shortEscape (escape : Text)
  | largeOctal (escape : Text)
  | openSet
  | badRange (range : Text)
  | badCounts
  | nothingToRepeat
  | repeatedTwice
  | openGroup
  | closedTooOften
  | openNote
  | cutOff
  | badExtension (extension : Text)
  | missing (what : Text)
  | openName (stop : Char)
  | badName (name : Text)
  | unknownName (name : Text)
  | sameName (name : Text) (number earlier : Nat)
  | noSuchGroup (number : Nat)
  | groupStillOpen
  | groupBehind
  | groupZero
  | manyBranches
  | lateFlags
  | unknownFlag
  | badFlags (why : Text)
  | looseBehind
  | farBehind
  | unknownCharacter (name : Text)
  | template (operator : Text)
  | hugeCount
  | longCount (digits : Nat)
  | twoAlphabets
deriving DecidableEq, Repr

/-- The text of a fault. -/
def FaultKind.message : FaultKind → Text
  | loneBackslash => "bad escape (end of pattern)"
  | badEscape escape => "bad escape " ++ escape
  | shortEscape escape => "incomplete escape " ++ escape
  | largeOctal escape => "octal escape value " ++ escape ++ " outside of range 0-0o377"
  | openSet => "unterminated character set"
  | badRange range => "bad character range " ++ range
  | badCounts => "min repeat greater than max repeat"
  | nothingToRepeat => "nothing to repeat"
  | repeatedTwice => "multiple repeat"
  | openGroup => "missing ), unterminated subpattern"
  | closedTooOften => "unbalanced parenthesis"
  | openNote => "missing ), unterminated comment"
  | cutOff => "unexpected end of pattern"
  | badExtension extension => "unknown extension " ++ extension
  | missing what => "missing " ++ what
  | openName stop => "missing " ++ stop :: ", unterminated name"
  | badName name => "bad character in group name " ++ name.quoted
  | unknownName name => "unknown group name " ++ name.quoted
  | sameName name number earlier =>
    "redefinition of group name " ++ name.quoted ++ " as group " ++ Text.ofNat number ++
      "; was group " ++ Text.ofNat earlier
  | noSuchGroup number => "invalid group reference " ++ Text.ofNat number
  | groupStillOpen => "cannot refer to an open group"
  | groupBehind => "cannot refer to group defined in the same lookbehind subpattern"
  | groupZero => "bad group number"
  | manyBranches => "conditional backref with more than two branches"
  | lateFlags => "global flags not at the start of the expression"
  | unknownFlag => "unknown flag"
  | badFlags why => "bad inline flags: " ++ why
  | looseBehind => "look-behind requires fixed-width pattern"
  | farBehind => "looks too much behind"
  | unknownCharacter name => "undefined character name " ++ name.quoted
  | template operator => "internal: unsupported template operator " ++ operator
  | hugeCount => "the repetition number is too large"
  | longCount digits => Number.longMessage digits
  | twoAlphabets => "ASCII and UNICODE flags are incompatible"

/-- Whether the fault is one of the form of a pattern. -/
def FaultKind.isExpected : FaultKind → Bool
  | hugeCount | longCount _ | twoAlphabets => false
  | _ => true

/-- A fault, and the number of characters before it; some faults are those of the whole pattern. -/
structure Fault where
  kind : FaultKind
  place : Option Nat
deriving DecidableEq, Repr

/-- The text of a fault in a pattern, with its place; a pattern of several lines also has line and
column. -/
def Fault.message (f : Fault) (pattern : Text) : Text :=
  match f.place with
  | none => f.kind.message
  | some n =>
    let before := pattern.take n
    let column := (before.reverse.takeWhile (· ≠ '\n')).length + 1
    f.kind.message ++ " at position " ++ Text.ofNat n ++
      if pattern.elem '\n' then
        " (line " ++ Text.ofNat (before.count '\n' + 1) ++ ", column " ++ Text.ofNat column ++ ")"
      else []

/-- A fault that is found while a pattern is read. `rest` is the number of characters from its place
on, `unread` the number of those that were not read when it was found. -/
structure Trouble where
  kind : FaultKind
  rest : Nat
  unread : Nat
deriving DecidableEq, Repr

end Blocklist.Regex
