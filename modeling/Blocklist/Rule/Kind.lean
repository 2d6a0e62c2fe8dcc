import Blocklist.Hostname.Address
import Blocklist.Hostname.Syntax
import Blocklist.Rule.Basic

/-!
# Kinds of lines

What a line is, judged by its text without the blanks around it. A `#` starts a comment unless it
starts one of the marks of rules that hide elements. A hosts line needs a real address in front.
-/

namespace Blocklist

/-- The marks of element hiding rules. -/
def hidingMarks : List Text :=
  [['#', '#'], ['#', '@', '#'], ['#', '%', '#'], ['#', '$', '#'], ['#', '?', '#']]

/-- Starts with a mark of element hiding that something other than a blank or `#` follows. -/
def isHidingRule (s : Text) : Bool :=
  hidingMarks.any fun m =>
    match Text.dropPrefix? m s with
    | some (c :: _) => c ≠ ' ' && c ≠ '#'
    | _ => false

/-- A comment. -/
def isComment (line : Text) : Bool :=
  match line.trim with
  | '!' :: _ => true
  | '#' :: s => !isHidingRule ('#' :: s)
  | _ => false

/-- A comment, or nothing but blanks. -/
def isCommentOrBlank (line : Text) : Bool := line.isBlankText || isComment line

/-- A character of an address, brackets included. -/
def isAddressChar (c : Char) : Bool :=
  Address.isHexDigit c || c = ':' || c = '.' || c = '[' || c = ']'

/-- What follows a zone in the text after an address; the whole text if there is no zone. -/
def dropZone? : Text → Option Text
  | '%' :: s =>
    match s.takeWhile Char.isAlphanum with
    | [] => none
    | _ => some (s.dropWhile Char.isAlphanum)
  | s => some s

/-- What may follow the address of a hosts line: blanks, at least one character before any `#`, and
then no line feed after a `#`. -/
def isHostsTail (s : Text) : Bool :=
  let blanks := s.takeWhile isBlank
  let body := (s.dropWhile isBlank).takeWhile (· ≠ '#')
  let note := (s.dropWhile isBlank).dropWhile (· ≠ '#')
  blanks ≠ [] && (body ≠ [] || 1 < blanks.length) && !note.elem '\n'

/-- The text in the place of the address, if the line has the shape of a hosts line. -/
def hostsAddress? (line : Text) : Option Text :=
  let s := line.trim
  match dropZone? (s.dropWhile isAddressChar) with
  | none => none
  | some tail =>
    if s.takeWhile isAddressChar ≠ [] && isHostsTail tail then some (s.takeWhile isAddressChar)
    else none

/-- A line with the shape of a hosts line and a real address in front. -/
def isHostsLine (line : Text) : Bool := ((hostsAddress? line).bind Address.canonical?).isSome

/-- An exception. -/
def isExceptionLine (line : Text) : Bool := Text.startsWith exceptionMark line.trim

/-- A hostname with a dot in it, and nothing else but dots at its end. -/
def isBareDomain (line : Text) : Bool :=
  line.trim.elem '.' && Hostname.isValid (Text.dropEndWhile (· = '.') line.trim)

end Blocklist
