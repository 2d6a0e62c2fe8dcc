import Blocklist.Hostname.Nameprep
import Blocklist.Hostname.Punycode
import Blocklist.Hostname.Syntax
import Blocklist.Text.Blank

/-!
# Internationalized host names

`toAscii` writes a name in ASCII: each label that is not ASCII is prepared and, if that does not make
it so, encoded after `xn--`. A name with a label that cannot be written stays as it is.
-/

namespace Blocklist

/-- Nothing but ASCII. -/
def Text.isAscii (s : Text) : Bool := s.all (·.toNat < 0x80)

namespace Idna

/-- What starts an encoded label. -/
def acePrefix : Text := ['x', 'n', '-', '-']

/-- A label of 1 to 63 characters. -/
def fitting? (label : Text) : Option Text :=
  if 1 ≤ label.length && label.length ≤ 63 then some label else none

/-- The label in ASCII. -/
def labelToAscii? (label : Text) : Option Text :=
  if label.isAscii then fitting? label
  else
    match Nameprep.prepare? label with
    | none => none
    | some s =>
      if s.isAscii then fitting? s
      else if Text.startsWith acePrefix s then none
      else fitting? (acePrefix ++ Punycode.encode s)

/-- The name in ASCII; one empty label is allowed at its end. -/
def toAscii? (name : Text) : Option Text :=
  let labels := Text.splitWhere Hostname.isDot name
  let body := if labels.getLast? = some [] then labels.dropLast else labels
  match body.mapM labelToAscii? with
  | none => none
  | some parts => some (Text.join ['.'] parts ++ if body.length < labels.length then ['.'] else [])

/-- The name in ASCII, or the name itself if it is ASCII or cannot be written so. -/
def toAscii (name : Text) : Text := if name.isAscii then name else (toAscii? name).getD name

/-! ### Names within a text -/

/-- A character that can be part of a name within a rule. -/
def isNamePart (c : Char) : Bool :=
  !(isBlank c || ['^', '$', '|', '=', ',', '/', '~'].elem c)

/-- A dot with something on both sides. -/
def hasInnerDot (s : Text) : Bool := (s.drop 1).dropLast.elem '.'

/-- A run of name characters, with the name in it written in ASCII. -/
def runToAscii (s : Text) : Text :=
  match Text.dropPrefix? ['*', '.'] s with
  | some name =>
    if hasInnerDot name then ['*', '.'] ++ toAscii name
    else if hasInnerDot s then toAscii s else s
  | none => if hasInnerDot s then toAscii s else s

/-- The text with every dotted run of name characters written in ASCII; `run` is the run so far. -/
def namesToAsciiAfter (run : Text) : Text → Text
  | [] => runToAscii run
  | c :: s =>
    if isNamePart c then namesToAsciiAfter (run ++ [c]) s
    else runToAscii run ++ c :: namesToAsciiAfter [] s

/-- The text with every dotted name in it written in ASCII. -/
def namesToAscii (s : Text) : Text := if s.isAscii then s else namesToAsciiAfter [] s

end Idna
end Blocklist
