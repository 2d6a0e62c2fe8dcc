import Blocklist.Text.Blank

/-!
# Lines and directives

A line of a source knows where it comes from. `Directive.of?` tells whether a line is a directive; all
other lines are content.
-/

namespace Blocklist

/-- A line with the source it comes from and its number in it, from 1 on. -/
structure SourceLine where
  text : Text
  source : Text
  number : Nat
deriving DecidableEq, Repr

namespace SourceLine

/-- The texts of the lines of `s`, which line feeds end, alone or after a carriage return. A text that
ends with one has no empty line after it. -/
def texts (s : Text) : List Text :=
  let pieces := s.splitOn '\n'
  let last := pieces.getLastD []
  pieces.dropLast.map (Text.removeSuffix ['\r']) ++ if last = [] then [] else [last]

/-- Lines of a source, the first of which has the number `first`. -/
def numbered (source : Text) (first : Nat) : List Text → List SourceLine
  | [] => []
  | s :: rest => ⟨s, source, first⟩ :: numbered source (first + 1) rest

/-- The lines of the text of a source. -/
def split (s source : Text) : List SourceLine := numbered source 1 (texts s)

end SourceLine

/-- A directive. `closesSafari` says that the line is nothing but the mark of a Safari block. -/
inductive Directive where
  | opening (condition : Text)
  | alternative
  | closing
  | inclusion (path : Text)
  | safari (closesSafari : Bool)
deriving DecidableEq, Repr

namespace Directive

/-- The mark that opens a conditional block. -/
def openingMark : Text := "!#if"

/-- The mark between the branches of a conditional block. -/
def alternativeMark : Text := "!#else"

/-- The mark that closes a conditional block. -/
def closingMark : Text := "!#endif"

/-- The mark of an included source. -/
def inclusionMark : Text := "!#include"

/-- The mark of a block for Safari alone. -/
def safariMark : Text := "!#safari_cb_affinity"

/-- The directive that a line is, if it is one. Blanks around it say nothing, and what follows a mark
need not be set off. -/
def of? (line : Text) : Option Directive :=
  let s := line.trim
  match Text.dropPrefix? openingMark s with
  | some rest => some (.opening (Text.trim rest))
  | none =>
    if Text.startsWith alternativeMark s then some .alternative
    else if Text.startsWith closingMark s then some .closing
    else
      match Text.dropPrefix? inclusionMark s with
      | some rest => some (.inclusion (Text.trim rest))
      | none =>
        (Text.dropPrefix? safariMark s).map fun rest => .safari (rest = [])

end Directive
end Blocklist
