import Blocklist.Filter.Glob
import Blocklist.Regex.Reading
import Blocklist.Text.Case

/-!
# Filters

A filter picks lines of a list. It is a regular expression between slashes, a glob with stars, or a
plain text that occurs in the line.
-/

namespace Blocklist

/-- How a filter picks lines. -/
inductive Filter where
  | plain (text : Text)
  | glob (text : Text)
  | regex (text : Text) (expression : Regex)
deriving Repr

/-- Why a text is no filter. -/
inductive FilterError where
  | empty
  | badRegex (text : Text) (pattern : Text) (fault : Regex.Fault)
deriving DecidableEq, Repr

/-- Whether the error is one of the form of a text; the others end a run. -/
def FilterError.isExpected : FilterError → Bool
  | .empty => true
  | .badRegex _ _ fault => fault.kind.isExpected

/-- The text of the error, without what is wrong with an expression. -/
def FilterError.summary : FilterError → Text
  | .empty => "Wildcard cannot be empty"
  | .badRegex text _ _ => "Invalid regular expression " ++ text

/-- The text of the error. -/
def FilterError.message : FilterError → Text
  | .badRegex text pattern fault =>
    if fault.kind.isExpected then
      (FilterError.badRegex text pattern fault).summary ++ ": " ++ fault.message pattern
    else fault.message pattern
  | e => e.summary

namespace Filter

/-- The flags of the regular expressions: case is ignored, and anchors know lines. -/
def regexMode : Regex.Mode := ⟨true, true, false, false⟩

/-- The expression between the slashes of a text of more than two characters. -/
def regexBody? (s : Text) : Option Text :=
  if 2 < s.length && s.head? = some '/' && s.getLast? = some '/' then some s.tail.dropLast else none

/-- The filter that a text writes. -/
def read (names : Regex.CharNames) (s : Text) : Except FilterError Filter :=
  if s = [] then .error .empty
  else
    match regexBody? s with
    | some body =>
      match Regex.read names regexMode body with
      | .ok r => .ok (.regex s r)
      | .error fault => .error (.badRegex s body fault)
    | none => .ok (if s.elem '*' then .glob s else .plain s)

/-- The text of a filter. -/
def text : Filter → Text
  | .plain s => s
  | .glob s => s
  | .regex s _ => s

/-- Whether a filter is a plain text. -/
def isPlain : Filter → Bool
  | .plain _ => true
  | _ => false

/-- Whether a filter picks the line. -/
def picks : Filter → Text → Bool
  | .plain s, line => Text.contains s line
  | .glob s, line => Glob.isMatch s line
  | .regex _ r, line => r.occursIn line

/-- The lines that no filter picks. -/
def exclude (filters : List Filter) (lines : List Text) : List Text :=
  lines.filter fun l => !filters.any (·.picks l)

/-- The lines that some filter picks; all lines if there is no filter. -/
def keepOnly (filters : List Filter) (lines : List Text) : List Text :=
  if filters.isEmpty then lines else lines.filter fun l => filters.any (·.picks l)

end Filter
end Blocklist
