import Blocklist.Text.Case

/-!
# Globs

A glob is a text in which `*` stands for any text. It matches a whole line, case ignored; a line feed
at the end of the line need not be matched.
-/

namespace Blocklist.Glob

/-- The text with each run of stars replaced by one. -/
def collapseStars : Text → Text
  | '*' :: '*' :: s => collapseStars ('*' :: s)
  | c :: s => c :: collapseStars s
  | [] => []

/-- The pieces of a glob between its runs of stars. -/
def pieces (glob : Text) : List Text := (collapseStars glob).splitOn '*'

/-- What follows `p` in `s`, if `s` starts with `p` when case is ignored. -/
def dropFolded? : (p s : Text) → Option Text
  | [], s => some s
  | _ :: _, [] => none
  | c :: p, d :: s => if Case.fold c = Case.fold d then dropFolded? p s else none

/-- Every end of a text, the text itself first. -/
def ends : Text → List Text
  | [] => [[]]
  | c :: s => (c :: s) :: ends s

/-- Whether the pieces occur one after the other in `s`, each after any text, and nothing but a line
feed follows the last one. -/
def matchRest : List Text → Text → Bool
  | [], s => s = [] || s = ['\n']
  | p :: rest, s =>
    (ends s).any fun t =>
      match dropFolded? p t with
      | some after => matchRest rest after
      | none => false

/-- Whether a glob of these pieces matches the line. -/
def matchPieces : List Text → Text → Bool
  | [], s => s = [] || s = ['\n']
  | p :: rest, s =>
    match dropFolded? p s with
    | some after => matchRest rest after
    | none => false

/-- Whether the glob matches the line. -/
def isMatch (glob line : Text) : Bool := matchPieces (pieces glob) line

end Blocklist.Glob
