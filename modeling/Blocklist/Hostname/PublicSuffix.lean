import Blocklist.Hostname.Syntax
import Blocklist.Text.Blank
import Blocklist.Text.Case

/-!
# Public suffixes

A public suffix is an end of names under which anyone can register a name of their own. Which ends are
public is told by a list that is kept elsewhere; a name that is not on it has its last label as its
suffix.
-/

namespace Blocklist

/-- A public suffix list: the end of a name in lower case that is public, and nothing if the name is not
on the list. -/
structure SuffixList where
  find : Text → Text

/-- The public suffix of a name, in lower case. -/
def publicSuffix? (psl : SuffixList) (name : Text) : Option Text :=
  let d := Text.dropEndWhile (· = '.') name.trim.lower
  if d = [] then none
  else if psl.find d ≠ [] then some (psl.find d)
  else
    match (d.splitOn '.').getLast? with
    | some last => if Hostname.isValid last then some last else none
    | none => none

end Blocklist
