import Blocklist.Source.Url
import Blocklist.Text.Blank
import Blocklist.Text.Case

/-!
# Locations

The name of a source is a URL of the web or the path of a file. An included source is named relative
to the one that includes it: by the rules for URLs, or in the directory of the including file, whose
path is cut after its last slash or backslash and not normalized.
-/

namespace Blocklist.Location

/-- Whether `s` starts with `p` when case is ignored. -/
def startsWithIgnoringCase (p s : Text) : Bool :=
  (s.take p.length).map Case.fold = p.map Case.fold

/-- A URL of the web; everything else is the path of a file. -/
def isUrl (s : Text) : Bool :=
  startsWithIgnoringCase "http://".toList s || startsWithIgnoringCase "https://".toList s

/-- A path that starts with a drive letter. -/
def hasDrive : Text → Bool
  | c :: ':' :: d :: _ => c.isAlpha && (d = '/' || d = '\\')
  | _ => false

/-- A location that does not depend on where it is named. -/
def isAbsolute (s : Text) : Bool := s.head? = some '/' || hasDrive s || isUrl s

/-- The location that the source `base` names as `path`; none if one of them is a malformed URL. -/
def resolve? (path base : Text) : Option Text :=
  let path := path.trim
  if isAbsolute path then some path
  else if isUrl base then Url.join? base path
  else
    match Text.cutAfterLast? (fun c => c = '/' || c = '\\') base with
    | some (folder, _) => some (folder ++ path)
    | none => some path

end Blocklist.Location
