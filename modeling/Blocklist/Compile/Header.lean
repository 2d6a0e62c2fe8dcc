import Blocklist.Config.Basic
import Blocklist.Digest.Base64
import Blocklist.Digest.Sha256
import Blocklist.Program
import Blocklist.Text.Utf8
import Blocklist.Timestamp

/-!
# Headers

A compiled list starts with a header that names it, and the lines of each source start with a header
that names the source. The metadata that sources bring with them are stripped. The list carries a
checksum of its other lines.
-/

namespace Blocklist.Header

/-- The start of a comment line that says something about a list. -/
def labels : List Text :=
  ["! Title:", "! Description:", "! Homepage:", "! License:", "! Version:", "! Last modified:",
    "! Expires:", "! TimeUpdated:", "! Checksum:", "! Compiled by ", "! Diff-Path:",
    "! Diff-Expires:"]

/-- A comment line that says nothing. -/
def bare : Text := "!"

/-- The start of the line that names the program. -/
def compiledBy : Text := "! Compiled by"

/-- The start of the line with the checksum. -/
def checksumLabel : Text := "! Checksum:"

/-- A line with a label, if there is something to say. -/
def entry (label : Text) (value : Option Text) : List Text :=
  match value with
  | some (c :: s) => [label ++ ' ' :: c :: s]
  | _ => []

/-- The header of a list. -/
def ofList (c : Configuration) (t : Timestamp) : List Text :=
  [bare, "! Title: " ++ c.name] ++ entry "! Description:" c.description ++
    entry "! Version:" c.version ++ entry "! Homepage:" c.homepage ++
    entry "! License:" c.license ++
    ["! Last modified: " ++ t.utcText, bare, compiledBy ++ ' ' :: Program.signature, bare]

/-- The header of a source. -/
def ofSource (s : Source) : List Text :=
  [bare] ++ entry "! Source name:" s.name ++ ["! Source: " ++ s.location, bare]

/-- Whether a line says something about a list. -/
def isMetadata (line : Text) : Bool := labels.any fun label => Text.startsWith label line.trim

/-- The lines with a run of bare lines at the start cut to one. -/
def collapseBare : List Text → List Text
  | a :: b :: rest =>
    if a.trim = bare && b.trim = bare then collapseBare (b :: rest) else a :: b :: rest
  | lines => lines

/-- The lines of a source without metadata. -/
def strip (lines : List Text) : List Text := collapseBare (lines.filter fun l => !isMetadata l)

/-! ### Checksums -/

/-- The number of characters of a checksum. -/
def checksumLength : Nat := 27

/-- The checksum of a list; lines with a checksum do not count. -/
def checksum (lines : List Text) : Text :=
  let content := Text.join ['\n'] (lines.filter fun l => !Text.startsWith checksumLabel l)
  (Base64.encode (Sha256.digest (Utf8.encode content))).take checksumLength

/-- The line with a checksum. -/
def checksumLine (lines : List Text) : Text := checksumLabel ++ ' ' :: checksum lines

/-- Whether a line is a rule, and so belongs to no header. -/
def isRule (line : Text) : Bool := !line.isBlankText && !Text.startsWith bare line

/-- The lines with `new` before the line that names the program, and before a bare line in front of
that; if no line names the program, before the first rule. -/
def insert (new : Text) (lines : List Text) : List Text :=
  match lines.span fun l => !Text.contains compiledBy l with
  | (_, []) =>
    let (header, rules) := lines.span fun l => !isRule l
    header ++ new :: rules
  | (before, after) =>
    if before.getLast? = some bare then before.dropLast ++ new :: bare :: after
    else before ++ new :: after

/-- The lines with their checksum. -/
def addChecksum (lines : List Text) : List Text := insert (checksumLine lines) lines

end Blocklist.Header
