import Blocklist.Hostname.Idna
import Blocklist.Rule.Reading

/-!
# Lines in ASCII

`convertToAscii` writes the internationalized names of hosts lines, of patterns and of the modifiers
that list domains in ASCII. Comments, and lines that are ASCII, stay as they are.
-/

namespace Blocklist.Transform

/-- The modifiers whose values are lists of domains. -/
def domainListModifiers : List Text := ["domain", "denyallow", "client"]

/-- One domain of a list, negated or not, in ASCII. -/
def asciiItem : Text → Text
  | '~' :: name => '~' :: Idna.toAscii name
  | name => Idna.toAscii name

/-- A modifier with the domains of its list in ASCII. -/
def asciiModifier (m : Modifier) : Modifier :=
  match m.value with
  | none => m
  | some v =>
    if domainListModifiers.elem m.name && v ≠ [] then
      ⟨m.name, some (Text.join ['|'] ((v.splitOn '|').map asciiItem))⟩
    else m

/-- A rule with its names in ASCII. -/
def asciiRule (r : AdblockRule) : AdblockRule :=
  { r with
    pattern := if r.isRegex then r.pattern else Idna.namesToAscii r.pattern
    modifiers := r.modifiers.map asciiModifier }

/-- The names of a line in ASCII. -/
def asciiLine (line : Text) : Text :=
  if isCommentOrBlank line || line.isAscii then line
  else
    match HostsRule.read line with
    | .ok r => HostsRule.text ⟨r.ip, r.hostnames.map Idna.toAscii⟩
    | .error _ =>
      match AdblockRule.read? line with
      | some r => (asciiRule r).text
      | none => Idna.namesToAscii line

/-- The lines with their names in ASCII. -/
def convertToAscii (lines : List Text) : List Text := lines.map asciiLine

end Blocklist.Transform
