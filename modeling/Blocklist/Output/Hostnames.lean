import Blocklist.Rule.Reading

/-!
# The hostnames of a list

Software that knows no patterns gets hostnames. `blocked` gives those that hosts lines, bare domains and
patterns name, `allowed` those that exceptions name, and `canonical` the blocked ones that no exception
names, each once, in the order of their first appearance.
-/

namespace Blocklist.Output

/-- The hostname of a pattern without anchors, wildcard in front, separator and dot at the end; none
if something else than a hostname with a dot is left. -/
def patternHost? (pattern : Text) : Option Text :=
  let s := [domainMark, ['|'], [wildcard, '.'], [':', '/', '/']].foldl
    (fun s p => Text.removePrefix p s) pattern
  let s := Text.removeSuffix [separator] (Text.dropEndWhile (· = '|') s)
  let host := Text.lower (Text.removeSuffix ['.'] s)
  if host.elem wildcard || !Hostname.isValid host || !host.elem '.' then none else some host

/-- What a line says about hostnames: that they are blocked, or that one is allowed. -/
inductive Mention where
  | blocked (hosts : List Text)
  | allowed (host : Text)
deriving DecidableEq, Repr

/-- A hostname in lower case and without dots at its end. -/
def plainForm (s : Text) : Text := Text.dropEndWhile (· = '.') s.lower

/-- What a line says about hostnames. -/
def mention (line : Text) : Mention :=
  if isCommentOrBlank line then .blocked []
  else
    match HostsRule.read line.trim with
    | .ok r => .blocked (r.hostnames.map plainForm)
    | .error _ =>
      if isBareDomain line.trim then .blocked [plainForm line.trim]
      else
        match AdblockRule.read? line.trim with
        | none => .blocked []
        | some r =>
          if r.isRegex then .blocked []
          else
            match patternHost? r.pattern with
            | none => .blocked []
            | some host => if r.exception then .allowed host else .blocked [host]

/-- The hostnames that a mention blocks. -/
def Mention.blockedHosts : Mention → List Text
  | .blocked hosts => hosts
  | .allowed _ => []

/-- The hostname that a mention allows. -/
def Mention.allowedHost? : Mention → Option Text
  | .blocked _ => none
  | .allowed host => some host

/-- The blocked hostnames in the order of their first appearance. -/
def blocked (lines : List Text) : List Text :=
  (lines.flatMap fun l => (mention l).blockedHosts).eraseDups

/-- The allowed hostnames. -/
def allowed (lines : List Text) : List Text :=
  (lines.filterMap fun l => (mention l).allowedHost?).eraseDups

/-- The hostnames that are blocked and not allowed. -/
def canonical (lines : List Text) : List Text :=
  (blocked lines).filter (· ∉ allowed lines)

end Blocklist.Output
