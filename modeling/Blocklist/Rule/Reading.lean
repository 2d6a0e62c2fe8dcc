import Blocklist.Rule.Kind
import Blocklist.Text.Escaped
import Blocklist.Text.Quoted

/-!
# Reading lines

`Line.read` reads any line, `AdblockRule.read` and `HostsRule.read` a rule of one grammar. In an
adblock rule the last unescaped dollar sign separates the pattern from the modifiers, unless all of it
is a regular expression between slashes. `LineError` says why a line is no rule.
-/

namespace Blocklist

/-- Why a line is not a rule of a grammar; `absent` is no line at all. -/
inductive LineError where
  | absent
  | tooShort (line : Text)
  | noPattern (line : Text)
  | notHosts (line : Option Text)
deriving DecidableEq, Repr

/-- The text of the error. -/
def LineError.message : LineError → Text
  | .absent => "rule is None: " ++ Text.quoted []
  | .tooShort line => "the rule is too short: " ++ Text.quoted line
  | .noPattern line => "the rule has no pattern: " ++ Text.quoted line
  | .notHosts (some line) => "not an /etc/hosts rule: " ++ Text.quoted line
  | .notHosts none => "not an /etc/hosts rule: None"

/-- Reads a hosts line; a `#` starts a note that is not read. -/
def HostsRule.read (line : Text) : Except LineError HostsRule :=
  if isHostsLine line then
    match Text.words (line.trim.takeWhile (· ≠ '#')) with
    | ip :: hostnames => .ok ⟨ip, hostnames⟩
    | [] => .error (.notHosts line)
  else .error (.notHosts line)

/-- The modifier that a token between commas writes; none if it is blank. -/
def Modifier.ofToken? (token : Text) : Option Modifier :=
  let s := token.trim
  if s = [] then none
  else
    match Text.cut? ['='] s with
    | some (name, value) => some ⟨name.trim, some value.trim⟩
    | none => some ⟨s, none⟩

/-- The modifiers of a rule. -/
def Modifier.readAll (s : Text) : List Modifier :=
  (Text.splitEscaped ',' '\\' false s).filterMap Modifier.ofToken?

namespace AdblockRule

/-- The pattern and the modifiers of a rule without its exception mark. -/
def readBody (body : Text) : Text × List Modifier :=
  if isRegexPattern body then (body, [])
  else
    match Text.cutLastUnescaped? '$' body with
    | some (pattern, rest) => (pattern, Modifier.readAll rest)
    | none => (body, [])

/-- Reads an adblock rule. -/
def read (line : Text) : Except LineError AdblockRule :=
  let s := line.trim
  let body := Text.removePrefix exceptionMark s
  if body = [] then .error (.tooShort line)
  else
    let (pattern, modifiers) := readBody body
    if pattern = [] then .error (.noPattern line)
    else .ok ⟨Text.startsWith exceptionMark s, pattern, modifiers⟩

/-- The adblock rule of a line, if it is one. -/
def read? (line : Text) : Option AdblockRule :=
  match read line with
  | .ok r => some r
  | .error _ => none

end AdblockRule

namespace Line

/-- Reads a line of any kind. -/
def read (line : Text) : Except LineError Line :=
  if line.isBlankText then .ok .empty
  else if isComment line then .ok (.comment line.trim)
  else if isHostsLine line then (HostsRule.read line).map .hosts
  else (AdblockRule.read line).map .adblock

end Line

/-- A grammar that a line is read by. -/
inductive Grammar where
  | any
  | adblock
  | hosts
deriving DecidableEq, Repr

/-- Reads a line, or the absence of one, by a grammar. -/
def Grammar.read : Grammar → Option Text → Except LineError Line
  | .any, none => .ok .empty
  | .any, some line => Line.read line
  | .adblock, none => .error .absent
  | .adblock, some line => (AdblockRule.read line).map .adblock
  | .hosts, none => .error (.notHosts none)
  | .hosts, some line => (HostsRule.read line).map .hosts

end Blocklist
