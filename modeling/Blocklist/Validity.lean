import Blocklist.Cascade
import Blocklist.Hostname.Basic
import Blocklist.Rule.Reading

/-!
# Validity

Which lines a blocker on the level of DNS can use. `verdict` tells of a line whether it is a rule at
all, what kind of rule it is kept as, or for which fault it is removed. `Validator.sweep` removes the
faulty lines of a list with the comments above them and counts the verdicts.
-/

namespace Blocklist

/-- The kinds of rules that are kept. -/
inductive RuleKind where
  | regex
  | hosts
  | domain
  | other
deriving DecidableEq, Repr

/-- The faults for which a rule is removed. -/
inductive Fault where
  | malformed
  | modifier
  | hostname
deriving DecidableEq, Repr

/-- What a line is to a validator. -/
inductive Verdict where
  | notRule
  | kept (kind : RuleKind)
  | removed (fault : Fault)
deriving DecidableEq, Repr

/-- Whether a line with this verdict may stay. -/
def Verdict.ok : Verdict → Bool
  | .removed _ => false
  | _ => true

namespace Validity

variable (psl : SuffixList)

/-- The modifiers that limit a rule to some clients or domains. -/
def limiting : List Text := ["denyallow", "badfilter", "client"]

/-- The modifiers that mean something on the level of DNS. -/
def supported : List Text :=
  limiting ++ (["important", "~important", "ctag", "dnstype", "dnsrewrite"] : List Text)

/-- The least number of characters of a pattern. -/
def minPatternLength : Nat := 5

/-- A character that a pattern may have, unless it is a regular expression. -/
def isPatternChar (c : Char) : Bool := c.isAlphanum || ['-', '.', '*', '|', '^'].elem c

/-- Nothing but characters that a pattern may have; a scheme mark in front and a line feed at the end
are not looked at. -/
def hasPatternChars (pattern : Text) : Bool :=
  let s := Text.dropLineFeed (Text.removePrefix [':', '/', '/'] pattern)
  s ≠ [] && s.all isPatternChar

/-- Whether a hostname may be blocked: an address only if addresses are allowed, and a whole public
suffix only by a limited rule. -/
def hostnameOk (allowIp limited : Bool) (s : Text) : Bool :=
  match HostText.read psl s with
  | .invalid => false
  | .address _ => allowIp
  | .name name suffix => limited || some name ≠ suffix

/-- The verdict on a hosts line. -/
def hostsVerdict (allowIp : Bool) (line : Text) : Verdict :=
  match HostsRule.read line with
  | .error _ => .removed .malformed
  | .ok r =>
    if r.hostnames ≠ [] && r.hostnames.all (hostnameOk psl allowIp false) then .kept .hosts
    else .removed .hostname

/-- The verdict on a pattern that starts with the domain mark and has `domain` before its first
separator and `rest` after it. -/
def anchoredVerdict (allowIp limited : Bool) (domain rest : Text) : Verdict :=
  if domain.elem wildcard then
    -- a wildcard in front of a whole public suffix is judged like the suffix itself
    match Text.dropPrefix? [wildcard, '.'] domain with
    | some bare =>
      if publicSuffix? psl bare = some bare then
        if hostnameOk psl allowIp limited bare then .kept .domain else .removed .hostname
      else .kept .other
    | none => .kept .other
  else if domain ≠ [] && !hostnameOk psl allowIp limited domain then .removed .hostname
  else if rest ≠ [] && rest.head? ≠ some '|' then .removed .malformed
  else .kept .domain

/-- The verdict on the pattern of a rule that is no regular expression. -/
def patternVerdict (allowIp limited : Bool) (pattern : Text) : Verdict :=
  if !hasPatternChars pattern then .removed .malformed
  else
    match Text.cut? [separator] pattern with
    | none => .kept .other
    | some (front, rest) =>
      if !front.elem wildcard && rest.elem wildcard then .removed .malformed
      else
        match Text.dropPrefix? domainMark front with
        | none => .kept .other
        | some domain => anchoredVerdict psl allowIp limited domain rest

/-- The verdict on an adblock rule. -/
def ruleVerdict (allowIp : Bool) (r : AdblockRule) : Verdict :=
  let names := r.modifiers.map (·.name)
  if !names.all supported.elem then .removed .modifier
  else if r.pattern.length < minPatternLength then .removed .malformed
  else if r.isRegex then .kept .regex
  else patternVerdict psl allowIp (names.any limiting.elem) r.pattern

/-- The verdict on a line that is read as an adblock rule. -/
def adblockVerdict (allowIp : Bool) (line : Text) : Verdict :=
  match AdblockRule.read line with
  | .error _ => .removed .malformed
  | .ok r => ruleVerdict psl allowIp r

/-- The verdict on a line. -/
def verdict (allowIp : Bool) (line : Text) : Verdict :=
  if isCommentOrBlank line then .notRule
  else if isHostsLine line.trim then hostsVerdict psl allowIp line.trim
  else adblockVerdict psl allowIp line.trim

/-- Whether a line may stay. -/
def isValid (allowIp : Bool) (line : Text) : Bool := (verdict psl allowIp line).ok

/-! ### Counts -/

/-- Counts of lines and of verdicts. -/
structure Counts where
  linesIn : Nat := 0
  linesOut : Nat := 0
  invalid : Nat := 0
  modifier : Nat := 0
  hostname : Nat := 0
  malformed : Nat := 0
  comments : Nat := 0
  regex : Nat := 0
  hosts : Nat := 0
  domain : Nat := 0
  other : Nat := 0
deriving DecidableEq, Repr

/-- The counts after one more verdict. -/
def Counts.add (c : Counts) : Verdict → Counts
  | .notRule => c
  | .kept .regex => { c with regex := c.regex + 1 }
  | .kept .hosts => { c with hosts := c.hosts + 1 }
  | .kept .domain => { c with domain := c.domain + 1 }
  | .kept .other => { c with other := c.other + 1 }
  | .removed .malformed => { c with malformed := c.malformed + 1 }
  | .removed .modifier => { c with modifier := c.modifier + 1 }
  | .removed .hostname => { c with hostname := c.hostname + 1 }

/-- The names of the counts, with their values. -/
def Counts.entries (c : Counts) : List (Text × Nat) := [
  ("lines_in", c.linesIn), ("lines_out", c.linesOut), ("removed_invalid", c.invalid),
  ("removed_bad_modifier", c.modifier), ("removed_invalid_host", c.hostname),
  ("removed_malformed", c.malformed), ("removed_comments", c.comments), ("kept_regex", c.regex),
  ("kept_hosts", c.hosts), ("kept_adblock_domain", c.domain), ("kept_other_adblock", c.other)]

/-! ### Lists -/

/-- What a line is to the cascade. -/
def mark (allowIp : Bool) (line : Text) : Mark :=
  if !isValid psl allowIp line then .removed else if isCommentOrBlank line then .attached else .kept

/-- The valid lines of a list, and the counts after it. -/
def sweep (allowIp : Bool) (lines : List Text) (c : Counts) : List Text × Counts :=
  let s := Cascade.sweep (mark psl allowIp) lines
  let c := lines.foldr (fun l c => c.add (verdict psl allowIp l)) c
  (s.kept,
    { c with
      linesIn := c.linesIn + lines.length
      linesOut := c.linesOut + s.kept.length
      invalid := c.invalid + s.removed
      comments := c.comments + s.lost })

/-- The valid lines of a list. -/
def validLines (allowIp : Bool) (lines : List Text) : List Text := (sweep psl allowIp lines {}).1

end Validity
end Blocklist
