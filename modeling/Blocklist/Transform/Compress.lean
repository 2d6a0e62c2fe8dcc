import Blocklist.Rule.Reading

/-!
# Compression

`compress` writes hosts lines and bare domains as rules for a hostname, keeps the first rule for each
hostname, and drops the rules that a rule for an ancestor covers. Every other line passes through.
-/

namespace Blocklist.Transform

/-- What a line gives to a compressed list: a rule for a hostname, or a line that passes through. -/
inductive Entry where
  | rule (text host : Text)
  | other (text : Text)
deriving DecidableEq, Repr

/-- The line of an entry. -/
def Entry.text : Entry → Text
  | .rule text _ => text
  | .other text => text

/-- The hostname of an entry. -/
def Entry.host? : Entry → Option Text
  | .rule _ host => some host
  | .other _ => none

/-- The rule for a hostname. -/
def Entry.ofHost (host : Text) : Entry := .rule (domainMark ++ host ++ [separator]) host

/-- The hostname that the whole of a rule without exception and modifiers is about. -/
def plainHost? (r : AdblockRule) : Option Text :=
  if r.exception || r.modifiers ≠ [] then none else r.hostname?

/-- The entries of a line. -/
def entries (line : Text) : List Entry :=
  match HostsRule.read line with
  | .ok r => r.hostnames.map fun h => .ofHost h.lower
  | .error _ =>
    if isBareDomain line then [.ofHost (Text.dropEndWhile (· = '.') line.trim).lower]
    else if isCommentOrBlank line then [.other line]
    else
      match (AdblockRule.read? line).bind plainHost? with
      | some host => [.rule line host]
      | none => [.other line]

/-- The entries without those that repeat the hostname of an earlier one or one of `seen`. -/
def firstPerHost (seen : List Text) : List Entry → List Entry
  | [] => []
  | e :: rest =>
    match e.host? with
    | none => e :: firstPerHost seen rest
    | some h => if h ∈ seen then firstPerHost seen rest else e :: firstPerHost (h :: seen) rest

/-- Whether one of `hosts` is an ancestor of the hostname of the entry. -/
def Entry.isCovered (hosts : List Text) (e : Entry) : Bool :=
  match e.host? with
  | none => false
  | some h => (Hostname.withAncestors h).any fun p => p != h && hosts.elem p

/-- The compressed list. -/
def compress (lines : List Text) : List Text :=
  let kept := firstPerHost [] (lines.flatMap entries)
  let hosts := kept.filterMap Entry.host?
  (kept.filter (!·.isCovered hosts)).map Entry.text

end Blocklist.Transform
