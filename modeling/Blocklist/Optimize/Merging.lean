import Blocklist.Optimize.Redundancy

/-!
# Merged rules

Rules that differ only in the domains of their `domain` modifier form a group. A group that is large
enough becomes one rule, in the place of its first member, with the domains of all members. Merging
fails if the first domain modifier of a member, negated ones included, has no value.
-/

namespace Blocklist.Optimize

/-- The modifier that lists domains. -/
def domainModifier : Text := "domain"

/-- What the members of a group share: the exception flag, the pattern, and the modifiers other than
`domain`. -/
structure MergeKey where
  exception : Bool
  pattern : Text
  others : List Modifier
deriving DecidableEq

/-- Whether a modifier lists some domains. -/
def listsDomains (m : Modifier) : Bool := m.name = domainModifier && m.value.any (· ≠ [])

/-- The key of a rule in which exactly one modifier lists domains. -/
def mergeKey? (r : AdblockRule) : Option MergeKey :=
  if (r.modifiers.filter listsDomains).length = 1 then
    some ⟨r.exception, r.pattern, r.modifiers.filter (·.name ≠ domainModifier)⟩
  else none

/-- The rule of a line that can be merged, with its key. -/
def mergeable? (line : Text) : Option (MergeKey × AdblockRule) :=
  (ruleOf? line).bind fun r => (mergeKey? r).map fun k => (k, r)

/-- The members of the group of a key. -/
def membersOf (key : MergeKey) (lines : List Text) : List AdblockRule :=
  (lines.filterMap mergeable?).filterMap fun (k, r) => if k = key then some r else none

/-- A member whose first domain modifier has no value. -/
structure MergeError where
  rule : AdblockRule
deriving DecidableEq, Repr

/-- The domains of a member. -/
def domainsOf (r : AdblockRule) : Except MergeError (List Text) :=
  match (r.findModifier? domainModifier).bind (·.value) with
  | some v => .ok (v.splitOn '|')
  | none => .error ⟨r⟩

/-- The rule for a group whose first member is `first`. -/
def mergedRule (first : AdblockRule) (domains : List Text) : AdblockRule :=
  let merged : Modifier := ⟨domainModifier, some (Text.join ['|'] domains.eraseDups)⟩
  { first with
    modifiers := first.modifiers.map fun m => if m.name = domainModifier then merged else m }

/-- The lines with the groups of at least `threshold` members merged, and the number of lines that
are gone, where `all` is the whole list and `seen` are the keys of the groups merged further up. -/
def mergeLines (threshold : Int) (all : List Text) (seen : List MergeKey) :
    List Text → Except MergeError (List Text × Nat)
  | [] => .ok ([], 0)
  | l :: rest =>
    match mergeable? l with
    | none => (mergeLines threshold all seen rest).map fun (out, n) => (l :: out, n)
    | some (key, r) =>
      if key ∈ seen then (mergeLines threshold all seen rest).map fun (out, n) => (out, n + 1)
      else
        let members := membersOf key all
        if members.length < threshold then
          (mergeLines threshold all seen rest).map fun (out, n) => (l :: out, n)
        else do
          let domains ← members.mapM domainsOf
          let (out, n) ← mergeLines threshold all (key :: seen) rest
          .ok ((mergedRule r domains.flatten).text :: out, n)

/-- The lines with their groups merged. -/
def mergeRules (threshold : Int) (lines : List Text) (s : Stats) :
    Except MergeError (List Text × Stats) :=
  (mergeLines threshold lines [] lines).map fun (out, n) =>
    (out, { s with merged := s.merged + n })

end Blocklist.Optimize
