import Blocklist.Hostname.PublicSuffix
import Blocklist.Optimize.Stats
import Blocklist.Transform.Compress

/-!
# Redundant rules

A plain rule is one for a whole hostname, without exception and modifiers. `removeRedundant` drops a
plain rule if there is one for a registrable ancestor of its hostname, or an earlier one for the same
hostname; only the former are counted. No other line is touched.
-/

namespace Blocklist.Optimize

/-- A line that is neither comment nor blank nor hosts line. -/
def isCandidate (line : Text) : Bool := !isCommentOrBlank line && !isHostsLine line

/-- The adblock rule of a line that the optimizer looks at. -/
def ruleOf? (line : Text) : Option AdblockRule :=
  if isCandidate line then AdblockRule.read? line else none

/-- The hostname of a line that is a plain rule. -/
def plainHostOf? (line : Text) : Option Text := (ruleOf? line).bind Transform.plainHost?

/-- The ancestors of a hostname that are longer than its public suffix. -/
def parentDomains (psl : SuffixList) (host : Text) : List Text :=
  let suffix := (publicSuffix? psl host).getD []
  (Hostname.withAncestors host).filter fun p =>
    p ≠ host && p ≠ suffix && suffix.length < p.length

/-- The lines that stay, and how many were dropped for an ancestor, where `blocked` are the hostnames
of all plain rules and `seen` those of the plain rules further up. -/
def dropRedundant (psl : SuffixList) (blocked seen : List Text) : List Text → List Text × Nat
  | [] => ([], 0)
  | l :: rest =>
    match plainHostOf? l with
    | none => let (out, n) := dropRedundant psl blocked seen rest; (l :: out, n)
    | some h =>
      if h ∈ seen then dropRedundant psl blocked seen rest
      else
        let (out, n) := dropRedundant psl blocked (h :: seen) rest
        if (parentDomains psl h).any (· ∈ blocked) then (out, n + 1) else (l :: out, n)

/-- The lines without redundant plain rules. -/
def removeRedundant (psl : SuffixList) (lines : List Text) (s : Stats) : List Text × Stats :=
  let (out, n) := dropRedundant psl (lines.filterMap plainHostOf?) [] lines
  (out, { s with redundant := s.redundant + n })

end Blocklist.Optimize
