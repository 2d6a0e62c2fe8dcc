import Blocklist.Optimize.Redundancy

/-!
# Simpler patterns

Three ways to write a pattern more simply: a slash after a hostname is a separator, a wildcard right
after the domain mark says nothing, and neither does one right before the last separator.
-/

namespace Blocklist.Optimize

/-- The domain mark, a name, a slash, and nothing else but a line feed. -/
def isNameWithSlash (pattern : Text) : Bool :=
  match Text.dropPrefix? domainMark pattern with
  | none => false
  | some s =>
    s.takeWhile AdblockRule.isAnchoredChar ≠ [] &&
      Text.dropLineFeed (s.dropWhile AdblockRule.isAnchoredChar) = ['/']

/-- A slash after a hostname becomes a separator. -/
def slashStep? (pattern : Text) : Option Text :=
  if isNameWithSlash pattern then some (pattern.dropLast ++ [separator]) else none

/-- A wildcard after the domain mark goes, with a dot after it. -/
def leadingStep? (pattern : Text) : Option Text :=
  (Text.dropPrefix? (domainMark ++ [wildcard]) pattern).map fun rest =>
    domainMark ++ Text.removePrefix ['.'] rest

/-- A wildcard before the last separator goes. -/
def trailingStep? (pattern : Text) : Option Text :=
  (Text.dropSuffix? [wildcard, separator] pattern).map (· ++ [separator])

/-- One step on a pattern, where `n` steps are done. -/
def applyStep (p : Text × Nat) (step? : Text → Option Text) : Text × Nat :=
  match step? p.1 with
  | some q => (q, p.2 + 1)
  | none => p

/-- The pattern after each step has been tried once, and the number of steps that did something. -/
def simplifyPattern (pattern : Text) : Text × Nat :=
  [slashStep?, leadingStep?, trailingStep?].foldl applyStep (pattern, 0)

/-- The line with its pattern simplified, and the number of steps. -/
def simplifyLine (line : Text) : Text × Nat :=
  match ruleOf? line with
  | none => (line, 0)
  | some r =>
    if r.isRegex then (line, 0)
    else
      match simplifyPattern r.pattern with
      | (_, 0) => (line, 0)
      | (pattern, n) => ({ r with pattern := pattern : AdblockRule }.text, n)

/-- The lines with their patterns simplified. -/
def optimizePatterns (lines : List Text) (s : Stats) : List Text × Stats :=
  let done := lines.map simplifyLine
  (done.map (·.1), { s with optimized := s.optimized + (done.map (·.2)).foldr (· + ·) 0 })

end Blocklist.Optimize
