import Blocklist.Optimize.Merging
import Blocklist.Optimize.Modifiers
import Blocklist.Optimize.Patterns

/-!
# The optimizer

`optimize` runs the stages that are switched on, in a fixed order, and reports what they did. All
stages but merging leave what a list blocks as it is; merging is off by default.
-/

namespace Blocklist.Optimize

/-- The least size of a group that is merged, if nothing else is asked for. -/
def defaultThreshold : Int := 3

/-- Which stages run. -/
structure Settings where
  removeRedundant : Bool := true
  optimizePatterns : Bool := true
  simplifyModifiers : Bool := true
  mergeRules : Bool := false
  mergeThreshold : Int := defaultThreshold
deriving DecidableEq, Repr

/-- A stage that runs only if it is switched on. -/
def runIf (on : Bool) (stage : List Text → Stats → List Text × Stats) (p : List Text × Stats) :
    List Text × Stats :=
  if on then stage p.1 p.2 else p

/-- The optimized list, with statistics that start from zero. -/
def optimize (psl : SuffixList) (settings : Settings) (lines : List Text) :
    Except MergeError (List Text × Stats) := do
  let p := (lines, { original := lines.length : Stats })
  let p := runIf settings.removeRedundant (removeRedundant psl) p
  let p := runIf settings.optimizePatterns optimizePatterns p
  let p := runIf settings.simplifyModifiers simplifyModifiers p
  let (out, s) ← if settings.mergeRules then mergeRules settings.mergeThreshold p.1 p.2 else .ok p
  .ok (out, { s with final := out.length, reduction := reductionOf s.original out.length })

end Blocklist.Optimize
