import Blocklist.Compile.Filters
import Blocklist.Compile.Tables
import Blocklist.Config.Basic

/-!
# Stages

What is done to a list of lines: filters that drop lines, filters that keep lines, the transformations
before the optimizer, the optimizer if it is asked for, and the transformations after it. The order is
always this one.
-/

namespace Blocklist

/-- A list that went through its stages, with their names and what the optimizer did. -/
structure Staged where
  lines : List Text
  applied : List Text := []
  stats : Option Optimize.Stats := none

namespace Staged

variable {σ : Type}

/-- A stage by filters, which counts only if there are any. -/
def filterBy (stage : List Filter → List Text → List Text) (name : Text) (filters : List Filter)
    (s : Staged) : Staged :=
  if filters.isEmpty then s
  else { s with lines := stage filters s.lines, applied := s.applied ++ [name] }

/-- Those of the transformations `order` that are enabled. -/
def transform (psl : SuffixList) (order enabled : List Transformation) (s : Staged) : Staged :=
  { s with
    lines := Transformation.runEnabled psl order enabled s.lines
    applied := s.applied ++ (order.filter (· ∈ enabled)).map (·.name) }

/-- The optimizer, if it is asked for. -/
def optimize (psl : SuffixList) (settings : Option Optimize.Settings) (s : Staged) :
    Except Failure Staged :=
  match settings with
  | none => .ok s
  | some settings =>
    match Optimize.optimize psl settings s.lines with
    | .ok (lines, stats) => .ok ⟨lines, s.applied ++ ["RuleOptimizer".toList], some stats⟩
    | .error e => .error (.merge e)

/-- A list after the stages that follow its filters. -/
def finish (psl : SuffixList) (enabled : List Transformation) (settings : Option Optimize.Settings)
    (s : Staged) : Except Failure Staged := do
  let s ← optimize psl settings (transform psl Transformation.beforeOptimizer enabled s)
  return transform psl Transformation.afterOptimizer enabled s

/-- A list after all its stages. -/
def run (tables : Tables) (f : Fetcher σ) (settings : ListSettings)
    (optimization : Option Optimize.Settings) (lines : List Text) : Attempt Failure σ Staged := do
  let gather := Filter.gather tables.characters (Filter.textsOf f)
  let exclusions ← gather settings.exclusions settings.exclusionSources
  let s := filterBy Filter.exclude "Exclude" exclusions ⟨lines, [], none⟩
  let inclusions ← gather settings.inclusions settings.inclusionSources
  let s := filterBy Filter.keepOnly "Include" inclusions s
  match finish tables.suffixes settings.transformations optimization s with
  | .ok s => return s
  | .error e => throw e

end Staged
end Blocklist
