import Blocklist.Compile.Failure
import Blocklist.Directive.Download

/-!
# Gathering filters

Filters are given as they are or by sources that hold one a line. A source that cannot be had is passed
over with a warning.
-/

namespace Blocklist.Filter

variable {σ : Type}

/-- The filters that a text holds: its lines without blanks around them, but no comments. -/
def textsIn (s : Text) : List Text :=
  (Text.lines s).filterMap fun l =>
    let l := Text.trim l
    if l = [] || isComment l then none else some l

/-- The texts of the filters in a source. -/
def textsOf (f : Fetcher σ) (location : Text) : Attempt Failure σ (List Text) := do
  match ← f.fetch location true with
  | .ok s => return textsIn s
  | .error e =>
    if e.isExpected then
      f.warn ("Failed to load filter source " ++ location ++ ": " ++ e.message)
      return []
    else throw (.download (.fetch e))

/-- No filters, because there is nothing to fetch a source with. -/
def skipSource (f : Fetcher σ) (location : Text) : Attempt Failure σ (List Text) := do
  f.warn ("No fetcher available, skipping filter source " ++ location)
  return []

/-- The filters that texts write. -/
def readAll (names : Regex.CharNames) (texts : List Text) : Except FilterError (List Filter) :=
  texts.mapM (read names)

/-- The filters that patterns write and that sources hold, each once, where `textsOf` gives the texts
in a source. -/
def gather (names : Regex.CharNames) (textsOf : Text → Attempt Failure σ (List Text))
    (patterns sources : List Text) : Attempt Failure σ (List Filter) := do
  let given := patterns.filter fun p => !p.isBlankText
  let fetched ← sources.mapM textsOf
  match readAll names (given ++ fetched.flatten).eraseDups with
  | .ok filters => return filters
  | .error e => throw (.filter e)

end Blocklist.Filter
