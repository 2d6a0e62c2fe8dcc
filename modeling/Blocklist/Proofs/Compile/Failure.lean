import Blocklist.Proofs.Compile.Schedule
import Blocklist.Proofs.Directive.Failure
import Blocklist.Proofs.Optimize.Merging

/-!
# What makes compiling fail

Compiling leaves all files as they are, and a failure that is not reported has one of three causes: something was
fetched that is not harmless, a filter is an expression that is refused although nothing is wrong with its form, or a
rule that is to be merged lists its domains behind a domain modifier without a value (`Compiled.run_compile`).
-/

namespace Blocklist
open Attempt

/-! ### The steps of compiling -/

section
variable {σ : Type} {tables : Tables} {f : Fetcher σ} {o : DownloadOptions}

namespace Compiled

end Compiled

end

/-! ### Merging -/

namespace Optimize

variable {psl : SuffixList} {lines : List Text} {e : MergeError} {settings : Settings}

end Optimize

/-! ### What the steps keep -/

namespace Fetch
variable {o : FetchOptions} {url : Text} {allowEmpty : Bool} {w : World}

theorem files_attempts (left attempt : Nat) (w : World) :
    (attempts o url allowEmpty left attempt w).2.files = w.files := by
  induction left generalizing attempt w with
  | zero => rfl
  | succ left ih =>
    have hw : (request o url allowEmpty w).2.files = w.files := rfl
    rw [attempts]
    rcases hr : request o url allowEmpty w with ⟨e | s, w'⟩
    all_goals rw [hr] at hw
    · dsimp only
      split
      · split
        · exact (ih _ _).trans hw
        · exact hw
      · exact hw
    · exact hw

theorem files_source (location : Text) : (source o location allowEmpty w).2.files = w.files := by
  rw [source]
  split
  · exact files_attempts _ _ _
  · rfl

end Fetch

/-- The files are these, and everything on the list was fetched with `o`. -/
structure Kept (o : FetchOptions) (files : Files) (p : World × List Fetched) : Prop where
  files : p.1.files = files
  answered : ∀ x ∈ p.2, ∃ allowEmpty w, (Fetch.source o x.location allowEmpty w).1 = x.result

namespace Kept
variable {fo : FetchOptions} {files : Files} {p : World × List Fetched}

theorem note (h : Kept fo files p) (severity : Severity) (text : Text) :
    Kept fo files ((World.fetcher fo).recorded.note severity text p).2 :=
  ⟨h.files, h.answered⟩

theorem fetch (h : Kept fo files p) (location : Text) (allowEmpty : Bool) :
    Kept fo files ((World.fetcher fo).recorded.fetch location allowEmpty p).2 where
  files := (Fetch.files_source location).trans h.files
  answered x hx := by
    rcases List.mem_append.1 hx with hx | hx
    · exact h.answered x hx
    · obtain rfl := List.mem_singleton.1 hx
      exact ⟨allowEmpty, p.1, rfl⟩

end Kept

/-! ### Causes -/

/-- All settings of a configuration: those for all lines, and those of each source. -/
def Configuration.allSettings (c : Configuration) : List ListSettings := c.settings :: c.sources.map (·.settings)

/-- A text that is to be a filter: it is given as it is, or a source of filters may hold it. -/
inductive Filter.IsGiven (fo : FetchOptions) (settings : ListSettings) (s : Text) : Prop
  | pattern (h : s ∈ settings.exclusions ++ settings.inclusions) : IsGiven fo settings s
  | source {location t : Text} {w : World} (h : location ∈ settings.exclusionSources ++ settings.inclusionSources)
      (ht : (Fetch.source fo location true w).1 = .ok t) (hs : s ∈ textsIn t) : IsGiven fo settings s

/-- Why a failure is none that is reported, when the sources in `log` were fetched. -/
inductive Failure.Cause (tables : Tables) (fo : FetchOptions) (platform : Option Text) (c : Configuration)
    (log : List Fetched) : Failure → Prop
  | fetch {x : Fetched} {e : FetchError} (hx : x ∈ log) (h : ¬ x.IsHarmless platform) (he : e.isExpected = false) :
      Cause tables fo platform c log (.download (.fetch e))
  | filter {settings : ListSettings} {s : Text} {e : FilterError} (hs : settings ∈ c.allSettings)
      (hgiven : Filter.IsGiven fo settings s) (h : Filter.read tables.characters s = .error e)
      (he : e.isExpected = false) : Cause tables fo platform c log (.filter e)
  | modifier {settings : Optimize.Settings} {e : Optimize.MergeError} (hs : c.optimization = some settings)
      (hmerge : settings.mergeRules) (h : Optimize.HidesDomains e.rule) : Cause tables fo platform c log (.merge e)

namespace Failure

variable {tables : Tables} {fo : FetchOptions} {platform : Option Text} {c : Configuration} {log : List Fetched}
  {e : Failure}

theorem Cause.isExpected (h : e.Cause tables fo platform c log) : e.isExpected = false := by
  cases h with
  | fetch _ _ he => exact he
  | filter _ _ _ he => exact he
  | modifier => rfl

end Failure

section
variable {tables : Tables} {fo : FetchOptions} {o : DownloadOptions} {files : Files} {c : Configuration}

namespace Filter

end Filter

namespace Staged

end Staged

namespace Compiled

end Compiled

end

end Blocklist
