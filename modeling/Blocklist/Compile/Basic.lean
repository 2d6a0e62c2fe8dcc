import Blocklist.Compile.Header
import Blocklist.Compile.Schedule
import Blocklist.Compile.Stages

/-!
# Compiling lists

A list is compiled from its sources, some of them at the same time: each is downloaded, stripped of its
metadata and sent through its stages. All lines together, in the order of the configuration and with a
header for each source, then go through the stages of the list, and get the header of the list and a
checksum. The first source that fails makes the list fail.
-/

namespace Blocklist

/-- How many lines a source came to. -/
structure SourceCount where
  location : Text
  lines : Nat
deriving DecidableEq, Repr

/-- A compiled list, with what was counted on the way. -/
structure Compiled where
  lines : List Text
  sources : List SourceCount
  inputCount : Nat
  applied : List Text
  stats : Option Optimize.Stats

namespace Compiled

variable {σ : Type} (tables : Tables)

/-- The lines of a source as they are downloaded. -/
def downloadSource (f : Fetcher σ) (o : DownloadOptions) (s : Source) :
    Attempt Failure σ (List Text) :=
  ExceptT.mk fun w =>
    match (download f o s.location true).run w with
    | (.ok lines, w) => (.ok (lines.map (·.text)), w)
    | (.error e, w) =>
      let report := f.note .error ("Failed to download source " ++ s.location ++ ": " ++ e.message)
      (.error (.download e), (report.run w).2)

/-- The lines that a source contributes. -/
def sourceLines (f : Fetcher σ) (o : DownloadOptions) (s : Source) :
    Attempt Failure σ (List Text) := do
  let lines ← downloadSource f o s
  return (← Staged.run tables f s.settings none (Header.strip lines)).lines

/-- The sources with the lines that they contribute. -/
def gatherLines (f : Fetcher σ) (o : DownloadOptions) (schedule : Schedule) (sources : List Source) :
    Attempt Failure σ (List (Source × List Text)) := do
  let done ← (schedule.order sources).mapM fun (s, place) =>
    return (place, s, ← sourceLines tables f o s)
  return Schedule.arrange done

/-- The list of a configuration, made at the time `now`. -/
def compile (f : Fetcher σ) (o : DownloadOptions) (schedule : Schedule) (now : Timestamp)
    (c : Configuration) : Attempt Failure σ Compiled := do
  let parts ← gatherLines tables f o schedule c.sources
  let input := parts.flatMap fun (s, lines) => Header.ofSource s ++ lines
  let s ← Staged.run tables f c.settings c.optimization input
  return {
    lines := Header.addChecksum (Header.ofList c now ++ s.lines)
    sources := parts.map fun (s, lines) => ⟨s.location, lines.length⟩
    inputCount := input.length
    applied := s.applied
    stats := s.stats }

end Compiled
end Blocklist
