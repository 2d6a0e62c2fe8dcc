import Blocklist.Fetch.Error
import Blocklist.Timestamp

/-!
# The world of a run

All that a run depends on and what it has done so far: the files, the web, the time, and the events in
order. Nothing else is outside of a run, and so a run is a function from a world to a world.
-/

namespace Blocklist

/-- How serious a note is. -/
inductive Severity where
  | info
  | warning
  | error
deriving DecidableEq, Repr

/-- The name of the severity. -/
def Severity.name : Severity → Text
  | .info => "INFO"
  | .warning => "WARNING"
  | .error => "ERROR"

/-- Something that a run did: it read a file, requested a URL, waited, or took note of something. A run
that is done counts its sources, and its lines before and after. -/
inductive Event where
  | reading (path : Text)
  | request (url : Text)
  | pause (length : Amount)
  | note (severity : Severity) (text : Text)
  | done (sources linesIn linesOut : Nat)
deriving DecidableEq

/-- A world. `shares n` is the share of the greatest jitter that the pause after `n` others gets, which is
`share` for all of them where nothing else is said. Of the sources that are compiled at the same time when
`n` others are left, `turns n` tells which one ends first; it is the first one where nothing else is said. -/
structure World where
  files : Files := {}
  web : Web := {}
  share : Rat := 0
  shares : Nat → Rat := fun _ => share
  turns : Nat → Nat := fun _ => 0
  now : Timestamp
  events : List Event := []

namespace World

/-- The world after one more event. -/
def record (e : Event) (w : World) : World := { w with events := w.events ++ [e] }

/-- The world after a warning. -/
def warn (s : Text) (w : World) : World := w.record (.note .warning s)

/-- The requests, in order. -/
def requests (w : World) : List Text :=
  w.events.filterMap fun
    | .request url => some url
    | _ => none

/-- The pauses, in order. -/
def pauses (w : World) : List Amount :=
  w.events.filterMap fun
    | .pause length => some length
    | _ => none

/-- The files that were read, in order. -/
def readings (w : World) : List Text :=
  w.events.filterMap fun
    | .reading path => some path
    | _ => none

/-- The notes of a run that took the time `duration`, in order. -/
def notes (duration : Text) (w : World) : List (Severity × Text) :=
  w.events.filterMap fun
    | .note severity s => some (severity, s)
    | .done sources linesIn linesOut =>
      some (.info, "Compiled " ++ Text.ofNat sources ++ " sources: " ++ Text.ofNat linesIn ++
        " -> " ++ Text.ofNat linesOut ++ " lines in " ++ duration)
    | _ => none

end World
end Blocklist
