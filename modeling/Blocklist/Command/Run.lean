import Blocklist.Command.Arguments
import Blocklist.Compile.Basic
import Blocklist.Config.Loading

/-!
# Running the command

The command loads a configuration, compiles it, and writes the list in the format that is asked for, to a
file or to its output. An expected error is noted and ends the run with the code 1.
-/

namespace Blocklist

/-- Why a run fails. -/
inductive RunError where
  | load (error : LoadError)
  | compile (failure : Failure)
  | write (fault : FileFault)

namespace RunError

/-- Whether the error is noted; all others end the run at once. -/
def isExpected : RunError → Bool
  | load e => e.isExpected
  | compile e => e.isExpected
  | write _ => false

/-- The text of the error. -/
def message : RunError → Text
  | load e => e.message
  | compile e => e.message
  | write fault => fault.description.2

end RunError

/-- The end of a run of the command. -/
inductive Ending where
  | refused (refusal : Refusal)
  | finished (code : Nat) (output : Text)
  | failed (error : RunError)

namespace Request

/-- How sources are fetched. -/
def fetchOptions (r : Request) : FetchOptions := { timeout := r.timeout, retries := r.retries }

/-- How sources are downloaded. -/
def downloadOptions (r : Request) : DownloadOptions := { platform := r.platform }

/-- In which order sources end in a world. -/
def schedule (r : Request) (w : World) : Schedule := ⟨r.concurrency.toNat, w.turns⟩

/-- Loads the configuration. -/
def load (r : Request) : Attempt RunError World Configuration := do
  modify (World.record (.reading r.config))
  match Configuration.load (← get).files r.config with
  | .ok c => return c
  | .error e => throw (.load e)

/-- Compiles a configuration. -/
def compile (tables : Tables) (r : Request) (c : Configuration) : Attempt RunError World Compiled :=
  ExceptT.mk fun w =>
    let f := World.fetcher r.fetchOptions
    match (Compiled.compile tables f r.downloadOptions (r.schedule w) w.now c).run w with
    | (.ok l, w) => (.ok l, w)
    | (.error e, w) => (.error (.compile e), w)

/-- The text of a compiled list in the format that is asked for. -/
def render (r : Request) (now : Timestamp) (c : Configuration) (lines : List Text) : Text :=
  Output.file r.format { ip := r.hostsIp, title := c.name, generated := now } lines

/-- Puts the text into the file that is asked for; otherwise it is the output. -/
def deliver (r : Request) (s : Text) : Attempt RunError World Text := do
  match r.output with
  | some (c :: name) =>
    match (← get).files.write (Path.read (c :: name)) (Utf8.encode s) with
    | .ok files =>
      modify fun w => { w with files }.record (.note .info ("Wrote " ++ c :: name))
      return []
    | .error fault => throw (.write fault)
  | _ => return s

/-- Does what is asked for and gives the output. -/
def perform (tables : Tables) (r : Request) : Attempt RunError World Text := do
  let c ← r.load
  let l ← r.compile tables c
  let output ← r.deliver (r.render (← get).now c l.lines)
  modify (World.record (.done c.sources.length l.inputCount l.lines.length))
  return output

/-- Does what is asked for, and takes note of an error. -/
def run (tables : Tables) (r : Request) (w : World) : Ending × World :=
  match (r.perform tables).run w with
  | (.ok output, w) => (.finished 0 output, w)
  | (.error e, w) =>
    if e.isExpected then (.finished 1 [], w.record (.note .error ("[FATAL] " ++ e.message)))
    else (.failed e, w)

end Request

/-- Runs the command with these arguments. -/
def Command.run (tables : Tables) (arguments : List Text) (w : World) : Ending × World :=
  match Request.ofArguments arguments with
  | .ok r => r.run tables w
  | .error refusal => (.refused refusal, w)

end Blocklist
