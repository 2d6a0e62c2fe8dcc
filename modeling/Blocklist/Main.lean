import Blocklist.Command.Run
import Blocklist.Compile.SampleTables
import Std.Time.DateTime.Timestamp

/-!
# The program

Runs the command on the files of the disk. A run only says which files it reads, so it is repeated with
the files it asked for until it asks for no more; then its output and its files are written. No server is
asked: a request to any of them is a broken connection. Names are looked up in the small tables.
-/

namespace Blocklist

/-- How the command is used. -/
def usage : String :=
  "usage: filterlist-compiler -c CONFIG [-o OUTPUT] [-f FORMAT] [--hosts-ip HOSTS_IP] " ++
    "[--platform PLATFORM] [--concurrency N] [--timeout SECONDS] [--retries N] [-v] [-h]"

/-- What stands at a path of the disk, if there is anything. -/
def entryOnDisk? (path : Text) : IO (Option Entry) := do
  try
    return some (.file (← IO.FS.readBinFile (String.ofList path)).toList)
  catch
    | .permissionDenied .. => return some .locked
    | .inappropriateType .. => return some .folder
    | _ => return none

/-- The files with what stands at a path of the disk. -/
def loadFile (files : Files) (path : Text) : IO Files := do
  match ← entryOnDisk? path with
  | some e =>
    match files.put (Path.read path) e with
    | .ok files => return files
    | .error _ => return files
  | none => return files

/-- Repeats a run until it has all files that it reads, of which the `known` ones have been loaded. -/
partial def settle (r : Request) (known : List Text) (w : World) : IO (Ending × World) := do
  let (e, after) := r.run .sample w
  match after.readings.filter (· ∉ known) with
  | [] => return (e, after)
  | asked => settle r (asked ++ known) { w with files := ← asked.foldlM loadFile w.files }

/-- Writes the file at the names, which takes the place of an older one in a single step. -/
def writeFile (names : List Text) (content : List UInt8) : IO Unit := do
  let path := String.ofList ('/' :: Text.join ['/'] names)
  IO.FS.createDirAll (String.ofList ('/' :: Text.join ['/'] names.dropLast))
  IO.FS.writeBinFile (path ++ ".tmp") ⟨content.toArray⟩
  IO.FS.rename (path ++ ".tmp") path

/-- Writes what a run has put at a path. -/
def writeOutput (files : Files) (path : Text) : IO Unit := do
  match files.locate (Path.read path) with
  | .ok names =>
    match files.entry? names with
    | some (.file content) => writeFile names content
    | _ => return
  | .error _ => return

/-- The world at the start: no files are loaded yet. -/
def startWorld : IO World := do
  let now ← Std.Time.Timestamp.now
  let seconds := now.toSecondsSinceUnixEpoch.val.toNat
  let micro := (now.toNanosecondsSinceUnixEpoch.val.toNat / 1000) % 1000000
  let working := (toString (← IO.currentDir)).toList
  return {
    files := { working := (Path.read working).names }
    web := { other := .broken .refused }
    now := Timestamp.ofUnix seconds micro }

/-- Carries a request out and gives the exit code. -/
def carryOut (r : Request) : IO UInt32 := do
  let start ← IO.monoMsNow
  let (e, w) ← settle r [] (← startWorld)
  match e, r.output with
  | .finished 0 _, some path => writeOutput w.files path
  | _, _ => pure ()
  let elapsed : Rat := ((← IO.monoMsNow) - start : Nat) / 1000
  for (_, s) in w.notes (Decimal.fixed 2 (.finite elapsed) ++ ['s']) do
    IO.eprintln (String.ofList s)
  match e with
  | .finished code output =>
    IO.print (String.ofList output)
    return code.toUInt32
  | .failed error =>
    IO.eprintln (String.ofList error.message)
    return 1
  | .refused _ => return 2

end Blocklist

/-- The entry point of the program. -/
def main (arguments : List String) : IO UInt32 := do
  match Blocklist.Request.ofArguments (arguments.map String.toList) with
  | .ok r => Blocklist.carryOut r
  | .error .help => do
    IO.println Blocklist.usage
    return 0
  | .error .usage => do
    IO.eprintln Blocklist.usage
    return 2
