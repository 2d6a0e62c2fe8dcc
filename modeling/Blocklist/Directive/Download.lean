import Blocklist.Directive.Expansion
import Blocklist.Fetch.Basic

/-!
# Downloading

The lines of a source with those of the sources that it includes in their places. A source that was met
before is not fetched again, inclusions are followed to a limited depth, and an included source that
cannot be had contributes no lines. Only the source itself can make a download fail.
-/

namespace Blocklist

/-- How sources are fetched and notes are taken. -/
structure Fetcher (σ : Type) where
  fetch : (location : Text) → (allowEmpty : Bool) → StateM σ (Except FetchError Text)
  note : Severity → Text → StateM σ Unit

/-- Takes note of a warning. -/
def Fetcher.warn {σ : Type} (f : Fetcher σ) (s : Text) : StateM σ Unit := f.note .warning s

/-- Fetches from the world and records notes in it. -/
def World.fetcher (o : FetchOptions) : Fetcher World where
  fetch location allowEmpty := Fetch.source o location allowEmpty
  note severity s := modify (World.record (.note severity s))

/-- For which platform a source is downloaded, and to which depth inclusions are followed. -/
structure DownloadOptions where
  platform : Option Text := none
  maxDepth : Int := 10
deriving DecidableEq, Repr

/-- The state of a download: the sources that it met, the last one first, and the state of the
fetcher. -/
structure Progress (σ : Type) where
  visited : List Text
  state : σ

namespace Download

variable {σ : Type}

/-- A step of the fetcher. -/
def lift {ε α : Type} (step : StateM σ α) : Attempt ε (Progress σ) α :=
  ExceptT.mk fun p => let (a, s) := step p.state; (.ok a, { p with state := s })

/-- The text of a source. -/
def fetchText (f : Fetcher σ) (location : Text) (allowEmpty : Bool) :
    Attempt DownloadError (Progress σ) Text := do
  match ← lift (f.fetch location allowEmpty) with
  | .ok s => return s
  | .error e => throw (.fetch e)

/-- Whether a source was met before. -/
def wasVisited (location : Text) : Attempt DownloadError (Progress σ) Bool :=
  return (← get).visited.elem location

/-- Notes that a source is met. -/
def visit (location : Text) : Attempt DownloadError (Progress σ) Unit :=
  modify fun p => { p with visited := location :: p.visited }

/-- No lines, after a warning. -/
def skip (f : Fetcher σ) (warning : Text) :
    Attempt DownloadError (Progress σ) (List SourceLine) := do
  lift (f.warn warning)
  return []

/-- The lines of the source that the line `l` includes as `path`, where `download` gives the lines of
a location. -/
def inclusion (f : Fetcher σ)
    (download : Text → Attempt DownloadError (Progress σ) (List SourceLine))
    (l : SourceLine) (path : Text) : Attempt DownloadError (Progress σ) (List SourceLine) :=
  if path = [] then
    skip f (l.source ++ ":" ++ Text.ofNat l.number ++ ": empty " ++ Directive.inclusionMark ++
      " directive")
  else
    match Location.resolve? path l.source with
    | none => throw (.fetch (.malformed path))
    | some location =>
      tryCatch (download location) fun e =>
        if e.isExpected then skip f ("Failed to include " ++ location ++ ": " ++ e.message)
        else throw e

/-- The lines of a source; `levels` is the number of levels of sources, itself included, that may still
be fetched. -/
def source (f : Fetcher σ) (o : DownloadOptions) :
    (levels : Nat) → (location : Text) → (allowEmpty : Bool) →
      Attempt DownloadError (Progress σ) (List SourceLine)
  | levels, location, allowEmpty => do
    if ← wasVisited location then
      skip f ("Circular include detected, skipping " ++ location)
    else
      match levels with
      | 0 =>
        skip f ("Maximum include depth (" ++ Text.ofInt o.maxDepth ++ ") exceeded, skipping " ++
          location)
      | levels + 1 => do
        visit location
        let s ← fetchText f location allowEmpty
        expand o.platform (inclusion f fun next => source f o levels next true)
          (SourceLine.split s location)

end Download

/-- The lines of a source. -/
def download {σ : Type} (f : Fetcher σ) (o : DownloadOptions) (location : Text) (allowEmpty : Bool) :
    Attempt DownloadError σ (List SourceLine) :=
  ExceptT.mk fun s =>
    let (r, p) := (Download.source f o (o.maxDepth + 1).toNat location allowEmpty).run ⟨[], s⟩
    (r, p.state)

end Blocklist
