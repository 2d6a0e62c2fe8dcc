import Blocklist.Fetch.World
import Blocklist.Source.Location
import Blocklist.Text.Blank

/-!
# Fetching

The text of a source: a file is read, and a URL is requested. A request that fails in a way that may go
away is repeated after a pause, which doubles each time and gets longer by a share of itself.
-/

namespace Blocklist

/-- How sources are fetched. `rounding` is applied to the result of each operation on pauses. -/
structure FetchOptions where
  timeout : Binary64 := .ofRat 30
  retries : Int := 3
  retryDelay : Amount := .finite 1
  retryJitter : Amount := Binary64.round (3 / 10)
  maxRedirects : Int := 5
  allowEmpty : Bool := false
  rounding : Rat → Amount := Binary64.round

namespace FetchOptions

/-- By how much a pause is longer after the attempt of this number than after the first one, which is
number 0; none if that is too large for a number. -/
def factor? (o : FetchOptions) (attempt : Nat) : Option Amount :=
  match o.rounding (2 ^ attempt) with
  | .finite x => some (.finite x)
  | _ => none

/-- The pause with this factor, which is longer by a share of its jitter. -/
def pauseOf (o : FetchOptions) (share : Rat) (factor : Amount) : Amount :=
  let base := .mul o.rounding o.retryDelay factor
  .add o.rounding base (.mul o.rounding (.mul o.rounding base o.retryJitter) (.finite share))

/-- The pause after the attempt of this number, if its factor is a number. -/
def pause? (o : FetchOptions) (share : Rat) (attempt : Nat) : Option Amount :=
  (o.factor? attempt).map (o.pauseOf share)

end FetchOptions

namespace Fetch

/-- The text of an outcome. -/
def textOf (o : FetchOptions) (url : Text) (allowEmpty : Bool) :
    Outcome → Except FetchError Text
  | .reply code body =>
    if code < 200 || 300 ≤ code then .error (.status url code)
    else if !allowEmpty && body.isBlankText then .error (.emptyReply url code)
    else .ok body
  | .timeout => .error (.timeout url o.timeout)
  | .untrusted reason => .error (.untrusted url reason)
  | .redirects => .error (.redirects url o.maxRedirects)
  | .broken fault => .error (.broken url fault)

/-- One request. -/
def request (o : FetchOptions) (url : Text) (allowEmpty : Bool) (w : World) :
    Except FetchError Text × World :=
  let (outcome, web) := w.web.get url
  (textOf o url allowEmpty outcome, { w with web }.record (.request url))

/-- The warning before an attempt is repeated. -/
def retryWarning (o : FetchOptions) (url : Text) (pause : Amount) (attempt : Nat) (e : FetchError) :
    Text :=
  "Retrying " ++ url ++ " in " ++ Decimal.fixed 2 pause ++ "s (attempt " ++
    Text.ofNat (attempt + 1) ++ "/" ++ Text.ofInt o.retries ++ "): " ++ e.message

/-- The text of a URL, where `attempt` attempts have failed and at most `left` more follow the next. -/
def attempts (o : FetchOptions) (url : Text) (allowEmpty : Bool) :
    (left attempt : Nat) → World → Except FetchError Text × World
  | 0, _, w => request o url allowEmpty w
  | left + 1, attempt, w =>
    match request o url allowEmpty w with
    | (.ok s, w) => (.ok s, w)
    | (.error e, w) =>
      if e.isTransient then
        match o.pause? (w.shares w.pauses.length) attempt with
        | some pause =>
          attempts o url allowEmpty left (attempt + 1)
            ((w.warn (retryWarning o url pause attempt e)).record (.pause pause))
        | none => (.error (.exhausted url), w)
      else (.error e, w)

/-- The text of a URL. -/
def url (o : FetchOptions) (url : Text) (allowEmpty : Bool) (w : World) :
    Except FetchError Text × World :=
  attempts o url allowEmpty o.retries.toNat 0 w

/-- The text of a file. Octets that are no UTF-8 are read as U+FFFD, and each line ends with a line
feed. -/
def file (files : Files) (path : Text) (allowEmpty : Bool) : Except FetchError Text :=
  match files.read (Path.read path) with
  | .ok content =>
    let s := Utf8.normalizeLineEnds (Utf8.decodeLenient content)
    if !allowEmpty && s.isBlankText then .error (.emptyFile path) else .ok s
  | .error .missing => .error (.missing path)
  | .error .denied => .error (.denied path)
  | .error .badName => .error (.malformed path)
  | .error fault => .error (.unreadable path fault)

/-- The text of a source. -/
def source (o : FetchOptions) (location : Text) (allowEmpty : Bool) (w : World) :
    Except FetchError Text × World :=
  if Location.isUrl location then url o location allowEmpty w
  else (file w.files location allowEmpty, w.record (.reading location))

end Fetch
end Blocklist
