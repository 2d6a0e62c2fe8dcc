import Blocklist.Fetch.Web
import Blocklist.Files.Basic
import Blocklist.Number.Decimal

/-!
# Errors of fetching

Why a source cannot be fetched. A `malformed` location is none that a source can have, and a URL is
`exhausted` when the pause before the next request is beyond reckoning; all other errors are expected, and
some of those of the web may go away when the request is repeated.
-/

namespace Blocklist

/-- Why a source cannot be fetched. -/
inductive FetchError where
  | status (url : Text) (code : Int)
  | timeout (url : Text) (limit : Binary64)
  | untrusted (url reason : Text)
  | redirects (url : Text) (limit : Int)
  | broken (url : Text) (fault : ConnectionFault)
  | emptyReply (url : Text) (code : Int)
  | missing (path : Text)
  | denied (path : Text)
  | emptyFile (path : Text)
  | unreadable (path : Text) (fault : FileFault)
  | malformed (location : Text)
  | exhausted (url : Text)
deriving DecidableEq, Repr

namespace FetchError

/-- The location that the error is about. -/
def location : FetchError → Text
  | status url _ | timeout url _ | untrusted url _ | redirects url _ | broken url _
  | emptyReply url _ => url
  | missing path | denied path | emptyFile path | unreadable path _ => path
  | malformed s | exhausted s => s

/-- What is wrong. -/
def reason : FetchError → Text
  | status _ code => "HTTP " ++ Text.ofInt code
  | timeout _ limit => "timed out after " ++ Decimal.general limit ++ "s"
  | untrusted _ reason => "SSL certificate error - " ++ reason
  | redirects _ limit => "too many redirects (max " ++ Text.ofInt limit ++ ")"
  | broken _ fault => "Connection error - " ++ fault.name
  | emptyReply _ _ => "empty response"
  | missing _ => "file not found"
  | denied _ => "permission denied"
  | emptyFile _ => "file is empty"
  | unreadable path fault => fault.message (Path.read path)
  | malformed _ => "malformed location"
  | exhausted _ => "int too large to convert to float"

/-- The text of the error. -/
def message : FetchError → Text
  | exhausted url => (exhausted url).reason
  | e => e.location ++ ": " ++ e.reason

/-- A status that may change when the request is repeated: too many requests, or a fault of the
server. -/
def isTransientStatus (code : Int) : Bool := code = 429 || (500 ≤ code && code < 600)

/-- Whether the request may be repeated. -/
def isTransient : FetchError → Bool
  | status _ code => isTransientStatus code
  | timeout _ _ | broken _ _ => true
  | _ => false

/-- The status of the reply, if there was one. -/
def code? : FetchError → Option Int
  | status _ code | emptyReply _ code => some code
  | _ => none

/-- Whether a location can be passed over after the error. -/
def isExpected : FetchError → Bool
  | malformed _ | exhausted _ => false
  | _ => true

end FetchError
end Blocklist
