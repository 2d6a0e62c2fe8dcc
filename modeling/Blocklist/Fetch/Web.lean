import Blocklist.Text.Basic

/-!
# The web

What servers answer. Each URL has a queue of outcomes; a request takes the first one, and the last one
stays.
-/

namespace Blocklist

/-- How a connection breaks. -/
inductive ConnectionFault where
  | refused
  | disconnected
  | payload
deriving DecidableEq, Repr

/-- The name of the fault. -/
def ConnectionFault.name : ConnectionFault → Text
  | .refused => "ClientConnectionError"
  | .disconnected => "ServerDisconnectedError"
  | .payload => "ClientPayloadError"

/-- The outcome of a request. -/
inductive Outcome where
  | reply (status : Int) (body : Text)
  | timeout
  | broken (fault : ConnectionFault)
  | redirects
  | untrusted (reason : Text)
deriving DecidableEq, Repr

/-- The outcomes that are still to come for each URL, and the outcome for all other URLs. -/
structure Web where
  queues : List (Text × List Outcome) := []
  other : Outcome := .reply 404 []
deriving DecidableEq, Repr

/-- The queue after its first outcome has been taken. -/
def Web.rest : List Outcome → List Outcome
  | _ :: next :: queue => next :: queue
  | queue => queue

/-- The outcome of a request, and the web after it. -/
def Web.get (url : Text) (w : Web) : Outcome × Web :=
  let queue := (w.queues.lookup url).getD []
  (queue.headD w.other,
    { w with queues := w.queues.map fun (u, q) => if u = url then (u, rest q) else (u, q) })

end Blocklist
