import StreamFinder.Web.Redirect
/-!
# Trails of requests

What a request leads on to is decided by the reply to it. From one request
on, these steps make a trail, which has no end where servers send a client
in a circle. A phase of resolving an address walks the trail of one method
from that address on, to its end or as far as it may, whichever comes first.
An address is followed in one phase or in two.
-/

namespace StreamFinder.Web

/-- The other side answers by a table of methods and addresses. -/
def Peer.IsTable (peer : Peer) : Prop :=
  ∀ r s : Request, r.method = s.method → r.url = s.url → peer r = peer s

namespace Redirect

/-- What a request leads on to. The credentials stay on their server. -/
def successor? (peer : Peer) (r : Request) : Option Request :=
  match peer r with
  | .answered status location =>
    (target? r.url status location).map fun next =>
      { r with
        url := next
        proxyAuthorization := if sameServer r.url next then r.proxyAuthorization else none }
  | .hungUp | .unreachable => none

/-- Requests of which each leads on to the one behind it, from a first one to a last one. -/
inductive Trail (peer : Peer) : Request → List Request → Request → Prop where
  | stay (r : Request) : Trail peer r [r] r
  | step {r next last : Request} {rs : List Request} (h : successor? peer r = some next)
      (rest : Trail peer next rs last) : Trail peer r (r :: rs) last

/-- What has come of a walk that may visit some addresses and has visited
others, at the last of them. -/
inductive Ends (peer : Peer) (visits visited : Nat) (last : Request) :
    Except RequestFailure (Url × Nat) → Prop where
  /-- The answer leads nowhere else, whatever its status. -/
  | answer {status : Nat} {location : Option String} (h : peer last = .answered status location)
      (hfinal : target? last.url status location = none) :
      Ends peer visits visited last (.ok (last.url, status))
  /-- The answer leads on, but there is nothing left to visit. -/
  | limit (h : successor? peer last ≠ none) (hspent : visited = visits) :
      Ends peer visits visited last (.error (.redirectLimit last.url.render))
  /-- There is no answer. -/
  | failure (h : peer last = .hungUp ∨ peer last = .unreachable) :
      Ends peer visits visited last (.error .connection)

/-- How many addresses a chain of a client may visit; the first one is always visited. -/
def visits (client : Client) : Nat := max 1 client.maxRedirects

/-- The request that a phase begins with. -/
def opening (client : Client) (method : Method) (u : Url) : Request :=
  ⟨method, u, client.userAgent, credentialsFor client u⟩

/-- Whether a request gets to the other side. -/
def arrives (peer : Peer) (r : Request) : Bool := peer r ≠ .unreachable

/-- A phase: the requests of one method from an address on, and what they have come to. -/
structure Phase (peer : Peer) (client : Client) (method : Method) (u : Url) (rs : List Request)
    (last : Request) (found : Except RequestFailure (Url × Nat)) : Prop where
  trail : Trail peer (opening client method u) rs last
  bounded : rs.length ≤ visits client
  ends : Ends peer (visits client) rs.length last found

/-- How an address is followed: with HEAD, and then once more with GET if
the server has said that it does not implement HEAD. -/
inductive Course (peer : Peer) (client : Client) (u : Url) :
    (heads gets : List Request) → Except RequestFailure (Url × Nat) → Prop where
  | once {heads : List Request} {last : Request} {found : Except RequestFailure (Url × Nat)}
      (head : Phase peer client .head u heads last found)
      (hstatus : ∀ url, found ≠ .ok (url, notImplemented)) : Course peer client u heads [] found
  | twice {heads gets : List Request} {refused last : Request}
      {found : Except RequestFailure (Url × Nat)}
      (head : Phase peer client .head u heads refused (.ok (refused.url, notImplemented)))
      (get : Phase peer client .get u gets last found) : Course peer client u heads gets found

/-- How many redirects were followed in the phase whose answer is the result. -/
def followed (heads gets : List Request) : Nat :=
  (if gets = [] then heads else gets).length - 1

/-- What the result of a chain is outside: the text of its last address. -/
def told : Except RequestFailure (Url × Nat) → Except HttpError String
  | .error e => .error (.request e)
  | .ok (u, _) => .ok u.render

end Redirect

end StreamFinder.Web
