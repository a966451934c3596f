import StreamFinder.Report
import StreamFinder.Web.Client

/-!
# Following redirects

Where an address leads is found out with HEAD requests, along the
redirects that the answers name. A server that does not implement HEAD
says so with status 501; then the chain is followed once more from the
start with GET. Any other final answer is a final answer, whatever its
status.

A client that may visit `n` addresses follows at most `n - 1` redirects:
the address asked for is the first one visited. So a chain always ends,
also in a circle of redirects.

The other side is a function from requests to replies. What has been asked
of it is part of the result.
-/

namespace StreamFinder.Web

open Text

/-- The method of a request. -/
inductive Method where
  | head
  | get
deriving DecidableEq, Repr

/-- The method as written. -/
def Method.name : Method → String
  | .head => "HEAD"
  | .get => "GET"

/-- A request as the other side sees it. -/
structure Request where
  method : Method
  url : Url
  userAgent : String
  proxyAuthorization : Option String
deriving DecidableEq, Repr

/-- How a request ends: with a status and perhaps a location, with the
other side hanging up, or without ever reaching it. -/
inductive Reply where
  | answered (status : Nat) (location : Option String)
  | hungUp
  | unreachable
deriving DecidableEq, Repr

/-- The other side. -/
abbrev Peer := Request → Reply

/-- The other side of a network that leads nowhere. -/
def Peer.unreachable : Peer := fun _ => .unreachable

/-- What a chain of requests has come to: the requests that arrived, and
the last address with the status of its answer. -/
structure Chain where
  requests : List Request
  outcome : Except RequestFailure (Url × Nat)

/-- Where an address leads, what was asked on the way, and what there is to report. -/
structure Resolution where
  outcome : Except HttpError String
  requests : List Request
  reports : List Report

namespace Redirect

/-- Whether a status means that the answer is elsewhere. -/
def isRedirect (status : Nat) : Bool :=
  status = 301 || status = 302 || status = 303 || status = 307 || status = 308

/-- Whether a URL can stand in a request. -/
def isRequestable (u : Url) : Bool := (Uri.parse u.render).isSome

/-- The address that an answer leads on to, if it does. -/
def target? (u : Url) (status : Nat) (location : Option String) : Option Url :=
  if isRedirect status then (location.bind u.join).filter isRequestable else none

/-- Whether two addresses are on the same server. -/
def sameServer (a b : Url) : Bool :=
  a.host = b.host && a.effectivePort? = b.effectivePort?

/-- Follow a chain over at most `left` redirects. Credentials are not
carried from one server to another. -/
def chase (peer : Peer) (client : Client) (method : Method) :
    Nat → Option String → Url → Chain
  | left, credentials, u =>
    let r : Request := ⟨method, u, client.userAgent, credentials⟩
    match peer r with
    | .unreachable => ⟨[], .error .connection⟩
    | .hungUp => ⟨[r], .error .connection⟩
    | .answered status location =>
      match target? u status location, left with
      | none, _ => ⟨[r], .ok (u, status)⟩
      | some _, 0 => ⟨[r], .error (.redirectLimit u.render)⟩
      | some next, left + 1 =>
        let carried := if sameServer u next then credentials else none
        let chain := chase peer client method left carried next
        { chain with requests := r :: chain.requests }

/-- A URL without a user and a password: they are sent in a header field,
unless the user is no text. -/
def withoutUser (u : Url) : Url :=
  if (ofUtf8? (percentDecode u.username.toList)).isSome then
    { u with username := "", password := "" }
  else u

/-- The address of a first request. -/
def requestUrl? (text : String) : Option Url :=
  match Url.parse text with
  | none => none
  | some u =>
    let u := withoutUser u
    if u.hasHost ∧ (u.scheme = "http" ∨ u.scheme = "https") ∧ isRequestable u then some u else none

/-- What the client sends to an HTTP proxy with a request for an address. -/
def credentialsFor (client : Client) (u : Url) : Option String :=
  match client.proxy with
  | some p => if p.kind ≠ .socks ∧ u.scheme = "http" then p.authorization? else none
  | none => none

/-- The chain of one method from an address on. -/
def run (peer : Peer) (client : Client) (method : Method) (u : Url) : Chain :=
  chase peer client method (client.maxRedirects - 1) (credentialsFor client u) u

/-- The result of a chain: its last address, reported if it is not the one asked for. -/
def conclude (text : String) (requests : List Request) (last : Except RequestFailure (Url × Nat)) :
    Resolution :=
  match last with
  | .error e => ⟨.error (.request e), requests, []⟩
  | .ok (u, _) =>
    let reached := u.render
    ⟨.ok reached, requests, if reached = text then [] else [.redirected text reached]⟩

/-- The status of a server that does not implement a method. -/
def notImplemented : Nat := 501

/-- Where an address leads. -/
def resolve (peer : Peer) (client : Client) (text : String) : Resolution :=
  match requestUrl? text with
  | none => ⟨.error (.request .malformed), [], []⟩
  | some u =>
    let head := run peer client .head u
    match head.outcome with
    | .error e => conclude text head.requests (.error e)
    | .ok (last, status) =>
      if status = notImplemented then
        let get := run peer client .get u
        conclude text (head.requests ++ get.requests) get.outcome
      else conclude text head.requests (.ok (last, status))

end Redirect

end StreamFinder.Web
