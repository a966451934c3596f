import StreamFinder.Web.Header
import StreamFinder.Web.Proxy

/-!
# The HTTP client

What all requests have in common: the user agent, the proxy, and how many
addresses a chain of redirects may visit.
-/

namespace StreamFinder.Web

/-- Why a request has no answer. -/
inductive RequestFailure where
  /-- The request cannot be made. -/
  | malformed
  /-- The chain of redirects is too long; the address is the one that led on. -/
  | redirectLimit (url : String)
  /-- The other side cannot be reached, or hangs up. -/
  | connection
deriving DecidableEq, Repr

/-- Why an address has no redirect target. -/
inductive HttpError where
  | request (failure : RequestFailure)
  | invalidProxy (proxy : String)
  | other (reason : String)
deriving DecidableEq, Repr

/-- The settings of all requests. -/
structure Client where
  userAgent : String
  proxy : Option Proxy
  maxRedirects : Nat
deriving DecidableEq, Repr

namespace Client

/-- The proxy to use, if one is named; it must be one. -/
def proxyOf (names : Names) : Option String → Except HttpError (Option Proxy)
  | none => .ok none
  | some text =>
    match Proxy.parse names text with
    | some p => .ok (some p)
    | none => .error (.invalidProxy text)

/-- Build a client. A proxy that is none is noticed before a user agent
that cannot stand in a header field. -/
def build (names : Names) (userAgent : String) (proxy : Option String) (maxRedirects : Nat) :
    Except HttpError Client :=
  match proxyOf names proxy with
  | .error e => .error e
  | .ok proxy =>
    if Header.isValue userAgent then .ok ⟨userAgent, proxy, maxRedirects⟩
    else .error (.request .malformed)

end Client

end StreamFinder.Web
