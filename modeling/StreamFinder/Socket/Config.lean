import StreamFinder.Duration
import StreamFinder.Session.Config
import StreamFinder.Web.Header

/-!
# The configuration of a socket client

Where to connect, what to say in the handshake, and how long to wait. A
session lends its user agent and its proxy to a configuration that names
none.
-/

namespace StreamFinder.Socket

open Web

/-- The configuration of a socket client. -/
structure SocketConfig where
  url : String
  headers : List (String × String)
  subprotocols : List String
  proxy : Option String
  pingInterval : Option Duration
  connectTimeout : Duration
  closeTimeout : Duration
deriving DecidableEq, Repr

namespace SocketConfig

/-- The configuration of a client that only knows where to connect. -/
def ofUrl (url : String) : SocketConfig :=
  ⟨url, [], [], none, none, .ofSeconds 10, .ofSeconds 3⟩

/-- How often a connection is pinged; a period of no length means never. -/
def pingPeriod? (c : SocketConfig) : Option Duration := c.pingInterval.filter fun d => d.nanos ≠ 0

/-- The value of the first header field of a name, in any case. -/
def header? (c : SocketConfig) (name : String) : Option String :=
  (c.headers.find? fun (key, _) => Header.sameName key name).map (·.2)

/-- The configuration with one more header field. -/
def withHeader (c : SocketConfig) (name value : String) : SocketConfig :=
  { c with headers := c.headers ++ [(name, value)] }

/-- The configuration with a user agent, unless it has one. -/
def withDefaultUserAgent (c : SocketConfig) (userAgent : String) : SocketConfig :=
  if (c.header? "user-agent").isSome then c else c.withHeader "User-Agent" userAgent

/-- The configuration with a proxy, unless it has one. -/
def withDefaultProxy (c : SocketConfig) (proxy : Option String) : SocketConfig :=
  { c with proxy := c.proxy.or proxy }

/-- The configuration with what a session lends to it. -/
def withSession (c : SocketConfig) (session : Session.SessionConfig) : SocketConfig :=
  (c.withDefaultUserAgent session.userAgent).withDefaultProxy session.effectiveProxy

end SocketConfig

end StreamFinder.Socket
