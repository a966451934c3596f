import StreamFinder.Duration

/-!
# Errors of socket clients
-/

namespace StreamFinder.Socket

/-- What goes wrong with a socket client. -/
inductive SocketError where
  /-- A field of the handshake has a name or a value that is ill formed. -/
  | invalidHeader (name : String)
  /-- The connection or its handshake has failed. -/
  | transport
  | connectTimeout (limit : Duration)
  | notRunning
  | alreadyStarted
  | invalidProxy (proxy : String)
  /-- The proxy has refused the tunnel. -/
  | tunnelRefused (reason : String)
  | io (reason : String)
  /-- A value has no JSON form. -/
  | json
deriving DecidableEq, Repr

/-- The wording of the error, as far as it is this library's own. -/
def SocketError.message? : SocketError → Option String
  | .invalidHeader name => some ("Invalid handshake header: " ++ name)
  | .transport => none
  | .connectTimeout limit => some ("Connect timed out after " ++ limit.render)
  | .notRunning => some "Websocket client is not running"
  | .alreadyStarted => some "Websocket client already started"
  | .invalidProxy proxy => some ("Invalid proxy URL: " ++ proxy)
  | .tunnelRefused reason => some ("Proxy tunnel failed: " ++ reason)
  | .io reason => some ("I/O error: " ++ reason)
  | .json => none

end StreamFinder.Socket
