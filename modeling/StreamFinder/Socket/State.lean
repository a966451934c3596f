/-!
# The state of a socket client

A client goes from idle to connecting to open to closing to closed. A
reconnect leads from open back to connecting, and nothing leaves closed.
-/

namespace StreamFinder.Socket

/-- The state of a client as its user sees it. -/
inductive SocketState where
  | idle
  | connecting
  | opened
  | closing
  | closed
deriving DecidableEq, Repr

namespace SocketState

/-- All states, in the order of a client's life. -/
def all : List SocketState := [.idle, .connecting, .opened, .closing, .closed]

/-- The name of a state. -/
def name : SocketState → String
  | .idle => "idle"
  | .connecting => "connecting"
  | .opened => "open"
  | .closing => "closing"
  | .closed => "closed"

/-- Whether the client is on its way out, or gone. -/
def isShuttingDown : SocketState → Bool
  | .closing => true
  | .closed => true
  | _ => false

end SocketState

end StreamFinder.Socket
