import StreamFinder.Socket.Config
import StreamFinder.Socket.Error
import StreamFinder.Web.Uri

/-!
# The handshake request

Everything that can be wrong with a request is noticed before anything is
sent: first the address, then the header fields in their order, then the
list of subprotocols. Configured fields are added to those that every
handshake has; the subprotocols take the place of any configured under
their name.
-/

namespace StreamFinder.Socket

open Web

/-- A handshake request: where it goes, and its header fields. -/
structure Handshake where
  uri : Uri
  fields : Header.Fields
deriving DecidableEq, Repr

namespace Handshake

/-- The name of the field that offers subprotocols. -/
def protocolField : String := "sec-websocket-protocol"

/-- The address of a request; it must have a host. -/
def uri? (url : String) : Option Uri :=
  (Uri.parse url).filter fun u => u.hostHeader ≠ []

/-- The fields of every handshake. The key is drawn anew for each one. -/
def basicFields (u : Uri) (key : String) : Header.Fields :=
  [("host", [String.ofList u.hostHeader]), ("connection", ["Upgrade"]), ("upgrade", ["websocket"]),
    ("sec-websocket-version", ["13"]), ("sec-websocket-key", [key])]

/-- The fields with the configured ones; the first one that is ill formed is reported. -/
def addHeaders : Header.Fields → List (String × String) → Except SocketError Header.Fields
  | fields, [] => .ok fields
  | fields, (name, value) :: rest =>
    if Header.isName name && Header.isValue value then addHeaders (fields.append name value) rest
    else .error (.invalidHeader name)

/-- The fields with the offer of subprotocols, if there are any. -/
def addSubprotocols (fields : Header.Fields) (subprotocols : List String) :
    Except SocketError Header.Fields :=
  if subprotocols.isEmpty then .ok fields
  else
    let offer := ", ".intercalate subprotocols
    if Header.isValue offer then .ok (fields.replace protocolField offer)
    else .error (.invalidHeader protocolField)

/-- The request for an address under a configuration. -/
def build (key url : String) (c : SocketConfig) : Except SocketError Handshake :=
  match uri? url with
  | none => .error .transport
  | some u =>
    match addHeaders (basicFields u key) c.headers with
    | .error e => .error e
    | .ok fields =>
      match addSubprotocols fields c.subprotocols with
      | .error e => .error e
      | .ok fields => .ok ⟨u, fields⟩

/-- The host to connect to. -/
def host (h : Handshake) : String := String.ofList h.uri.host

/-- The port that a tunnel is asked for: the written one, or that of the scheme. -/
def tunnelPort (h : Handshake) : Nat :=
  h.uri.port?.getD (if h.uri.scheme = some "wss" then 443 else 80)

end Handshake

end StreamFinder.Socket
