import StreamFinder.Socket.Opening
import StreamFinder.Socket.Tunnel

/-!
# Dialing

A socket client dials the host of its address, through a tunnel if there
is a proxy, and opens the connection with its request. Whatever is wrong
with the configuration of the request is noticed before anybody is dialed.
-/

namespace StreamFinder.Socket

open Web

/-- The way to the peer of a request: who is dialed, what is said to a
proxy, and whether a connection to the peer stands in the end. -/
structure Way where
  /-- The host and the port that are dialed, those of the proxy if there is one. -/
  dialed : Option (String × Nat)
  sentToProxy : Option String
  outcome : Except SocketError Unit

namespace Way

/-- The host that is dialed without a proxy. -/
def dialedHost (h : Handshake) : String := Tunnel.unbracketed h.host

/-- The port that is dialed without a proxy; only the schemes of sockets imply one. -/
def dialedPort? (h : Handshake) : Option Nat :=
  h.uri.port?.or
    (if h.uri.scheme = some "wss" then some 443
    else if h.uri.scheme = some "ws" then some 80
    else none)

/-- The way to the peer of a request under a configuration. -/
def make (network : Network) (c : SocketConfig) (h : Handshake) : Way :=
  match c.proxy with
  | some proxy =>
    let tunnel := Tunnel.dig network proxy h.host h.tunnelPort
    ⟨tunnel.dialed, tunnel.sent, tunnel.outcome.map fun _ => ()⟩
  | none =>
    match dialedPort? h with
    | none => ⟨none, none, .error .transport⟩
    | some port =>
      match network (dialedHost h) port with
      | .error _ => ⟨some (dialedHost h, port), none, .error .transport⟩
      | .ok _ => ⟨some (dialedHost h, port), none, .ok ()⟩

end Way

/-- An attempt to connect: who was dialed, what was sent to a proxy, the
lines of the request that were sent to the peer, and whether there is a
socket. What an opening refuses is not sent. -/
structure Attempt where
  dialed : Option (String × Nat)
  sentToProxy : Option String
  sentToPeer : Option (List (String × String))
  outcome : Except SocketError Unit

namespace Attempt

/-- An attempt that comes to nothing before anything is done. -/
def spoilt (e : SocketError) : Attempt := ⟨none, none, none, .error e⟩

/-- Connect to an address under a configuration. -/
def make (network : Network) (opening : Opening) (key url : String) (c : SocketConfig) : Attempt :=
  match Handshake.build key url c with
  | .error e => spoilt e
  | .ok h =>
    let way := Way.make network c h
    match way.outcome with
    | .error e => ⟨way.dialed, way.sentToProxy, none, .error e⟩
    | .ok _ =>
      match opening.lines? h with
      | none => ⟨way.dialed, way.sentToProxy, none, .error .transport⟩
      | some lines =>
        ⟨way.dialed, way.sentToProxy, some lines,
          if opening.isAgreed h then .ok () else .error .transport⟩

end Attempt

end StreamFinder.Socket
