import StreamFinder.Socket.Handshake

/-!
# Opening a connection

Once a connection stands, a request is written on it, and the peer agrees
or does not. What does this is an `Opening`, and the client relies on it:
of a request, other lines may be written than it has fields, or none.

The opening in use, `standard`, writes the fields that every handshake has
before all others, each of them once, with the first value under its name.
What is configured under such a name is not written. It refuses a request
for any other value that is not all visible ASCII, and one that does not
go to a socket.
-/

namespace StreamFinder.Socket

open Web

namespace Handshake

/-- The names of the fields that every handshake has, as they are written. -/
def ownNames : List String :=
  ["Host", "Connection", "Upgrade", "Sec-WebSocket-Version", "Sec-WebSocket-Key"]

/-- Whether every handshake has a field of this name. -/
def isOwn (name : String) : Bool := ownNames.any (Header.sameName name)

/-- How the name of another field is written: in lower case, but for two names. -/
def writtenName (key : String) : String :=
  if key = protocolField then "Sec-WebSocket-Protocol" else if key = "origin" then "Origin" else key

/-- The fields of a request line by line. -/
def lines (h : Handshake) : List (String × String) :=
  let own := ownNames.flatMap fun name => ((h.fields.values name).take 1).map (name, ·)
  let others := (h.fields.filter fun (key, _) => !isOwn key).flatMap fun (key, values) =>
    values.map (writtenName key, ·)
  own ++ others

/-- Whether a request goes to a socket. -/
def isForSocket (h : Handshake) : Bool := h.uri.scheme = some "ws" || h.uri.scheme = some "wss"

end Handshake

/-- What is done with a request on a connection that stands, after any encryption
that its scheme asks for is in place. -/
structure Opening where
  /-- The lines that are written for a request, each a name and a value, unless it is refused. -/
  lines? : Handshake → Option (List (String × String))
  /-- Whether the peer agrees to a request that was written. -/
  isAgreed : Handshake → Bool

/-- The opening in use, with peers that agree to some requests. -/
def Opening.standard (isAgreed : Handshake → Bool) : Opening where
  lines? h :=
    if h.isForSocket && h.lines.all fun (_, value) => Header.isVisible value then some h.lines
    else none
  isAgreed := isAgreed

end StreamFinder.Socket
