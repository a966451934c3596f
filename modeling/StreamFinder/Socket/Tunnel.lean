import StreamFinder.Socket.Error
import StreamFinder.Text.Base64
import StreamFinder.Text.Blank
import StreamFinder.Web.UrlReader

/-!
# Tunnels through a proxy

A proxy is asked with CONNECT to pass a connection on. Its answer is a
head that ends with an empty line; what follows belongs to the other end
of the tunnel, so not one byte behind the head is taken. The head may be
`maxHead` bytes long. The tunnel stands if the second word of the first
line is `200`.

The user and the password of the proxy's URL are sent as they stand in
the URL, percent encoded.
-/

namespace StreamFinder.Socket

open Text Web

/-- What a network does when a host and a port are dialed: it fails for a
reason, or there is someone who answers what is said with bytes. -/
abbrev Network := String → Nat → Except String (List UInt8 → List UInt8)

/-- A network that leads nowhere. -/
def Network.unreachable : Network := fun _ _ => .error "Network is unreachable (os error 101)"

/-- What the other end of a connection sends: some bytes before it closes
the connection, or bytes for ever. -/
inductive Reply where
  | closing (bytes : List UInt8)
  | endless (bytes : Nat → UInt8)

/-- The next byte and what comes after it, unless the connection is closed. -/
def Reply.next? : Reply → Option (UInt8 × Reply)
  | .closing [] => none
  | .closing (b :: rest) => some (b, .closing rest)
  | .endless bytes => some (bytes 0, .endless fun i => bytes (i + 1))

namespace Tunnel

/-- How many bytes the head of an answer may have. -/
def maxHead : Nat := 8192

/-- The end of a head, last byte first. -/
def headEnd : List UInt8 := [0x0a, 0x0d, 0x0a, 0x0d]

/-- Read the head of an answer byte by byte. `read` are the bytes so far,
last byte first, and `room` is how many more there may be. The head or the
failure is answered, with what is left of the answer. -/
def readHead (room : Nat) (read : List UInt8) (answer : Reply) :
    Except SocketError (List UInt8) × Reply :=
  if headEnd.isPrefixOf read then (.ok read.reverse, answer)
  else
    match room with
    | 0 => (.error (.tunnelRefused "response head too large"), answer)
    | room + 1 =>
      match answer.next? with
      | none => (.error (.tunnelRefused "connection closed during CONNECT"), answer)
      | some (b, rest) => readHead room (b :: read) rest

/-- The first line of a text, without its end. -/
def firstLine (s : List Char) : List Char :=
  let line := s.takeWhile (· ≠ '\n')
  if line.length < s.length then
    match line.reverse with
    | '\r' :: rest => rest.reverse
    | _ => line
  else line

/-- The first line of a head. -/
def statusLine (head : List UInt8) : List Char := firstLine (lossy head)

/-- Whether a first line grants the tunnel. -/
def grants (line : List Char) : Bool := (words line)[1]? = some ['2', '0', '0']

/-- What is behind the head of an answer that grants the tunnel. -/
def accept (answer : Reply) : Except SocketError Reply :=
  match readHead maxHead [] answer with
  | (.error e, _) => .error e
  | (.ok head, rest) =>
    let line := statusLine head
    if grants line then .ok rest else .error (.tunnelRefused (String.ofList line))

/-- What the user and the password of a proxy make of a request. -/
def authorization (proxy : Url) : String :=
  if proxy.username = "" then ""
  else
    let credentials := proxy.username ++ ":" ++ proxy.password
    "Proxy-Authorization: Basic " ++ String.ofList (base64 (utf8 credentials.toList)) ++ "\r\n"

/-- The request for a tunnel. -/
def request (proxy : Url) (host : String) (port : Nat) : String :=
  let target := host ++ ":" ++ toString port
  "CONNECT " ++ target ++ " HTTP/1.1\r\nHost: " ++ target ++ "\r\n" ++ authorization proxy ++ "\r\n"

/-- The URL of a proxy that can be asked for a tunnel, with its host and port. -/
def proxyUrl? (proxy : String) : Option (Url × String × Nat) :=
  match Url.parse proxy with
  | none => none
  | some u =>
    match u.host, u.effectivePort? with
    | some host, some port =>
      if u.scheme = "http" ∨ u.scheme = "https" then some (u, host, port) else none
    | _, _ => none

/-- A host without the brackets around an IPv6 address. -/
def unbracketed (host : String) : String :=
  let s := host.toList.dropWhile (· = '[')
  String.ofList (s.reverse.dropWhile (· = ']')).reverse

/-- An attempt to open a tunnel: who was dialed, what was sent to the proxy,
if it was reached, and what is behind the head of its answer. -/
structure Attempt where
  dialed : Option (String × Nat)
  sent : Option String
  outcome : Except SocketError Reply

/-- Ask a proxy for a tunnel to a host and a port. -/
def dig (network : Network) (proxy host : String) (port : Nat) : Attempt :=
  match proxyUrl? proxy with
  | none => ⟨none, none, .error (.invalidProxy proxy)⟩
  | some (u, proxyHost, proxyPort) =>
    let dialed := (unbracketed proxyHost, proxyPort)
    match network dialed.1 dialed.2 with
    | .error reason => ⟨dialed, none, .error (.io reason)⟩
    | .ok answers =>
      let text := request u host port
      ⟨dialed, text, accept (.closing (answers (utf8 text.toList)))⟩

end Tunnel

end StreamFinder.Socket
