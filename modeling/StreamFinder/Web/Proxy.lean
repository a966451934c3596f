import StreamFinder.Text.Base64
import StreamFinder.Web.Uri
import StreamFinder.Web.UrlReader

/-!
# Proxies of the HTTP client

A proxy is given as a URL, or as a host with perhaps a port, which is then
an HTTP proxy. Its credentials are sent only if there is a password; they
are percent decoded first. A SOCKS proxy must have a host that resolves at
the time the client is built.
-/

namespace StreamFinder.Web

open Text

/-- How a proxy is spoken to. -/
inductive ProxyKind where
  | http
  | https
  | socks
deriving DecidableEq, Repr

/-- A proxy: how it is spoken to, where it is, and the user and the
password that it wants. -/
structure Proxy where
  kind : ProxyKind
  authority : String
  credentials : Option (String × String)
deriving DecidableEq, Repr

/-- The value of a header field that carries a user and a password. -/
def basicCredentials (username password : String) : String :=
  "Basic " ++ String.ofList (base64 (utf8 (username ++ ":" ++ password).toList))

/-- Which host names resolve to an address. -/
abbrev Names := String → Bool

/-- The names that resolve without a network: this machine's own, and numbers. -/
def localNames : Names := fun name =>
  let lower := name.toList.map Char.toLower
  lower = "localhost".toList || (Ipv4.parse lower).isSome || (Host.ipv6? lower).isSome

namespace Proxy

/-- The URL with a host that a text writes; `http` is supplied where the
text has no host otherwise. -/
def url? (text : String) : Option Url :=
  let supplied := (Url.parse ("http://" ++ text)).filter (·.hasHost)
  match Url.parse text with
  | some u => if u.hasHost then some u else supplied
  | none => if (Url.splitScheme (Url.cleaned text)).isNone then supplied else none

/-- The text of percent encoded bytes. -/
def decoded (s : String) : String := String.ofList (lossy (percentDecode s.toList))

/-- The user and the password of a URL with a password. -/
def credentialsOf (u : Url) : Option (String × String) :=
  if u.password = "" then none else some (decoded u.username, decoded u.password)

/-- The kind of proxy that a scheme names. -/
def kind? (scheme : String) : Option ProxyKind :=
  if scheme = "http" then some .http
  else if scheme = "https" then some .https
  else if scheme = "socks5" ∨ scheme = "socks5h" then some .socks
  else none

/-- The proxy that a text names. -/
def parse (names : Names) (text : String) : Option Proxy :=
  match url? text with
  | none => none
  | some u =>
    match kind? u.scheme with
    | none => none
    | some .socks =>
      if names (u.host.getD "") then some ⟨.socks, u.hostPort, credentialsOf u⟩ else none
    | some kind =>
      if isAuthority u.hostPort.toList then some ⟨kind, u.hostPort, credentialsOf u⟩ else none

/-- What the client sends to the proxy to identify itself. -/
def authorization? (p : Proxy) : Option String :=
  p.credentials.map fun (username, password) => basicCredentials username password

end Proxy

end StreamFinder.Web
