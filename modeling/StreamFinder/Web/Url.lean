import StreamFinder.Web.Host

/-!
# URLs

A URL in its canonical parts. The user, the password, the path, the query
and the fragment are percent encoded where they must be; the port is left
out where the scheme implies it. An empty password is none. A path is a
list of segments, or plain text in a URL that has neither a host nor
segments.
-/

namespace StreamFinder.Web

/-- The path of a URL. -/
inductive UrlPath where
  | segments (list : List String)
  | plain (text : String)
deriving DecidableEq, Repr

/-- A URL. -/
structure Url where
  scheme : String
  username : String
  password : String
  host : Option String
  port : Option Nat
  path : UrlPath
  query : Option String
  fragment : Option String
deriving DecidableEq, Repr

namespace Url

/-- The port that a scheme implies. -/
def defaultPort? (scheme : String) : Option Nat :=
  if scheme = "http" ∨ scheme = "ws" then some 80
  else if scheme = "https" ∨ scheme = "wss" then some 443
  else if scheme = "ftp" then some 21
  else none

/-- Whether the addresses of a scheme have domain names and always a path. -/
def isSpecial (scheme : String) : Bool := (defaultPort? scheme).isSome || scheme = "file"

/-- The port, written or implied. -/
def effectivePort? (u : Url) : Option Nat := u.port.or (defaultPort? u.scheme)

/-- Whether the URL has a host that is not empty. -/
def hasHost (u : Url) : Bool := u.host.any (· ≠ "")

/-- The path as a text. -/
def pathText (u : Url) : String :=
  match u.path with
  | .plain text => text
  | .segments list => String.join (list.map fun s => "/" ++ s)

/-- The user part of a URL, empty without a user and a password. -/
def userInfo (u : Url) : String :=
  if u.username = "" ∧ u.password = "" then ""
  else u.username ++ (if u.password = "" then "" else ":" ++ u.password) ++ "@"

/-- The host with the port, if that is written. -/
def hostPort (u : Url) : String :=
  u.host.getD "" ++ (match u.port with
    | some n => ":" ++ toString n
    | none => "")

/-- What stands between the scheme and the path. -/
def authorityText (u : Url) : String :=
  match u.host with
  | some _ => "//" ++ u.userInfo ++ u.hostPort
  | none =>
    match u.path with
    | .segments ("" :: _ :: _) => "/."
    | _ => ""

/-- The query behind its question mark. -/
def queryText (u : Url) : String :=
  match u.query with
  | some q => "?" ++ q
  | none => ""

/-- The fragment behind its number sign. -/
def fragmentText (u : Url) : String :=
  match u.fragment with
  | some f => "#" ++ f
  | none => ""

/-- The URL as a text. -/
def render (u : Url) : String :=
  u.scheme ++ ":" ++ u.authorityText ++ u.pathText ++ u.queryText ++ u.fragmentText

end Url

end StreamFinder.Web
