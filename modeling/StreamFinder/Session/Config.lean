import StreamFinder.Json.Reader
import StreamFinder.Json.Writer

/-!
# The configuration of a session

A configuration is kept as a JSON object with one member per field. What
an object leaves out has its default, and members of other names are
passed over; a field that comes twice, or with a value of the wrong type,
spoils the object. A configuration may also be an array of the fields in
their order, which may stop early but not go on.
-/

namespace StreamFinder.Session

open Json

/-- The configuration of a session. -/
structure SessionConfig where
  userAgent : String
  httpProxy : Option String
  httpsProxy : Option String
  timeoutSeconds : Nat
  maxRedirects : Nat
  cacheCapacity : Nat
deriving DecidableEq, Repr

/-- The user agent of a session that names none. -/
def defaultUserAgent : String :=
  "Mozilla/5.0 (Macintosh; Intel Mac OS X 10_15_7) AppleWebKit/537.36 (KHTML, like Gecko) Chrome/121.0.0.0 Safari/537.36"

/-- A field of the configuration. -/
inductive ConfigField where
  | userAgent
  | httpProxy
  | httpsProxy
  | timeoutSeconds
  | maxRedirects
  | cacheCapacity
deriving DecidableEq, Repr

namespace ConfigField

/-- All fields, in order. -/
def all : List ConfigField :=
  [.userAgent, .httpProxy, .httpsProxy, .timeoutSeconds, .maxRedirects, .cacheCapacity]

/-- The name of a field. -/
def name : ConfigField → String
  | .userAgent => "user_agent"
  | .httpProxy => "http_proxy"
  | .httpsProxy => "https_proxy"
  | .timeoutSeconds => "timeout_seconds"
  | .maxRedirects => "max_redirects"
  | .cacheCapacity => "cache_capacity"

/-- The field of a name. -/
def ofName? (name : String) : Option ConfigField := all.find? (·.name = name)

end ConfigField

/-- A number that fits into 64 bits. -/
def word? (v : Value) : Option Nat := v.nat?.filter (· < Nat.pow 2 64)

/-- A text, or none for `null`. -/
def optionalText? : Value → Option (Option String)
  | .null => some none
  | .text s => some (some s)
  | _ => none

namespace SessionConfig

/-- The configuration of a session that sets nothing. -/
def default : SessionConfig := ⟨defaultUserAgent, none, none, 20, 10, 128⟩

/-- The proxy for all requests: the one for HTTPS if there is one, else the one for HTTP. -/
def effectiveProxy (c : SessionConfig) : Option String := c.httpsProxy.or c.httpProxy

/-- The JSON value of a field. -/
def field (c : SessionConfig) : ConfigField → Value
  | .userAgent => .text c.userAgent
  | .httpProxy => .orNull .text c.httpProxy
  | .httpsProxy => .orNull .text c.httpsProxy
  | .timeoutSeconds => .nat c.timeoutSeconds
  | .maxRedirects => .nat c.maxRedirects
  | .cacheCapacity => .nat c.cacheCapacity

/-- The configuration with a field set from a JSON value, if that has the type of the field. -/
def withField (c : SessionConfig) (f : ConfigField) (v : Value) : Option SessionConfig :=
  match f with
  | .userAgent => v.text?.map fun s => { c with userAgent := s }
  | .httpProxy => (optionalText? v).map fun s => { c with httpProxy := s }
  | .httpsProxy => (optionalText? v).map fun s => { c with httpsProxy := s }
  | .timeoutSeconds => (word? v).map fun n => { c with timeoutSeconds := n }
  | .maxRedirects => (word? v).map fun n => { c with maxRedirects := n }
  | .cacheCapacity => (word? v).map fun n => { c with cacheCapacity := n }

/-- The configuration as a JSON object, in the order of the fields. -/
def toJson (c : SessionConfig) : Value :=
  .record (ConfigField.all.map fun f => (f.name, c.field f))

/-- Set the fields that members of an object name. `seen` are those that are set already. -/
def ofMembers (seen : List ConfigField) (c : SessionConfig) :
    List (Option String × Value) → Option SessionConfig
  | [] => some c
  | (none, _) :: _ => none
  | (some name, v) :: rest =>
    match ConfigField.ofName? name with
    | none => ofMembers seen c rest
    | some f =>
      if f ∈ seen then none
      else
        match c.withField f v with
        | none => none
        | some c => ofMembers (f :: seen) c rest

/-- Set the fields in their order from the items of an array. -/
def ofItems (c : SessionConfig) : List ConfigField → List Value → Option SessionConfig
  | _, [] => some c
  | [], _ :: _ => none
  | f :: fs, v :: vs =>
    match c.withField f v with
    | none => none
    | some c => ofItems c fs vs

/-- The configuration that a JSON value writes. -/
def ofJson? : Value → Option SessionConfig
  | .object members => ofMembers [] default members
  | .array items => ofItems default ConfigField.all items
  | _ => none

/-- The configuration that a JSON document writes. -/
def parse (document : String) : Option SessionConfig := (Json.parse document).bind ofJson?

/-- The configuration as a JSON document. -/
def render (c : SessionConfig) : String := c.toJson.render

end SessionConfig

end StreamFinder.Session
