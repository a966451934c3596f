/-!
# Reports: what the library tells the log

A report is one line of the log: a severity, a message, and the details
as named texts in a fixed order. The lines are told apart by what they
report, so that a statement about the log does not read its wording.
-/

namespace StreamFinder

/-- How much a line of the log matters. -/
inductive Severity where
  | debug
  | info
deriving DecidableEq, Repr

/-- The severity as written. -/
def Severity.name : Severity → String
  | .debug => "DEBUG"
  | .info => "INFO"

/-- What a line of the log reports. -/
inductive Report where
  /-- A decision on an address came out of the cache. -/
  | cacheHit (url : String) (followed : Bool)
  /-- A plugin was bound to an address. -/
  | bound (plugin url : String)
  /-- A plugin that claims in the deprecated way has claimed for the first time. -/
  | deprecated (plugin : String)
  /-- Redirects have led from one address to another. -/
  | redirected (asked reached : String)
  /-- A plugin has said that there is nothing to see. -/
  | noStreams (plugin : String)
  /-- A plugin has offered streams. -/
  | fetched (plugin : String) (count : Nat)
  /-- A stream was left out because its name holds no name. -/
  | misnamed (name : String)
deriving DecidableEq, Repr

namespace Report

/-- How much the report matters. -/
def severity : Report → Severity
  | .deprecated _ => .info
  | _ => .debug

/-- The message. -/
def message : Report → String
  | .cacheHit _ _ => "Resolution cache hit"
  | .bound _ _ => "Resolved plugin"
  | .deprecated plugin => "Resolved plugin " ++ plugin ++ " with deprecated predicate matching"
  | .redirected _ _ => "Followed redirect"
  | .noStreams _ => "No streams found"
  | .fetched _ _ => "Fetched raw streams"
  | .misnamed _ => "Stream ignored since it is badly named"

/-- The details, in order. -/
def details : Report → List (String × String)
  | .cacheHit url followed => [("url", url), ("follow_redirects", toString followed)]
  | .bound plugin url => [("plugin", plugin), ("url", url)]
  | .deprecated plugin => [("plugin", plugin)]
  | .redirected asked reached => [("from", asked), ("to", reached)]
  | .noStreams plugin => [("plugin", plugin)]
  | .fetched plugin count => [("plugin", plugin), ("count", toString count)]
  | .misnamed name => [("name", name)]

/-- The line of the log. -/
def render (r : Report) : String :=
  " ".intercalate
    (r.severity.name :: r.message :: r.details.map fun (name, text) => name ++ "=" ++ text)

end Report

end StreamFinder
