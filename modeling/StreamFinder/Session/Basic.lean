import StreamFinder.Plugin.Fetch
import StreamFinder.Session.Cache
import StreamFinder.Session.Config
import StreamFinder.Session.Decision
import StreamFinder.Session.Scheme
import StreamFinder.Web.Redirect

/-!
# Sessions

A session resolves addresses to plugins. It normalizes an address, asks
where it leads unless told not to, decides which class it belongs to, and
makes a plugin of that class. Decisions are cached under the normalized
address and the mode of asking, together with the class that has won: a
change of the registry does not touch them until the cache is cleared.
Failures to find out where an address leads are not cached.

Where addresses lead is answered by a collaborator, which is given to each
call. What a call asks it and what it reports is part of its result.
-/

namespace StreamFinder.Session

open Plugin

/-- What a decision is cached under. -/
structure CacheKey where
  url : String
  followed : Bool
deriving DecidableEq, Repr

/-- The answer of the collaborator: where an address leads, and what there is to report. -/
structure Lead where
  target : Except Web.HttpError String
  reports : List Report

/-- The collaborator that knows where addresses lead. -/
abbrev Redirects := String → Lead

/-- The collaborator that follows redirects over HTTP. -/
def Redirects.overHttp (peer : Web.Peer) (client : Web.Client) : Redirects := fun url =>
  let r := Web.Redirect.resolve peer client url
  ⟨r.outcome, r.reports⟩

/-- Why an address is not resolved. -/
inductive SessionError where
  | noPlugin (url : String)
  | http (e : Web.HttpError)
deriving DecidableEq, Repr

/-- The wording of the error, as far as it is this library's own. -/
def SessionError.message? : SessionError → Option String
  | .noPlugin url => some ("No plugin can handle URL: " ++ url)
  | .http (.other reason) => some ("HTTP error: " ++ reason)
  | .http _ => none

/-- What happens during a call, in order. -/
inductive Event where
  /-- The collaborator is asked where an address leads. -/
  | asked (url : String)
  | reported (report : Report)
deriving DecidableEq, Repr

namespace Event

/-- The addresses that were asked about. -/
def askedUrls (events : List Event) : List String :=
  events.filterMap fun
    | .asked url => some url
    | .reported _ => none

/-- The reports. -/
def reports (events : List Event) : List Report :=
  events.filterMap fun
    | .asked _ => none
    | .reported r => some r

/-- The reports of severity `info`. -/
def notices (events : List Event) : List Report :=
  (reports events).filter (·.severity = .info)

end Event

end Session

open Plugin Session

/-- A session over plugins of type `P`. -/
structure Session (P : Type) where
  config : SessionConfig
  client : Web.Client
  registry : Registry P
  cache : Cache CacheKey (Decision P)
  notices : Notices

namespace Session

variable {P : Type}

/-- A session without plugins. The proxy and the user agent must be usable. -/
def create (names : Web.Names) (config : SessionConfig) : Except Web.HttpError (Session P) :=
  match Web.Client.build names config.userAgent config.effectiveProxy config.maxRedirects with
  | .error e => .error e
  | .ok client => .ok ⟨config, client, .empty, .empty config.cacheCapacity, .empty⟩

/-- The session with other plugins. -/
def withRegistry (s : Session P) (registry : Registry P) : Session P :=
  { s with registry := registry }

/-- Register a class; the class that it replaces is answered. -/
def register (s : Session P) (c : PluginClass P) : Option (PluginClass P) × Session P :=
  let (old, registry) := s.registry.register c
  (old, s.withRegistry registry)

/-- Remove the class of a name; the removed class is answered. -/
def unregister (s : Session P) (name : String) : Option (PluginClass P) × Session P :=
  let (old, registry) := s.registry.unregister name
  (old, s.withRegistry registry)

/-- The class of a name. -/
def plugin? (s : Session P) (name : String) : Option (PluginClass P) := s.registry.get? name

/-- Forget all decisions. -/
def clearCache (s : Session P) : Session P := { s with cache := s.cache.clear }

/-- Make the plugin that a decision calls for. -/
def bind : Decision P → Except SessionError (ResolvedPlugin P) × List Event
  | .noMatch url => (.error (.noPlugin url), [])
  | .resolved winner url matcher =>
    let input : Input := ⟨url, winner.strategy.groups url matcher⟩
    (.ok ⟨winner.name, url, winner.instantiate input⟩, [.reported (.bound winner.name url)])

/-- Decide about an address, and announce who claims it in the deprecated way. -/
def decide (s : Session P) (target : String) : Decision P × Session P × List Event :=
  let (reports, notices) :=
    Decision.announceAll (Contender.listOf s.registry.classes target) s.notices
  (.make s.registry target, { s with notices := notices }, reports.map .reported)

/-- Where an address leads, in the given mode of asking. -/
def target (redirects : Redirects) (url : String) (follow : Bool) :
    Except Web.HttpError String × List Event :=
  if follow then
    let lead := redirects url
    (lead.target, .asked url :: lead.reports.map .reported)
  else (.ok url, [])

/-- Resolve an address. -/
def resolve (redirects : Redirects) (s : Session P) (url : String) (follow : Bool) :
    Except SessionError (ResolvedPlugin P) × Session P × List Event :=
  let url := normalized url
  let key : CacheKey := ⟨url, follow⟩
  match s.cache.get key with
  | (some decision, cache) =>
    let (answer, events) := bind decision
    (answer, { s with cache := cache }, .reported (.cacheHit url follow) :: events)
  | (none, cache) =>
    let s := { s with cache := cache }
    match target redirects url follow with
    | (.error e, events) => (.error (.http e), s, events)
    | (.ok target, events) =>
      let (decision, s, announced) := s.decide target
      let (answer, bound) := bind decision
      (answer, { s with cache := s.cache.insert key decision }, events ++ announced ++ bound)

end Session

end StreamFinder
