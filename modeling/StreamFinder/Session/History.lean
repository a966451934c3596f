import StreamFinder.Session.Basic

/-!
# Histories of a session

A session is opened with some plugins and then lives from step to step:
its registry is changed, its cache is cleared, addresses are resolved. The
collaborator that knows where addresses lead may answer differently each
time, so every step that asks brings its own. A history holds the steps,
each with the session that it found, the latest first.
-/

namespace StreamFinder.Session

open Plugin

/-- A step of a session. -/
inductive Step (P : Type) where
  | change (c : Registry.Change P)
  | clearCache
  | resolve (redirects : Redirects) (url : String) (follow : Bool)

/-- A step with the session that it finds. -/
structure Moment (P : Type) where
  session : Session P
  step : Step P

variable {P : Type}

/-- The session after a step, and what has happened meanwhile. -/
def next (s : Session P) : Step P → Session P × List Event
  | .change c => (s.withRegistry (s.registry.apply c), [])
  | .clearCache => (s.clearCache, [])
  | .resolve redirects url follow => (s.resolve redirects url follow).2

/-- The histories of the sessions that a configuration makes. -/
inductive Run (names : Web.Names) (config : SessionConfig) :
    Session P → List (Moment P) → Prop where
  | created {s : Session P} (registry : Registry P) :
    create names config = .ok s → Run names config (s.withRegistry registry) []
  | step {s : Session P} {history : List (Moment P)} (a : Step P) :
    Run names config s history → Run names config (s.next a).1 (⟨s, a⟩ :: history)

/-! ## Looking back -/

namespace Moment

/-- Whether the cache is cleared. -/
def clears (m : Moment P) : Bool :=
  match m.step with
  | .clearCache => true
  | _ => false

/-- Whether a key is looked up that has no entry. -/
def misses (m : Moment P) (key : CacheKey) : Bool :=
  match m.step with
  | .resolve _ url follow =>
    (⟨normalized url, follow⟩ : CacheKey) = key && (m.session.cache.get key).1.isNone
  | _ => false

/-- What happens during a step. -/
def events (m : Moment P) : List Event := (m.session.next m.step).2

/-- The address that a step has a question about: a resolve has one when it
is to follow redirects and finds no decision in the cache. -/
def question? (m : Moment P) : Option String :=
  match m.step with
  | .resolve _ url true =>
    if m.misses ⟨normalized url, true⟩ then some (normalized url) else none
  | _ => none

end Moment

/-- All that has happened, in order. -/
def story (history : List (Moment P)) : List Event := history.reverse.flatMap Moment.events

/-- What has happened since the cache was last cleared. -/
def sinceClear (history : List (Moment P)) : List (Moment P) :=
  history.takeWhile fun m => !m.clears

/-- The latest miss of a key since the cache was last cleared. -/
def latestMiss (key : CacheKey) (history : List (Moment P)) : Option (Moment P) :=
  (sinceClear history).find? fun m => m.misses key

/-! ## Deprecated claims -/

/-- The names of the classes that claim an address in the deprecated way, in
the order of their registration. -/
def deprecatedClaims (registry : Registry P) (url : String) : List String :=
  registry.classes.filterMap fun c =>
    match c.strategy with
    | .legacy p => if p.test url then some c.name else none
    | .matchers _ => none

namespace Moment

/-- The target that a step decides about: that of a resolve that finds no
decision in the cache and is not let down by the collaborator. -/
def target? (m : Moment P) : Option String :=
  match m.step with
  | .resolve redirects url follow =>
    if m.misses ⟨normalized url, follow⟩ then
      (Session.target redirects (normalized url) follow).1.toOption
    else none
  | _ => none

/-- The names of those that claim the target of a step in the deprecated way. -/
def deprecated (m : Moment P) : List String :=
  match m.target? with
  | some lead => deprecatedClaims m.session.registry lead
  | none => []

/-- What happens during a step until the collaborator has answered. -/
def inquiry (m : Moment P) : List Event :=
  match m.step with
  | .resolve redirects url follow =>
    if m.misses ⟨normalized url, follow⟩ then
      (Session.target redirects (normalized url) follow).2
    else []
  | _ => []

/-- What the session itself does during a step. -/
def ownEvents (m : Moment P) : List Event := m.events.drop m.inquiry.length

end Moment

/-- All that the session itself has done, in order. -/
def ownStory (history : List (Moment P)) : List Event :=
  history.reverse.flatMap Moment.ownEvents

/-- The names of all that have claimed in the deprecated way, in order and
as often as they have. -/
def deprecatedSoFar (history : List (Moment P)) : List String :=
  history.reverse.flatMap Moment.deprecated

/-! ## Without a cache -/

/-- What a selection among the classes of a registry answers for an address. -/
def freshAnswer (registry : Registry P) (target : String) :
    Except SessionError (ResolvedPlugin P) :=
  match Decision.make registry target with
  | .noMatch _ => .error (.noPlugin target)
  | .resolved winner _ matcher =>
    .ok ⟨winner.name, target, winner.instantiate ⟨target, winner.strategy.groups target matcher⟩⟩

/-- What the session would answer if nothing were cached. -/
def uncachedAnswer (s : Session P) (redirects : Redirects) (url : String) (follow : Bool) :
    Except SessionError (ResolvedPlugin P) :=
  match (target redirects (normalized url) follow).1 with
  | .error e => .error (.http e)
  | .ok target => freshAnswer s.registry target

end StreamFinder.Session
