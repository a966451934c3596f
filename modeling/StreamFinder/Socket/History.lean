import StreamFinder.Socket.Machine
/-!
# What a history tells

The history of a client is one list of events, and each law about it looks
at some of them only: the reconnects that were let in, the attempts to
connect and where they went, the commands that were queued and the frames
that the connections got. This file says how these are read off, how a
history goes on by further steps, and where the reconnects of a history
take the client (`route`).
-/

namespace StreamFinder.Socket

namespace Event

/-- The URL asked for by a reconnect that is let in, if the event is one. -/
def reconnect? : Event → Option (Option String)
  | .admitted (.reconnect url) => some url
  | _ => none

/-- Where an attempt goes, if the event is the beginning of one. -/
def dialed? : Event → Option String
  | .dialed url => some url
  | _ => none

/-- The command that is queued, if the event is that. -/
def queued? : Event → Option Command
  | .queued command => some command
  | _ => none

/-- The frame that a connection gets from the queue, if the event is that.
Pings of the worker do not come from the queue. -/
def handed? : Event → Option Frame
  | .handed frame _ => some frame
  | _ => none

/-- Whether a request to close is let in. -/
def isClose : Event → Bool
  | .admitted (.close _ _) => true
  | _ => false

end Event

/-- The reconnects that were let in, each with the URL that it asked for. -/
def reconnects (history : List Event) : List (Option String) := history.filterMap Event.reconnect?

/-- How often the worker has set out for an attempt to connect. -/
def attempts (history : List Event) : Nat := history.count .setOut

/-- Where the attempts went that have begun. -/
def dials (history : List Event) : List String := history.filterMap Event.dialed?

/-- Whether somebody has asked to close the client before it was closed. -/
def wasClosed (history : List Event) : Bool := history.any Event.isClose

/-- The commands that were queued. -/
def queuedCommands (history : List Event) : List Command := history.filterMap Event.queued?

/-- The frames that the connections got from the queue, of all connections together. -/
def handedFrames (history : List Event) : List Frame := history.filterMap Event.handed?

/-- The frame that a command sends. -/
def Command.frame? : Command → Option Frame
  | .send frame => some frame
  | _ => none

/-- The frames among some commands. -/
def frames (commands : List Command) : List Frame := commands.filterMap Command.frame?

/-- Where attempts have to go, from the URL of the first and what the
reconnects between them ask for. A reconnect that names no URL leaves it
as it is. -/
def route (url : String) (asked : List (Option String)) : List String :=
  asked.scanl (fun url next => next.getD url) url

/-- The steps of some actions, one after the other, if each is possible. -/
def Machine.steps (m : Machine) : List Action → Option (Machine × List Event)
  | [] => some (m, [])
  | a :: rest =>
    match m.step a with
    | none => none
    | some (next, events) => (next.steps rest).map fun (last, more) => (last, events ++ more)

/-! ## Histories that go on -/

theorem Machine.steps_cons {m last : Machine} {a : Action} {rest : List Action}
    {seen : List Event} (h : m.steps (a :: rest) = some (last, seen)) :
    ∃ next events more, m.step a = some (next, events) ∧ next.steps rest = some (last, more) ∧
      seen = events ++ more := by
  simp only [steps] at h
  split at h
  · cases h
  · next next events hstep =>
    obtain ⟨⟨last', more⟩, hrest, heq⟩ := Option.map_eq_some_iff.1 h
    cases heq
    exact ⟨next, events, more, hstep, hrest, rfl⟩

/-- A run goes on by any steps that are possible. -/
theorem Run.steps {c : SocketConfig} {m later : Machine} {history events : List Event}
    {actions : List Action} (h : Run c m history) (hs : m.steps actions = some (later, events)) :
    Run c later (history ++ events) := by
  induction actions generalizing m history events with
  | nil =>
    cases hs
    exact (List.append_nil _).symm ▸ h
  | cons a rest ih =>
    obtain ⟨next, seen, more, hstep, hrest, rfl⟩ := Machine.steps_cons hs
    rw [← List.append_assoc]
    exact ih (h.step hstep) hrest

section

variable (history more : List Event)

@[simp]
theorem reconnects_append : reconnects (history ++ more) = reconnects history ++ reconnects more :=
  List.filterMap_append

@[simp]
theorem attempts_append : attempts (history ++ more) = attempts history + attempts more :=
  List.count_append

@[simp]
theorem dials_append : dials (history ++ more) = dials history ++ dials more :=
  List.filterMap_append

@[simp]
theorem wasClosed_append : wasClosed (history ++ more) = (wasClosed history || wasClosed more) :=
  List.any_append

@[simp]
theorem queuedCommands_append :
    queuedCommands (history ++ more) = queuedCommands history ++ queuedCommands more :=
  List.filterMap_append

@[simp]
theorem handedFrames_append :
    handedFrames (history ++ more) = handedFrames history ++ handedFrames more :=
  List.filterMap_append

@[simp]
theorem frames_append (commands rest : List Command) :
    frames (commands ++ rest) = frames commands ++ frames rest :=
  List.filterMap_append

end

/-! ## Routes -/

/-- Where the next attempt has to go, after those reconnects. -/
def destination (url : String) (asked : List (Option String)) : String :=
  asked.foldl (fun url next => next.getD url) url

section

variable (url : String) (asked : List (Option String)) (next : Option String)

@[simp]
theorem length_route : (route url asked).length = asked.length + 1 := List.length_scanl ..

theorem getLast?_route : (route url asked).getLast? = some (destination url asked) :=
  List.getLast?_scanl

@[simp]
theorem destination_append_singleton :
    destination url (asked ++ [next]) = next.getD (destination url asked) :=
  List.foldl_append

/-- A further reconnect adds one stop to the route. -/
theorem route_append_singleton :
    route url (asked ++ [next]) = route url asked ++ [next.getD (destination url asked)] := by
  unfold route destination
  rw [List.scanl_append, List.scanl_singleton, List.tail_cons]

end

/-- A route is complete once the stop that lacks is the destination. -/
theorem append_destination_eq_route {url : String} {asked : List (Option String)}
    {visited : List String} (h : visited <+: route url asked)
    (hl : visited.length = asked.length) :
    visited ++ [destination url asked] = route url asked := by
  obtain ⟨rest, hrest⟩ := h
  have hlength : (visited ++ rest).length = asked.length + 1 := by rw [hrest, length_route]
  rw [List.length_append] at hlength
  obtain ⟨stop, rfl⟩ := List.length_eq_one_iff.1 (show rest.length = 1 by omega)
  have hlast := getLast?_route url asked
  rw [← hrest, List.getLast?_concat] at hlast
  rw [← hrest, Option.some.inj hlast]

end StreamFinder.Socket
