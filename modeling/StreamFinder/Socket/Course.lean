import StreamFinder.Socket.History
/-!
# The connections of a client

A client has one connection after the other, and its history does not say
of a call of the handler which of them it is about. This file tells the
connections apart by what the worker meets: it looks at a connection that
was made, data arrives, and something ends it; or the attempt fails and
there is no connection. What the handler is to hear of each is a matter of
these alone, not of what was called.
-/

namespace StreamFinder.Socket

/-- A step of a client with the machine that it finds. -/
structure Moment where
  machine : Machine
  action : Action

/-- The histories of a client with the moments that they are made of, the
latest first. -/
inductive Course (c : SocketConfig) : Machine → List Moment → List Event → Prop where
  | create : Course c (.create c) [] []
  | step {m next : Machine} {moments : List Moment} {history events : List Event} {a : Action} :
    Course c m moments history → m.step a = some (next, events) →
    Course c next (⟨m, a⟩ :: moments) (history ++ events)

/-- How a connection ends. -/
inductive Ending where
  | closedByPeer (code : Nat) (reason : String)
  /-- The peer is gone without a word. -/
  | vanished
  /-- Nothing could be received, or a frame or a ping could not be sent. -/
  | failed (e : SocketError)
  /-- The worker is told to close. -/
  | closed (code : Nat) (reason : String)
  /-- The worker is told to connect anew. -/
  | reconnecting
deriving DecidableEq, Repr

/-- A connection that the worker has looked at. -/
structure Connection where
  /-- Whether it was marked as open. -/
  opened : Bool
  /-- Whether somebody had closed the client or let go of it before. -/
  late : Bool
  data : List Frame
  ending : Option Ending
deriving DecidableEq, Repr

/-- What has become of an attempt. -/
inductive Fate where
  | failed (e : SocketError)
  | connected (k : Connection)
deriving DecidableEq, Repr

/-! ## What the handler is to hear -/

/-- What the handler is to hear of the end of a connection. -/
def Ending.callbacks : Ending → List Callback
  | .closedByPeer code reason => [.closed (some code) reason]
  | .vanished => [.closed none ""]
  | .failed e => [.error e, .closed none ""]
  | .closed code reason => [.closed (some code) reason]
  | .reconnecting => [.closed (some closeNormal) ""]

/-- What the handler is to hear of a connection so far. -/
def Connection.callbacks (k : Connection) : List Callback :=
  (if k.opened then [.opened] else []) ++ k.data.map .message ++
    k.ending.elim [] Ending.callbacks

/-- What the handler is to hear of an attempt. -/
def Fate.callbacks : Fate → List Callback
  | .failed e => [.error e]
  | .connected k => k.callbacks

namespace Fate

/-- Whether there is nothing more to hear. -/
def isEnded : Fate → Bool
  | .failed _ => true
  | .connected k => k.ending.isSome

/-- Whether there was a connection, from its opening to its end. -/
def isComplete : Fate → Bool
  | .failed _ => false
  | .connected k => k.opened && k.ending.isSome

end Fate

/-- What the worker has in hand for the handler: the opening of a
connection that it has marked, and the end of one that has failed. -/
def Phase.owed : Phase → List Callback
  | .marked => [.opened]
  | .failing => [.closed none ""]
  | _ => []

/-! ## What the worker meets -/

/-- What a moment brings. -/
inductive News where
  | nothing
  /-- An attempt fails. -/
  | refused (e : SocketError)
  /-- The worker looks at a connection that was made, and marks it as open unless it is late. -/
  | met (opened : Bool)
  | data (frame : Frame)
  | ended (x : Ending)
deriving DecidableEq, Repr

/-- What the handler is to hear of the news. -/
def News.callbacks : News → List Callback
  | .nothing => []
  | .refused e => [.error e]
  | .met opened => if opened then [.opened] else []
  | .data frame => [.message frame]
  | .ended x => x.callbacks

namespace Moment

/-- What a moment brings. Of the commands, a frame ends the connection if
it cannot be sent, and a reconnect unless it is out of date or too late. -/
def news (m : Moment) : News :=
  match m.action with
  | .work .advance =>
    if m.machine.phase = .connected then .met (m.machine.state = .connecting) else .nothing
  | .work (.connectionFailed e) => .refused e
  | .work .connectionTimedOut => .refused (.connectTimeout m.machine.config.connectTimeout)
  | .work (.frameArrived (.close code reason)) => .ended (.closedByPeer code reason)
  | .work (.frameArrived frame) => if frame.isData then .data frame else .nothing
  | .work .peerVanished => .ended .vanished
  | .work (.connectionBroken e) => .ended (.failed e)
  | .work (.pingDue (some e)) => .ended (.failed e)
  | .work (.commandTaken failure) =>
    match m.machine.queue.head?, failure with
    | some (.send _), some e => .ended (.failed e)
    | some .reconnect, _ =>
      if m.machine.pending && !m.machine.state.isShuttingDown then .ended .reconnecting
      else .nothing
    | some (.close code reason), _ => .ended (.closed code reason)
    | _, _ => .nothing
  | _ => .nothing

/-- Whether somebody closes the client or lets go of it. -/
def shutsDown (m : Moment) : Bool :=
  match m.action with
  | .ask (.close _ _) => true
  | .drop => true
  | _ => false

end Moment

namespace Fate

/-- The connection gets data. -/
def receive (frame : Frame) : Fate → Fate
  | .failed e => .failed e
  | .connected k => .connected { k with data := k.data ++ [frame] }

/-- The connection ends. -/
def finish (x : Ending) : Fate → Fate
  | .failed e => .failed e
  | .connected k => .connected { k with ending := some x }

end Fate

/-- What has become of the attempts, the latest first. -/
def fates : List Moment → List Fate
  | [] => []
  | m :: earlier =>
    match m.news with
    | .nothing => fates earlier
    | .refused e => .failed e :: fates earlier
    | .met opened => .connected ⟨opened, earlier.any Moment.shutsDown, [], none⟩ :: fates earlier
    | .data frame => (fates earlier).modifyHead (Fate.receive frame)
    | .ended x => (fates earlier).modifyHead (Fate.finish x)

/-- The call of the handler, if the event is one. -/
def Event.callback? : Event → Option Callback
  | .called callback => some callback
  | _ => none

/-- The calls of the handler. -/
def callbacks (history : List Event) : List Callback := history.filterMap Event.callback?

/-- The moments that some actions add, as far as each is possible. -/
def Machine.along (m : Machine) : List Action → List Moment → List Moment
  | [], moments => moments
  | a :: rest, moments =>
    match m.step a with
    | none => moments
    | some (next, _) => next.along rest (⟨m, a⟩ :: moments)

/-! ## Courses and histories -/

@[simp]
theorem callbacks_append (history more : List Event) :
    callbacks (history ++ more) = callbacks history ++ callbacks more :=
  List.filterMap_append

variable {c : SocketConfig} {m later : Machine} {moments : List Moment}
variable {history events : List Event}

theorem Course.run (h : Course c m moments history) : Run c m history := by
  induction h with
  | create => exact .create
  | step _ hstep ih => exact ih.step hstep

/-- Every history has its course. -/
theorem Run.exists_course (h : Run c m history) : ∃ moments, Course c m moments history := by
  induction h with
  | create => exact ⟨[], .create⟩
  | step _ hstep ih =>
    obtain ⟨moments, hcourse⟩ := ih
    exact ⟨_, hcourse.step hstep⟩

/-- A course goes on by any steps that are possible. -/
theorem Course.steps {actions : List Action} (h : Course c m moments history)
    (hs : m.steps actions = some (later, events)) :
    Course c later (m.along actions moments) (history ++ events) := by
  induction actions generalizing m moments history events with
  | nil =>
    cases hs
    exact (List.append_nil _).symm ▸ h
  | cons a rest ih =>
    obtain ⟨next, seen, more, hstep, hrest, rfl⟩ := Machine.steps_cons hs
    rw [Machine.along, hstep, ← List.append_assoc]
    exact ih (h.step hstep) hrest

end StreamFinder.Socket
