import StreamFinder.Socket.Config
import StreamFinder.Socket.Event
import StreamFinder.Socket.State

/-!
# The reconnecting client as a machine

A client, its worker and the queue between them, as one machine. A step is
the smallest thing that nobody can interrupt, so the steps of users, of
the worker and of the peer can come in any order: a request is let in
under the lock of the state in one step and queued in another, and
whoever is quick enough may come between the two.

A reconnect is asked for twice, by the flag `pending` and by a command in
the queue. The flag decides: a command that finds it down is out of date,
and a connection that ends by itself while it is up is followed by a new
one without any command. The worker takes the flag down when it begins an
attempt. Closing wins over a pending reconnect.
-/

namespace StreamFinder.Socket

/-- Where the worker stands. -/
inductive Phase where
  /-- It has not been started. -/
  | unstarted
  /-- It is about to connect, unless the client is shutting down. -/
  | outset
  /-- It has set out to connect. -/
  | readying
  | dialing (url : String)
  /-- It has a connection, and nobody knows yet. -/
  | connected
  /-- It has said that the client is open, and the handler is about to learn it. -/
  | marked
  /-- The handler learns that the connection is open. -/
  | opening
  /-- It waits for frames, commands and the time of the next ping. -/
  | listening
  /-- The handler gets a frame. -/
  | receiving (frame : Frame)
  /-- The handler learns that the connection has failed. -/
  | failing
  /-- The handler learns that the connection is over. -/
  | ending
  /-- It is about to decide whether there is another connection. -/
  | deciding
  /-- The handler learns that an attempt has failed. -/
  | dialFailed
  /-- There will be no more connections. -/
  | leaving
  /-- It has said that the client is closed. -/
  | stopped
  /-- It is gone. -/
  | gone
deriving DecidableEq, Repr

namespace Phase

/-- Whether there is a worker at work. -/
def isRunning : Phase → Bool
  | .unstarted => false
  | .gone => false
  | _ => true

end Phase

/-- What brings the worker on. What it does on the connection comes with
the failure that it meets, if any. -/
inductive Occurrence where
  /-- The worker goes on by itself, or the handler returns. -/
  | advance
  | connectionMade
  | connectionFailed (e : SocketError)
  | connectionTimedOut
  | frameArrived (frame : Frame)
  | connectionBroken (e : SocketError)
  /-- The peer is gone without a word. -/
  | peerVanished
  /-- The worker takes the first command. -/
  | commandTaken (failure : Option SocketError)
  | pingDue (failure : Option SocketError)
deriving DecidableEq, Repr

/-- A step of a client. -/
inductive Action where
  | work (occurrence : Occurrence)
  /-- The worker is started. -/
  | start
  /-- The call that has started the worker returns. -/
  | startReturns
  /-- A request is let in or refused. -/
  | ask (request : Request)
  /-- A request that was let in is queued. -/
  | post (call : Call)
  /-- The user lets go of the client. -/
  | drop
deriving DecidableEq, Repr

/-- A client with its worker and what is between them. -/
structure Machine where
  config : SocketConfig
  state : SocketState
  /-- Where the next attempt goes. -/
  url : String
  /-- Whether a reconnect is asked for that no attempt has served. -/
  pending : Bool
  /-- How many attempts have begun. -/
  connections : Nat
  phase : Phase
  /-- Whether the call that has started the worker has returned. -/
  started : Bool
  queue : List Command
  /-- Requests between being let in and being queued. -/
  calls : List Call
  /-- Whether the user has let go of the client. Handles for sending outlive it. -/
  dropped : Bool
deriving DecidableEq, Repr

namespace Machine

/-- A client that has not been started. -/
def create (c : SocketConfig) : Machine where
  config := c
  state := .idle
  url := c.url
  pending := false
  connections := 0
  phase := .unstarted
  started := false
  queue := []
  calls := []
  dropped := false

/-- Whether there is a worker at work. -/
def isRunning (m : Machine) : Bool := m.phase.isRunning

/-! ## The worker -/

/-- The worker sets out for an attempt. It answers every reconnect asked for so far. -/
def setOut (m : Machine) : Machine × List Event :=
  ({ m with state := .connecting, pending := false, phase := .readying }, [.setOut])

/-- The attempt begins. -/
def dial (m : Machine) : Machine × List Event :=
  ({ m with connections := m.connections + 1, phase := .dialing m.url }, [.dialed m.url])

/-- The worker calls the handler and is in the phase of that call. -/
def callback (m : Machine) (phase : Phase) (c : Callback) : Machine × List Event :=
  ({ m with phase := phase }, [.called c])

/-- The connection is over. -/
def finish (m : Machine) (code : Option Nat) (reason : String) : Machine × List Event :=
  m.callback .ending (.closed code reason)

/-- The connection has failed. -/
def fail (m : Machine) (e : SocketError) : Machine × List Event := m.callback .failing (.error e)

/-- The worker goes on by itself, or the handler returns. -/
def advance (m : Machine) : Option (Machine × List Event) :=
  match m.phase with
  | .outset =>
    some (if m.state.isShuttingDown then ({ m with phase := .leaving }, []) else m.setOut)
  | .readying => some m.dial
  | .connected =>
    some (if m.state = .connecting then ({ m with state := .opened, phase := .marked }, [])
      else ({ m with phase := .listening }, []))
  | .marked => some (m.callback .opening .opened)
  | .opening => some ({ m with phase := .listening }, [])
  | .receiving _ => some ({ m with phase := .listening }, [])
  | .failing => some (m.finish none "")
  | .ending => some ({ m with phase := .deciding }, [])
  | .deciding =>
    some (if m.pending && !m.state.isShuttingDown then ({ m with phase := .outset }, [])
      else ({ m with state := .closed, phase := .leaving }, []))
  | .dialFailed => some ({ m with phase := .leaving }, [])
  | .leaving => some ({ m with state := .closed, phase := .stopped }, [])
  | .stopped => some ({ m with phase := .gone }, [.left])
  | _ => none

/-- An attempt comes to an end. -/
def dialOutcome (m : Machine) (outcome : Option SocketError) : Option (Machine × List Event) :=
  match m.phase with
  | .dialing _ =>
    some (match outcome with
      | none => ({ m with phase := .connected }, [])
      | some e => m.callback .dialFailed (.error e))
  | _ => none

/-- A frame arrives. Only data reaches the handler. -/
def receive (m : Machine) : Frame → Machine × List Event
  | .close code reason => m.finish (some code) reason
  | frame => if frame.isData then m.callback (.receiving frame) (.message frame) else (m, [])

/-- A command is carried out. -/
def obey (m : Machine) (failure : Option SocketError) : Command → Machine × List Event
  | .send frame =>
    let handed := Event.handed frame failure
    match failure with
    | none => (m, [handed])
    | some e =>
      let (m, events) := m.fail e
      (m, handed :: events)
  | .reconnect =>
    if !m.pending || m.state.isShuttingDown then (m, [.passedOver])
    else
      let (m, events) := m.finish (some closeNormal) ""
      (m, .hungUp closeNormal "" failure :: events)
  | .close code reason =>
    let (m, events) := m.finish (some code) reason
    (m, .hungUp code reason failure :: events)

/-- Something that the listening worker waits for. -/
def listened (m : Machine) (o : Occurrence) : Option (Machine × List Event) :=
  match o with
  | .frameArrived frame => some (m.receive frame)
  | .connectionBroken e => some (m.fail e)
  | .peerVanished => some (m.finish none "")
  | .commandTaken failure =>
    match m.queue with
    | [] => none
    | c :: rest => some ({ m with queue := rest }.obey failure c)
  | .pingDue failure =>
    if m.config.pingPeriod?.isSome then
      match failure with
      | none => some (m, [.pinged none])
      | some e =>
        let (m, events) := m.fail e
        some (m, .pinged (some e) :: events)
    else none
  | _ => none

/-- A step of the worker, if it is in a phase for it. -/
def work (m : Machine) : Occurrence → Option (Machine × List Event)
  | .advance => m.advance
  | .connectionMade => m.dialOutcome none
  | .connectionFailed e => m.dialOutcome (some e)
  | .connectionTimedOut => m.dialOutcome (some (.connectTimeout m.config.connectTimeout))
  | o => if m.phase = .listening then m.listened o else none

/-! ## The users -/

/-- Start the worker. This works once, even for a client that is closed:
its worker leaves at once. -/
def start (m : Machine) : Except SocketError Machine :=
  if m.phase = .unstarted then .ok { m with phase := .outset } else .error .alreadyStarted

/-- A request is let in and is going to be queued. -/
def letIn (m : Machine) (request : Request) (call : Call) : Machine × List Event :=
  ({ m with calls := m.calls ++ [call] }, [.admitted request])

/-- The part of a request that looks at the state. Frames are refused by a
client that is shutting down; a reconnect is refused unless the client is
open and no other one is pending; there is nothing to close in a closed
client, and one that is idle needs no worker to be closed unless it was
started. -/
def ask (m : Machine) (request : Request) : Machine × List Event :=
  match request with
  | .send frame =>
    if m.state.isShuttingDown then (m, [.refused request]) else m.letIn request (.send frame)
  | .reconnect url =>
    if m.state ≠ .opened ∨ m.pending then (m, [.refused request])
    else
      { m with pending := true, url := url.getD m.url }.letIn request
        (.reconnect (url.map fun _ => m.url))
  | .close code reason =>
    if m.state = .closed then (m, [.refused request])
    else if m.state = .idle ∧ !m.started then
      ({ m with state := .closed }, [.admitted request])
    else { m with state := .closing }.letIn request (.close code reason)

/-- A reconnect for which there is no worker any more is taken back. -/
def takeBack (m : Machine) : Call → Machine
  | .reconnect previous => { m with pending := false, url := previous.getD m.url }
  | _ => m

/-- The queueing of a request that was let in. -/
def post (m : Machine) (call : Call) : Option (Machine × List Event) :=
  if call ∈ m.calls then
    let m := { m with calls := m.calls.erase call }
    some (if m.phase = .gone then (m.takeBack call, [.undelivered call.command])
      else ({ m with queue := m.queue ++ [call.command] }, [.queued call.command]))
  else none

/-- The user lets go of the client. A worker that was never started is
gone with it; one at work is told to close. -/
def letGo (m : Machine) : Machine :=
  let m := { m with dropped := true }
  if m.phase = .unstarted then { m with phase := .gone }
  else if m.isRunning then
    { m with state := .closing, calls := m.calls ++ [.close closeNormal ""] }
  else m

/-! ## Steps -/

/-- Whether no call holds on to the client itself. -/
def isFree (m : Machine) : Bool :=
  !m.dropped && (m.phase = .unstarted || m.started) && m.calls.all Call.isSend

/-- A step, if it is possible. A client can be let go of only when none of
its own calls is under way. -/
def step (m : Machine) : Action → Option (Machine × List Event)
  | .work o => m.work o
  | .start =>
    match m.start with
    | .ok next => some (next, [])
    | .error _ => none
  | .startReturns =>
    if m.phase = .unstarted ∨ m.dropped ∨ m.started then none
    else some ({ m with started := true }, [])
  | .ask request => if m.dropped && !request.isSend then none else some (m.ask request)
  | .post call => m.post call
  | .drop => if m.isFree then some (m.letGo, []) else none

/-- A whole request, with nobody in between: what it has become is queued at once. -/
def request (m : Machine) (r : Request) : Machine × List Event :=
  let (asked, events) := m.ask r
  match asked.calls.drop m.calls.length with
  | [] => (asked, events)
  | call :: _ =>
    match asked.post call with
    | none => (asked, events)
    | some (posted, more) => (posted, events ++ more)

end Machine

/-- The histories of a client: whatever can happen, in any order. -/
inductive Run (c : SocketConfig) : Machine → List Event → Prop where
  | create : Run c (.create c) []
  | step {m next : Machine} {history events : List Event} {a : Action} :
    Run c m history → m.step a = some (next, events) → Run c next (history ++ events)

end StreamFinder.Socket
