import StreamFinder.Json.Writer
import StreamFinder.Socket.Machine

/-!
# Rehearsals

A rehearsal plays one history of a client, with a peer and a handler that
follow a script. Of all the orders that steps can come in it takes one:
after each cue the worker goes on until it can do nothing more by itself,
because it is not there, waits for its connection, is held while it
connects or is kept in a call of the handler. Where a frame and a command
both wait for the worker, the frame comes first.

Time passes only while somebody waits. It is counted in milliseconds.
-/

namespace StreamFinder.Socket

/-- What the handler and the connections do in a rehearsal. -/
structure Script where
  /-- What the handler sends when a connection opens. -/
  greeting : List Frame
  /-- What the handler sends when it gets a text. -/
  replies : List (String × String)
  /-- Whether the handler does nothing that can be seen, and cannot be kept from returning. -/
  silent : Bool
  /-- Whether no ping can be sent. -/
  failPings : Bool

/-- What somebody does in a rehearsal. -/
inductive Cue where
  | start
  | request (r : Request)
  /-- Send a value as JSON, if it has a JSON form. -/
  | sendJson (value : Option Json.Value)
  /-- Close, and wait for the worker to end; without a limit as long as the configuration says. -/
  | close (code : Nat) (reason : String) (limit : Option Nat)
  /-- Wait for the worker to end. -/
  | wait (limit : Option Nat)
  | peerSends (frame : Frame)
  | peerFails (reason : String)
  | peerVanishes
  /-- The next attempt to connect waits. -/
  | hold
  /-- The waiting attempt goes on. -/
  | release
  /-- The next attempt to connect fails. -/
  | failConnect (reason : String)
  | failSends (on : Bool)
  | failCloses (on : Bool)
  /-- The next call of the handler of this kind does not return. -/
  | gate (kind : CallbackKind)
  /-- The call that did not return does. -/
  | openGate
  /-- Wait until so many pings were sent. -/
  | awaitPings (count : Nat)
  /-- Count the pings after some time. -/
  | countPings (after : Nat)
  | awaitExit
  /-- Several things, with no step of the worker between them unless one of them waits. -/
  | together (cues : List Cue)

/-- What a cue comes to. -/
inductive Outcome where
  | done
  | said (b : Bool)
  | counted (n : Nat)
  | failed (e : SocketError)
  | noConnection
  | each (outcomes : List Outcome)

/-- A rehearsal in progress. -/
structure Rehearsal where
  machine : Machine
  script : Script
  /-- What waits for the worker on its connection. -/
  inbox : List Occurrence
  /-- Whether there is a connection on which the peer can do something. -/
  alive : Bool
  /-- Whether the next attempt is going to wait. -/
  hold : Bool
  /-- Whether an attempt waits. -/
  held : Bool
  /-- The attempts that fail, by their number. -/
  failures : List (Nat × String)
  failSends : Bool
  failCloses : Bool
  /-- The calls of the handler that are not going to return. -/
  gates : List CallbackKind
  /-- Whether the handler does not return. -/
  blocked : Bool
  /-- How many pings the worker tried to send. -/
  pings : Nat
  /-- How long the attempt has been waiting. -/
  sinceDial : Nat
  /-- How long ago a ping was due. -/
  sincePing : Nat
  /-- What was seen, the latest first. -/
  seen : List Event

namespace Rehearsal

/-- How long a wait without a limit lasts. -/
def patience : Nat := 5000

/-- A rehearsal that is about to begin. -/
def create (c : SocketConfig) (script : Script) : Rehearsal where
  machine := .create c
  script := script
  inbox := []
  alive := false
  hold := false
  held := false
  failures := []
  failSends := false
  failCloses := false
  gates := []
  blocked := false
  pings := 0
  sinceDial := 0
  sincePing := 0
  seen := []

/-- Whether the worker is gone or was never there. -/
def isOver (r : Rehearsal) : Bool := !r.machine.isRunning

/-! ## What is seen -/

/-- Whether a frame passes for a ping of the worker. -/
def isPing (r : Rehearsal) (frame : Frame) : Bool :=
  r.machine.config.pingInterval.isSome && frame = .ping []

/-- Whether a frame could not be sent. -/
def sendFailure? (r : Rehearsal) (frame : Frame) : Option SocketError :=
  if r.isPing frame then if r.script.failPings then some (.io "ping failed") else none
  else if r.failSends then some (.io "send failed")
  else none

/-- Whether the end of a connection could not be announced. -/
def closeFailure? (r : Rehearsal) : Option SocketError :=
  if r.failCloses then some (.io "close failed") else none

/-- Something is seen. -/
def note (r : Rehearsal) (e : Event) : Rehearsal := { r with seen := e :: r.seen }

/-- A ping is not seen but counted, also one that could not be sent. -/
def countPing (r : Rehearsal) : Rehearsal := { r with pings := r.pings + 1 }

/-! ## The handler -/

/-- The handler sends a frame; only a refusal is seen. -/
def handlerSends (r : Rehearsal) (frame : Frame) : Rehearsal :=
  let (machine, events) := r.machine.request (.send frame)
  let r := { r with machine := machine }
  if events.any Event.isRefusal then r.note (.refused (.send frame)) else r

/-- The handler is called. It sends its greeting before a gate can keep it. -/
def call (r : Rehearsal) (c : Callback) : Rehearsal :=
  if r.script.silent then r
  else
    let r := r.note (.called c)
    let r := if c = .opened then r.script.greeting.foldl handlerSends r else r
    if c.kind ∈ r.gates then { r with gates := r.gates.erase c.kind, blocked := true } else r

/-- The handler replies to a frame. -/
def reply (r : Rehearsal) (frame : Frame) : Rehearsal :=
  match frame with
  | .text s =>
    if r.script.silent then r
    else
      match r.script.replies.lookup s with
      | some answer => r.handlerSends (.text answer)
      | none => r
  | _ => r

/-! ## The worker -/

/-- Something happens to the client. -/
def witness (r : Rehearsal) (e : Event) : Rehearsal :=
  match e with
  | .called c => r.call c
  | .pinged _ => r.countPing
  | .handed frame _ => if r.isPing frame then r.countPing else r.note e
  | .dialed _ => { r.note e with held := r.hold, hold := false, sinceDial := 0 }
  | .hungUp _ _ _ => r.note e
  | _ => r

/-- The worker takes a step. -/
def occur (r : Rehearsal) (o : Occurrence) : Rehearsal :=
  match r.machine.step (.work o) with
  | none => r
  | some (machine, events) => events.foldl witness { r with machine := machine }

/-- The failure that a command meets. -/
def commandFailure? (r : Rehearsal) : Command → Option SocketError
  | .send frame => r.sendFailure? frame
  | _ => r.closeFailure?

/-- The attempt to connect ends. -/
def settleDial (r : Rehearsal) : Rehearsal :=
  match r.failures.lookup r.machine.connections with
  | some reason => r.occur (.connectionFailed (.io reason))
  | none => { r with inbox := [], alive := true, sincePing := 0 }.occur .connectionMade

/-- How long until a ping is due. -/
def untilPing? (r : Rehearsal) : Option Nat :=
  r.machine.config.pingPeriod?.map fun d => d.toMillis - r.sincePing

/-- How long until an attempt has waited too long. -/
def untilTimeout (r : Rehearsal) : Nat := r.machine.config.connectTimeout.toMillis - r.sinceDial

/-- The listening worker goes on if something waits for it. -/
def listen (r : Rehearsal) : Option Rehearsal :=
  match r.inbox, r.machine.queue with
  | o :: rest, _ => some ({ r with inbox := rest }.occur o)
  | [], c :: _ => some (r.occur (.commandTaken (r.commandFailure? c)))
  | [], [] =>
    if r.untilPing? = some 0 then
      let late := r.sincePing - (r.machine.config.pingPeriod?.elim 0 Duration.toMillis)
      some ({ r with sincePing := late }.occur (.pingDue (r.sendFailure? (.ping []))))
    else none

/-- One step of the worker, if it can go on by itself. -/
def goOn (r : Rehearsal) : Option Rehearsal :=
  if r.blocked then none
  else
    match r.machine.phase with
    | .unstarted => none
    | .gone => none
    | .dialing _ =>
      if !r.held then some r.settleDial
      else if r.untilTimeout = 0 then some ({ r with held := false }.occur .connectionTimedOut)
      else none
    | .listening => r.listen
    | .receiving frame => some ((r.reply frame).occur .advance)
    | .deciding => some ({ r with alive := false }.occur .advance)
    | _ => some (r.occur .advance)

/-- As many steps of the worker as there are. -/
def goOnFor : Nat → Rehearsal → Rehearsal
  | 0, r => r
  | n + 1, r =>
    match r.goOn with
    | none => r
    | some next => goOnFor n next

/-- More steps than the worker can take by itself. What waits takes two
each, a ping that is overdue takes one, and at most two connections can
come and go, since only a user can ask for another reconnect. -/
def steps (r : Rehearsal) : Nat :=
  64 + 4 * (r.inbox.length + r.machine.queue.length + 2 * r.script.greeting.length) + r.sincePing

/-- The worker goes on until it can do nothing more by itself. -/
def settle (r : Rehearsal) : Rehearsal := goOnFor r.steps r

/-! ## Time -/

/-- How long until time alone brings the worker on. -/
def alarm? (r : Rehearsal) : Option Nat :=
  if r.held then some r.untilTimeout
  else if r.machine.phase = .listening then r.untilPing?
  else none

/-- A millisecond passes. -/
def tick (r : Rehearsal) : Rehearsal :=
  settle { r with sinceDial := r.sinceDial + 1, sincePing := r.sincePing + 1 }

/-- Time passes until something is so, or no longer than some time. A
worker that time alone cannot bring on is not waited for. -/
def passUntil (until? : Rehearsal → Bool) : Nat → Rehearsal → Rehearsal
  | 0, r => r
  | n + 1, r =>
    if until? r || r.alarm?.isNone then r else passUntil until? n r.tick

/-- Wait until something is so. Without any time to wait, nothing happens meanwhile. -/
def await (r : Rehearsal) (until? : Rehearsal → Bool) (limit : Nat) : Bool × Rehearsal :=
  let r := if limit = 0 then r else passUntil until? limit r.settle
  (until? r, r)

/-- Wait for the worker to end. -/
def awaitEnd (r : Rehearsal) (limit : Nat) : Outcome × Rehearsal :=
  let (ended, r) := r.await isOver limit
  (.said ended, r)

/-! ## Cues -/

/-- The peer does something, if there is a connection for it. A connection
is there until the worker has left it, whatever waits on it. -/
def arrive (r : Rehearsal) (o : Occurrence) : Outcome × Rehearsal :=
  if r.alive then (.done, { r with inbox := r.inbox ++ [o] }) else (.noConnection, r)

/-- A user makes a request. -/
def ask (r : Rehearsal) (request : Request) : Except SocketError Bool × Rehearsal :=
  let (machine, events) := r.machine.request request
  (request.answer events, { r with machine := machine })

/-- A user makes a request that is answered at once. -/
def answered (r : Rehearsal) (request : Request) : Outcome × Rehearsal :=
  let (answer, r) := r.ask request
  match answer with
  | .error e => (.failed e, r)
  | .ok granted => (if request.isSend then .done else .said granted, r)

mutual

/-- A cue is followed. -/
def follow (r : Rehearsal) : Cue → Outcome × Rehearsal
  | .start =>
    match r.machine.start with
    | .ok machine =>
      (.done, { r with machine := ((machine.step .startReturns).map (·.1)).getD machine })
    | .error e => (.failed e, r)
  | .request request => r.answered request
  | .sendJson none => (.failed .json, r)
  | .sendJson (some value) => r.answered (.send (.text value.sorted.render))
  | .close code reason limit =>
    let (_, r) := r.ask (.close code reason)
    if r.isOver then (.said true, r)
    else r.awaitEnd (limit.getD r.machine.config.closeTimeout.toMillis)
  | .wait limit => if r.isOver then (.said true, r) else r.awaitEnd (limit.getD patience)
  | .peerSends frame => r.arrive (.frameArrived frame)
  | .peerFails reason => r.arrive (.connectionBroken (.io reason))
  | .peerVanishes => r.arrive .peerVanished
  | .hold => (.done, { r with hold := true })
  | .release => (.said r.held, { r with held := false })
  | .failConnect reason =>
    (.done, { r with failures := (r.machine.connections + 1, reason) :: r.failures })
  | .failSends on => (.done, { r with failSends := on })
  | .failCloses on => (.done, { r with failCloses := on })
  | .gate kind => (.done, { r with gates := r.gates ++ [kind] })
  | .openGate => (.done, { r with blocked := false })
  | .awaitPings count =>
    let (enough, r) := r.await (fun r => count ≤ r.pings) patience
    (.said enough, r)
  | .countPings after =>
    let (_, r) := r.await (fun _ => false) after
    (.counted r.pings, r)
  | .awaitExit => if r.isOver then (.said true, r) else r.awaitEnd patience
  | .together cues =>
    let (outcomes, r) := r.followAll cues
    (.each outcomes, r)

/-- Cues are followed in their order. -/
def followAll (r : Rehearsal) : List Cue → List Outcome × Rehearsal
  | [] => ([], r)
  | cue :: cues =>
    let (outcome, r) := r.follow cue
    let (outcomes, r) := r.followAll cues
    (outcome :: outcomes, r)

end

/-- What was seen, with nothing left of it in the rehearsal. -/
def takeSeen (r : Rehearsal) : List Event × Rehearsal := (r.seen.reverse, { r with seen := [] })

/-- A cue is followed, and then the worker goes on. -/
def play (r : Rehearsal) (cue : Cue) : Outcome × List Event × Rehearsal :=
  let (outcome, r) := r.follow cue
  let (events, r) := r.settle.takeSeen
  (outcome, events, r)

/-- The user lets go of the client, and nothing is held back any longer.
When the worker has come to rest, a handle for sending is used. -/
def finish (r : Rehearsal) (late : Frame) : Outcome × List Event :=
  let machine := match r.machine.step .drop with
    | none => r.machine
    | some (dropped, _) =>
      match dropped.calls with
      | [] => dropped
      | call :: _ => ((dropped.post call).map (·.1)).getD dropped
  let rest := settle
    { r with machine := machine, hold := false, held := false, gates := [], blocked := false }
  let (outcome, rest) := rest.answered (.send late)
  (outcome, rest.takeSeen.1)

end Rehearsal

end StreamFinder.Socket
