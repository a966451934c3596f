import StreamFinder.Socket.Error
import StreamFinder.Socket.Frame

/-!
# What happens to a socket client

Users make requests, a request that is let in becomes a command in the
queue, and the worker, who alone touches the connection, takes the
commands one by one and calls the handler. An event is one thing that can
be seen of this; a list of events is the history of a client.
-/

namespace StreamFinder.Socket

/-- What a user asks of a client. -/
inductive Request where
  | send (frame : Frame)
  /-- Connect anew, to another URL if one is given. -/
  | reconnect (url : Option String)
  | close (code : Nat) (reason : String)
deriving DecidableEq, Repr

/-- What the worker is told. A reconnect does not say where to: the URL of
the client does. -/
inductive Command where
  | send (frame : Frame)
  | reconnect
  | close (code : Nat) (reason : String)
deriving DecidableEq, Repr

/-- A request that was let in and has yet to be queued. A reconnect that
has put a new URL in place remembers the one before. -/
inductive Call where
  | send (frame : Frame)
  | reconnect (previous : Option String)
  | close (code : Nat) (reason : String)
deriving DecidableEq, Repr

/-- Whether a handle for sending is enough to make the request. -/
def Request.isSend : Request → Bool
  | .send _ => true
  | _ => false

/-- Whether the call was made by a handle for sending. -/
def Call.isSend : Call → Bool
  | .send _ => true
  | _ => false

/-- The command that a call queues. -/
def Call.command : Call → Command
  | .send frame => .send frame
  | .reconnect _ => .reconnect
  | .close code reason => .close code reason

/-- A call of the handler. -/
inductive Callback where
  | opened
  | message (frame : Frame)
  | error (e : SocketError)
  | closed (code : Option Nat) (reason : String)
deriving DecidableEq, Repr

/-- The kinds of calls of the handler. -/
inductive CallbackKind where
  | opened
  | message
  | error
  | closed
deriving DecidableEq, Repr

/-- The kind of a call of the handler. -/
def Callback.kind : Callback → CallbackKind
  | .opened => .opened
  | .message _ => .message
  | .error _ => .error
  | .closed _ _ => .closed

/-- Something that happens to a client. What is done on the connection
comes with the failure that it met, if it met one. -/
inductive Event where
  /-- A request is let in. -/
  | admitted (request : Request)
  /-- A request is refused. -/
  | refused (request : Request)
  | queued (command : Command)
  /-- A command finds nobody who could take it. -/
  | undelivered (command : Command)
  /-- The worker sets out for an attempt to connect. -/
  | setOut
  /-- The worker begins the attempt. -/
  | dialed (url : String)
  | handed (frame : Frame) (failure : Option SocketError)
  | pinged (failure : Option SocketError)
  /-- The worker announces that it ends the connection. -/
  | hungUp (code : Nat) (reason : String) (failure : Option SocketError)
  | called (callback : Callback)
  /-- The worker takes a reconnect that is out of date or too late. -/
  | passedOver
  /-- The worker is gone, and with it whoever could take a command. -/
  | left
deriving DecidableEq, Repr

namespace Event

/-- Whether a request comes to nothing. -/
def isRefusal : Event → Bool
  | .refused _ => true
  | .undelivered _ => true
  | _ => false

end Event

/-- What the user is told of a request, from what was seen of it. A frame
that nobody takes is an error; of other requests the user learns whether
they came to something. -/
def Request.answer (request : Request) (events : List Event) : Except SocketError Bool :=
  let granted := !events.any Event.isRefusal
  if request.isSend && !granted then .error .notRunning else .ok granted

end StreamFinder.Socket
