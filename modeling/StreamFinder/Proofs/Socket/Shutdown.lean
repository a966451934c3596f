import StreamFinder.Proofs.Socket.Attempt
/-!
# Closing wins

The state of a client is written in many places: when the worker sets out
and when it has a connection, when a connection is over and when the
worker is, when a user closes the client and when the user lets go of it.
None of them brings a client back that is shutting down
(`shuttingDown_of_steps`), whether a reconnect is pending, an attempt is
under way or a command waits in the queue. What may still be seen is what
the worker had announced before: an attempt that it has set out for, and
the call of the handler for a connection that it has marked as open.
-/

namespace StreamFinder.Socket

namespace Phase

/-- How many connections the worker has marked as open and not told the handler of. -/
def openingsLeft : Phase → Nat
  | .marked => 1
  | _ => 0

end Phase

/-- How often the handler was told that a connection is open. -/
def openings (history : List Event) : Nat := history.count (.called .opened)

theorem openings_append (history more : List Event) :
    openings (history ++ more) = openings history + openings more :=
  List.count_append

namespace Machine

variable {m next later : Machine} {a : Action} {actions : List Action} {events : List Event}

/-! ## One step -/

theorem shuttingDown_step (hs : m.state.isShuttingDown = true) (h : Move m a next events) :
    next.state.isShuttingDown = true := by
  cases h with
  | setOut _ hs' => rw [hs] at hs'; cases hs'
  | mark _ hc => rw [hc] at hs; cases hs
  | enough | stop | closeIdle | admitClose | dropRunning => rfl
  | bounce => rwa [takeBack_state]
  | _ => exact hs

theorem attempts_of_shuttingDown (hs : m.state.isShuttingDown = true)
    (h : Move m a next events) : attempts events = 0 := by
  cases effect_of_move h with
  | setOut _ hs' => rw [hs] at hs'; cases hs'
  | dial | letIn => rfl
  | other ha => exact ha

theorem openings_of_shuttingDown (hs : m.state.isShuttingDown = true)
    (h : Move m a next events) :
    openings events + next.phase.openingsLeft = m.phase.openingsLeft := by
  cases h with
  | turn hp ht => rw [hp]; cases ht <;> rfl
  | mark _ hc => rw [hc] at hs; cases hs
  | turnedAway hp | setOut hp | dial hp | unmarked hp | again hp | enough hp | stop hp
  | handInVain _ hp | hangUpToReconnect _ hp | hangUpToClose _ hp | start hp
  | dropUnstarted _ hp => rw [hp]; rfl
  | bounce => rw [takeBack_phase]; exact Nat.zero_add _
  | _ => exact Nat.zero_add _

/-! ## Any number of steps -/

/-- What a client that is shutting down was to do and has not done, it may still do, once. -/
theorem quiet_of_steps (hs : m.state.isShuttingDown = true)
    (h : m.steps actions = some (later, events)) :
    later.state.isShuttingDown = true ∧ attempts events = 0 ∧
      (dials events).length + later.phase.dialsLeft = m.phase.dialsLeft ∧
      openings events + later.phase.openingsLeft = m.phase.openingsLeft := by
  induction actions generalizing m events with
  | nil =>
    cases h
    exact ⟨hs, rfl, Nat.zero_add _, Nat.zero_add _⟩
  | cons a rest ih =>
    obtain ⟨next, seen, more, hstep, hrest, rfl⟩ := steps_cons h
    have hmove := move_of_step hstep
    obtain ⟨hlater, hattempts, hdials, hopenings⟩ := ih (shuttingDown_step hs hmove) hrest
    have hnone := attempts_of_shuttingDown hs hmove
    have hd := dialsLeft_of_move hmove
    have ho := openings_of_shuttingDown hs hmove
    rw [attempts_append, dials_append, openings_append, List.length_append]
    exact ⟨hlater, by omega, by omega, by omega⟩

/-! ## Requests to a client that is shutting down -/

theorem ask_send_of_shuttingDown (hs : m.state.isShuttingDown = true) (frame : Frame) :
    m.ask (.send frame) = (m, [.refused (.send frame)]) := by
  simp only [ask]
  rw [if_pos hs]

theorem ask_reconnect_of_shuttingDown (hs : m.state.isShuttingDown = true)
    (url : Option String) : m.ask (.reconnect url) = (m, [.refused (.reconnect url)]) := by
  have hopened : m.state ≠ .opened := fun ho => by rw [ho] at hs; cases hs
  simp only [ask]
  rw [if_pos (.inl hopened)]

end Machine

open Machine

variable {m later : Machine} {actions : List Action} {events : List Event}

/-- **Closing wins.** A client that is shutting down does so for good,
whatever anybody does. Its worker does not set out again; it begins an
attempt only if it had set out for it, and announces a connection only if
it had marked it as open. Frames are refused with an error and reconnects
without, and neither leaves a trace. -/
theorem close_wins (hs : m.state.isShuttingDown = true)
    (h : m.steps actions = some (later, events)) :
    later.state.isShuttingDown = true ∧
    attempts events = 0 ∧
    (dials events).length ≤ m.phase.dialsLeft ∧
    openings events ≤ m.phase.openingsLeft ∧
    (∀ frame, ∃ seen, later.ask (.send frame) = (later, seen) ∧
      (Request.send frame).answer seen = .error .notRunning) ∧
    ∀ url, ∃ seen, later.ask (.reconnect url) = (later, seen) ∧
      (Request.reconnect url).answer seen = .ok false := by
  obtain ⟨hlater, hattempts, hdials, hopenings⟩ := quiet_of_steps hs h
  refine ⟨hlater, hattempts, by omega, by omega, fun frame => ?_, fun url => ?_⟩
  · exact ⟨_, ask_send_of_shuttingDown hlater frame, rfl⟩
  · exact ⟨_, ask_reconnect_of_shuttingDown hlater url, rfl⟩

/-- A client that is closed when its worker has set out and has not begun the attempt. -/
def closedEarly : Machine :=
  { create (.ofUrl "ws://a") with
    state := .closing
    phase := .readying
    calls := [.close closeNormal ""] }

/-- The attempt begins all the same, and nobody is told of the connection
that comes of it. -/
theorem closedEarly_dials_in_silence :
    (∃ history, Run (.ofUrl "ws://a") closedEarly history) ∧
    ∃ later events, closedEarly.steps
        [.work .advance, .post (.close closeNormal ""), .work .connectionMade, .work .advance,
          .work (.commandTaken none)] = some (later, events) ∧
      dials events = ["ws://a"] ∧ later.state.isShuttingDown = true ∧
      openings events ≤ closedEarly.phase.openingsLeft := by
  have hclosed : (create (.ofUrl "ws://a")).steps
      [.start, .work .advance, .ask (.close closeNormal "")] =
      some (closedEarly, [.setOut, .admitted (.close closeNormal "")]) := rfl
  have hlater : ∃ later events, closedEarly.steps
      [.work .advance, .post (.close closeNormal ""), .work .connectionMade, .work .advance,
        .work (.commandTaken none)] = some (later, events) ∧
      dials events = ["ws://a"] := ⟨_, _, rfl, rfl⟩
  obtain ⟨later, events, hsteps, hdials⟩ := hlater
  obtain ⟨hshut, -, -, hopenings, -⟩ := close_wins rfl hsteps
  exact ⟨⟨_, Run.create.steps hclosed⟩, later, events, hsteps, hdials, hshut, hopenings⟩

end StreamFinder.Socket
