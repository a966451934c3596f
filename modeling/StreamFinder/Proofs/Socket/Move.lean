import StreamFinder.Socket.Machine
/-!
# What a step of a client can do

`Machine.step` computes a step by way of the phase of the worker, the
command that it takes and the request that is made. This file says the
same as a list of moves, each with its guard, the machine that comes of it
and what is seen (`step_eq_some_iff`). Every law about the histories of a
client is read off the list. Most moves of the worker change nothing but
where it stands; these are its turns, and they are listed by themselves.
-/

namespace StreamFinder.Socket

/-! ## Turns of the worker -/

/-- A turn: the worker goes from one phase to the next, and perhaps calls
the handler, but leaves the client as it is. -/
inductive Turn (c : SocketConfig) : Phase → Occurrence → Phase → List Event → Prop where
  | greet : Turn c .marked .advance .opening [.called .opened]
  | greeted : Turn c .opening .advance .listening []
  | received (frame : Frame) : Turn c (.receiving frame) .advance .listening []
  | failed : Turn c .failing .advance .ending [.called (.closed none "")]
  | ended : Turn c .ending .advance .deciding []
  | givenUp : Turn c .dialFailed .advance .leaving []
  | gone : Turn c .stopped .advance .gone [.left]
  | made (url : String) : Turn c (.dialing url) .connectionMade .connected []
  | notMade (url : String) (e : SocketError) :
    Turn c (.dialing url) (.connectionFailed e) .dialFailed [.called (.error e)]
  | timedOut (url : String) :
    Turn c (.dialing url) .connectionTimedOut .dialFailed
      [.called (.error (.connectTimeout c.connectTimeout))]
  | closedByPeer (code : Nat) (reason : String) :
    Turn c .listening (.frameArrived (.close code reason)) .ending
      [.called (.closed (some code) reason)]
  | data {frame : Frame} : frame.isData = true →
    Turn c .listening (.frameArrived frame) (.receiving frame) [.called (.message frame)]
  | keepAlive {frame : Frame} : frame.isData = false → (∀ code reason, frame ≠ .close code reason) →
    Turn c .listening (.frameArrived frame) .listening []
  | broken (e : SocketError) :
    Turn c .listening (.connectionBroken e) .failing [.called (.error e)]
  | vanished : Turn c .listening .peerVanished .ending [.called (.closed none "")]
  | pinged : c.pingPeriod?.isSome = true →
    Turn c .listening (.pingDue none) .listening [.pinged none]
  | pingFailed (e : SocketError) : c.pingPeriod?.isSome = true →
    Turn c .listening (.pingDue (some e)) .failing [.pinged (some e), .called (.error e)]

theorem Phase.isRunning_iff {p : Phase} : p.isRunning = true ↔ p ≠ .unstarted ∧ p ≠ .gone := by
  cases p <;> simp [isRunning]

namespace Machine

/-! ## What a reconnect that is taken back leaves alone -/

section

variable (m : Machine) (call : Call)

@[simp]
theorem takeBack_state : (m.takeBack call).state = m.state := by cases call <;> rfl

@[simp]
theorem takeBack_phase : (m.takeBack call).phase = m.phase := by cases call <;> rfl

@[simp]
theorem takeBack_dropped : (m.takeBack call).dropped = m.dropped := by cases call <;> rfl

@[simp]
theorem takeBack_config : (m.takeBack call).config = m.config := by cases call <;> rfl

@[simp]
theorem takeBack_queue : (m.takeBack call).queue = m.queue := by cases call <;> rfl

theorem takeBack_pending (h : m.pending = false) : (m.takeBack call).pending = false := by
  cases call with
  | reconnect previous => rfl
  | _ => exact h

theorem pending_of_takeBack (h : (m.takeBack call).pending = true) : m.pending = true := by
  cases call with
  | reconnect previous => cases h
  | _ => exact h

end

/-! ## Moves of a client -/

/-- A move of a client, with what is seen of it. -/
inductive Move (m : Machine) : Action → Machine → List Event → Prop where
  | turn {p q : Phase} {o : Occurrence} {events : List Event} : m.phase = p →
    Turn m.config p o q events → Move m (.work o) { m with phase := q } events
  /-- The worker finds that the client is shutting down, and does not connect. -/
  | turnedAway : m.phase = .outset → m.state.isShuttingDown = true →
    Move m (.work .advance) { m with phase := .leaving } []
  | setOut : m.phase = .outset → m.state.isShuttingDown = false →
    Move m (.work .advance)
      { m with state := .connecting, pending := false, phase := .readying } [.setOut]
  | dial : m.phase = .readying →
    Move m (.work .advance)
      { m with connections := m.connections + 1, phase := .dialing m.url } [.dialed m.url]
  | mark : m.phase = .connected → m.state = .connecting →
    Move m (.work .advance) { m with state := .opened, phase := .marked } []
  /-- The connection has come too late. It is not announced. -/
  | unmarked : m.phase = .connected → m.state ≠ .connecting →
    Move m (.work .advance) { m with phase := .listening } []
  | again : m.phase = .deciding → m.pending = true → m.state.isShuttingDown = false →
    Move m (.work .advance) { m with phase := .outset } []
  | enough : m.phase = .deciding → m.pending = false ∨ m.state.isShuttingDown = true →
    Move m (.work .advance) { m with state := .closed, phase := .leaving } []
  | stop : m.phase = .leaving →
    Move m (.work .advance) { m with state := .closed, phase := .stopped } []
  | hand {frame : Frame} {rest : List Command} : m.phase = .listening →
    m.queue = .send frame :: rest →
    Move m (.work (.commandTaken none)) { m with queue := rest } [.handed frame none]
  | handInVain {frame : Frame} {rest : List Command} (e : SocketError) : m.phase = .listening →
    m.queue = .send frame :: rest →
    Move m (.work (.commandTaken (some e))) { m with queue := rest, phase := .failing }
      [.handed frame (some e), .called (.error e)]
  /-- A reconnect is out of date, or too late. -/
  | passOver {rest : List Command} (failure : Option SocketError) : m.phase = .listening →
    m.queue = .reconnect :: rest → m.pending = false ∨ m.state.isShuttingDown = true →
    Move m (.work (.commandTaken failure)) { m with queue := rest } [.passedOver]
  | hangUpToReconnect {rest : List Command} (failure : Option SocketError) :
    m.phase = .listening → m.queue = .reconnect :: rest → m.pending = true →
    m.state.isShuttingDown = false →
    Move m (.work (.commandTaken failure)) { m with queue := rest, phase := .ending }
      [.hungUp closeNormal "" failure, .called (.closed (some closeNormal) "")]
  | hangUpToClose {code : Nat} {reason : String} {rest : List Command}
    (failure : Option SocketError) : m.phase = .listening →
    m.queue = .close code reason :: rest →
    Move m (.work (.commandTaken failure)) { m with queue := rest, phase := .ending }
      [.hungUp code reason failure, .called (.closed (some code) reason)]
  | start : m.phase = .unstarted → Move m .start { m with phase := .outset } []
  | startReturns : m.phase ≠ .unstarted → m.dropped = false → m.started = false →
    Move m .startReturns { m with started := true } []
  | refuseSend (frame : Frame) : m.state.isShuttingDown = true →
    Move m (.ask (.send frame)) m [.refused (.send frame)]
  | admitSend (frame : Frame) : m.state.isShuttingDown = false →
    Move m (.ask (.send frame)) { m with calls := m.calls ++ [.send frame] }
      [.admitted (.send frame)]
  | refuseReconnect (url : Option String) : m.dropped = false →
    m.state ≠ .opened ∨ m.pending = true →
    Move m (.ask (.reconnect url)) m [.refused (.reconnect url)]
  | admitReconnect (url : Option String) : m.dropped = false → m.state = .opened →
    m.pending = false →
    Move m (.ask (.reconnect url))
      { m with
        pending := true
        url := url.getD m.url
        calls := m.calls ++ [.reconnect (url.map fun _ => m.url)] }
      [.admitted (.reconnect url)]
  /-- There is nothing to close in a closed client. -/
  | refuseClose (code : Nat) (reason : String) : m.dropped = false → m.state = .closed →
    Move m (.ask (.close code reason)) m [.refused (.close code reason)]
  /-- A client is closed that no call to start it has returned for. -/
  | closeIdle (code : Nat) (reason : String) : m.dropped = false → m.state = .idle →
    m.started = false →
    Move m (.ask (.close code reason)) { m with state := .closed }
      [.admitted (.close code reason)]
  | admitClose (code : Nat) (reason : String) : m.dropped = false → m.state ≠ .closed →
    ¬(m.state = .idle ∧ m.started = false) →
    Move m (.ask (.close code reason))
      { m with state := .closing, calls := m.calls ++ [.close code reason] }
      [.admitted (.close code reason)]
  | queue {call : Call} : call ∈ m.calls → m.phase ≠ .gone →
    Move m (.post call)
      { m with calls := m.calls.erase call, queue := m.queue ++ [call.command] }
      [.queued call.command]
  /-- There is nobody left to take the command. -/
  | bounce {call : Call} : call ∈ m.calls → m.phase = .gone →
    Move m (.post call) ({ m with calls := m.calls.erase call }.takeBack call)
      [.undelivered call.command]
  | dropUnstarted : m.isFree = true → m.phase = .unstarted →
    Move m .drop { m with dropped := true, phase := .gone } []
  | dropRunning : m.isFree = true → m.phase.isRunning = true →
    Move m .drop
      { m with
        dropped := true
        state := .closing
        calls := m.calls ++ [.close closeNormal ""] } []
  | dropGone : m.isFree = true → m.phase = .gone → Move m .drop { m with dropped := true } []

/-! ## Steps are moves -/

variable {m next : Machine} {a : Action} {events : List Event}

theorem move_of_advance (h : m.advance = some (next, events)) :
    Move m (.work .advance) next events := by
  unfold advance at h
  cases hp : m.phase with
  | outset =>
    rw [hp] at h
    by_cases hs : m.state.isShuttingDown = true
    · rw [if_pos hs] at h
      cases h
      exact .turnedAway hp hs
    · rw [if_neg hs] at h
      cases h
      exact .setOut hp (Bool.eq_false_iff.2 hs)
  | readying =>
    rw [hp] at h
    cases h
    exact .dial hp
  | connected =>
    rw [hp] at h
    by_cases hs : m.state = .connecting
    · rw [if_pos hs] at h
      cases h
      exact .mark hp hs
    · rw [if_neg hs] at h
      cases h
      exact .unmarked hp hs
  | marked => rw [hp] at h; cases h; exact .turn hp .greet
  | opening => rw [hp] at h; cases h; exact .turn hp .greeted
  | receiving frame => rw [hp] at h; cases h; exact .turn hp (.received frame)
  | failing => rw [hp] at h; cases h; exact .turn hp .failed
  | ending => rw [hp] at h; cases h; exact .turn hp .ended
  | deciding =>
    rw [hp] at h
    by_cases hs : (m.pending && !m.state.isShuttingDown) = true
    · rw [if_pos hs] at h
      cases h
      rw [Bool.and_eq_true, Bool.not_eq_true'] at hs
      exact .again hp hs.1 hs.2
    · rw [if_neg hs] at h
      cases h
      rw [Bool.not_eq_true, Bool.and_eq_false_iff, Bool.not_eq_false'] at hs
      exact .enough hp hs
  | dialFailed => rw [hp] at h; cases h; exact .turn hp .givenUp
  | leaving => rw [hp] at h; cases h; exact .stop hp
  | stopped => rw [hp] at h; cases h; exact .turn hp .gone
  | unstarted | dialing url | listening | gone => rw [hp] at h; cases h

theorem move_of_dialOutcome {o : Occurrence} {outcome : Option SocketError}
    (ho : ∀ url, Turn m.config (.dialing url) o (outcome.elim .connected fun _ => .dialFailed)
      (outcome.elim [] fun e => [.called (.error e)]))
    (h : m.dialOutcome outcome = some (next, events)) : Move m (.work o) next events := by
  unfold dialOutcome at h
  cases hp : m.phase with
  | dialing url =>
    rw [hp] at h
    cases outcome with
    | none => cases h; exact .turn hp (ho url)
    | some e => cases h; exact .turn hp (ho url)
  | _ => rw [hp] at h; cases h

theorem withPhase_self {p : Phase} (hp : m.phase = p) : { m with phase := p } = m := by
  rw [← hp]

/-- A turn that leaves the worker where it stands leaves the client altogether. -/
theorem move_of_turn_self {p : Phase} {o : Occurrence} (hp : m.phase = p)
    (h : Turn m.config p o p events) : Move m (.work o) m events := by
  have hm : Move m (.work o) { m with phase := p } events := .turn hp h
  rwa [withPhase_self hp] at hm

theorem move_of_commandTaken {failure : Option SocketError} (hp : m.phase = .listening)
    (h : m.listened (.commandTaken failure) = some (next, events)) :
    Move m (.work (.commandTaken failure)) next events := by
  unfold listened at h
  cases hq : m.queue with
  | nil => rw [hq] at h; cases h
  | cons command rest =>
    rw [hq] at h
    cases command with
    | send frame =>
      cases failure with
      | none => cases h; exact .hand hp hq
      | some e => cases h; exact .handInVain e hp hq
    | reconnect =>
      have h := Option.some.inj h
      unfold obey at h
      by_cases hs : (!m.pending || m.state.isShuttingDown) = true
      · rw [if_pos hs] at h
        cases h
        rw [Bool.or_eq_true, Bool.not_eq_true'] at hs
        exact .passOver failure hp hq hs
      · rw [if_neg hs] at h
        cases h
        rw [Bool.not_eq_true, Bool.or_eq_false_iff, Bool.not_eq_false'] at hs
        exact .hangUpToReconnect failure hp hq hs.1 hs.2
    | close code reason => cases h; exact .hangUpToClose failure hp hq

theorem move_of_listened {o : Occurrence} (hp : m.phase = .listening)
    (h : m.listened o = some (next, events)) : Move m (.work o) next events := by
  cases o with
  | frameArrived frame =>
    cases frame with
    | close code reason => cases h; exact .turn hp (.closedByPeer code reason)
    | text s => cases h; exact .turn hp (.data rfl)
    | binary bytes => cases h; exact .turn hp (.data rfl)
    | ping bytes => cases h; exact move_of_turn_self hp (.keepAlive rfl nofun)
    | pong bytes => cases h; exact move_of_turn_self hp (.keepAlive rfl nofun)
  | connectionBroken e => cases h; exact .turn hp (.broken e)
  | peerVanished => cases h; exact .turn hp .vanished
  | commandTaken failure => exact move_of_commandTaken hp h
  | pingDue failure =>
    simp only [listened] at h
    by_cases hping : m.config.pingPeriod?.isSome = true
    · rw [if_pos hping] at h
      cases failure with
      | none => cases h; exact move_of_turn_self hp (.pinged hping)
      | some e => cases h; exact .turn hp (.pingFailed e hping)
    · rw [if_neg hping] at h
      cases h
  | advance | connectionMade | connectionFailed e | connectionTimedOut => cases h

theorem move_of_work {o : Occurrence} (h : m.work o = some (next, events)) :
    Move m (.work o) next events := by
  have listens : (if m.phase = .listening then m.listened o else none) = some (next, events) →
      Move m (.work o) next events := by
    intro h
    by_cases hp : m.phase = .listening
    · rw [if_pos hp] at h
      exact move_of_listened hp h
    · rw [if_neg hp] at h
      cases h
  cases o with
  | advance => exact move_of_advance h
  | connectionMade =>
    have h : m.dialOutcome none = some (next, events) := h
    exact move_of_dialOutcome (fun url => .made url) h
  | connectionFailed e =>
    have h : m.dialOutcome (some e) = some (next, events) := h
    exact move_of_dialOutcome (fun url => .notMade url e) h
  | connectionTimedOut =>
    have h : m.dialOutcome (some (.connectTimeout m.config.connectTimeout)) =
      some (next, events) := h
    exact move_of_dialOutcome (fun url => .timedOut url) h
  | _ => exact listens h

theorem move_of_ask {request : Request} (hd : m.dropped = true → request.isSend = true)
    (h : m.ask request = (next, events)) : Move m (.ask request) next events := by
  cases request with
  | send frame =>
    simp only [ask] at h
    by_cases hs : m.state.isShuttingDown = true
    · rw [if_pos hs] at h
      cases h
      exact .refuseSend frame hs
    · rw [if_neg hs] at h
      cases h
      exact .admitSend frame (Bool.eq_false_iff.2 hs)
  | reconnect url =>
    have hd : m.dropped = false := Bool.eq_false_iff.2 fun hd' => by cases hd hd'
    simp only [ask] at h
    by_cases hs : m.state ≠ .opened ∨ m.pending = true
    · rw [if_pos hs] at h
      cases h
      exact .refuseReconnect url hd hs
    · rw [if_neg hs] at h
      cases h
      rw [not_or, Decidable.not_not, Bool.not_eq_true] at hs
      exact .admitReconnect url hd hs.1 hs.2
  | close code reason =>
    have hd : m.dropped = false := Bool.eq_false_iff.2 fun hd' => by cases hd hd'
    simp only [ask] at h
    by_cases hs : m.state = .closed
    · rw [if_pos hs] at h
      cases h
      exact .refuseClose code reason hd hs
    · rw [if_neg hs] at h
      by_cases hi : m.state = .idle ∧ (!m.started) = true
      · rw [if_pos hi] at h
        cases h
        exact .closeIdle code reason hd hi.1 (by simpa using hi.2)
      · rw [if_neg hi] at h
        cases h
        exact .admitClose code reason hd hs (by simpa using hi)

theorem move_of_post {call : Call} (h : m.post call = some (next, events)) :
    Move m (.post call) next events := by
  unfold post at h
  by_cases hc : call ∈ m.calls
  · rw [if_pos hc] at h
    by_cases hp : m.phase = .gone
    · have h := Option.some.inj h
      rw [if_pos hp] at h
      cases h
      exact .bounce hc hp
    · have h := Option.some.inj h
      rw [if_neg hp] at h
      cases h
      exact .queue hc hp
  · rw [if_neg hc] at h
    cases h

theorem letGo_eq (m : Machine) : m.letGo =
    if m.phase = .unstarted then { m with dropped := true, phase := .gone }
    else if m.phase.isRunning = true then
      { m with dropped := true, state := .closing, calls := m.calls ++ [.close closeNormal ""] }
    else { m with dropped := true } := rfl

theorem move_of_drop (h : m.step .drop = some (next, events)) : Move m .drop next events := by
  simp only [step, letGo_eq] at h
  by_cases hf : m.isFree = true
  · rw [if_pos hf] at h
    by_cases hp : m.phase = .unstarted
    · rw [if_pos hp] at h
      cases h
      exact .dropUnstarted hf hp
    · rw [if_neg hp] at h
      by_cases hr : m.phase.isRunning = true
      · rw [if_pos hr] at h
        cases h
        exact .dropRunning hf hr
      · rw [if_neg hr] at h
        cases h
        have hgone : m.phase = .gone := Decidable.byContradiction fun hg =>
          hr (Phase.isRunning_iff.2 ⟨hp, hg⟩)
        exact .dropGone hf hgone
  · rw [if_neg hf] at h
    cases h

/-- **Every step is a move.** -/
theorem move_of_step (h : m.step a = some (next, events)) : Move m a next events := by
  cases a with
  | work o => exact move_of_work h
  | start =>
    simp only [step, Machine.start] at h
    by_cases hp : m.phase = .unstarted
    · rw [if_pos hp] at h
      cases h
      exact .start hp
    · rw [if_neg hp] at h
      cases h
  | startReturns =>
    simp only [step] at h
    by_cases hs : m.phase = .unstarted ∨ m.dropped = true ∨ m.started = true
    · rw [if_pos hs] at h
      cases h
    · rw [if_neg hs] at h
      cases h
      simp only [not_or, Bool.not_eq_true] at hs
      exact .startReturns hs.1 hs.2.1 hs.2.2
  | ask request =>
    simp only [step] at h
    by_cases hd : (m.dropped && !request.isSend) = true
    · rw [if_pos hd] at h
      cases h
    · rw [if_neg hd] at h
      refine move_of_ask (fun hd' => ?_) (Option.some.inj h)
      simpa [hd'] using hd
  | post call => exact move_of_post h
  | drop => exact move_of_drop h

/-! ## Moves are steps -/

theorem work_of_turn {p q : Phase} {o : Occurrence} (hp : m.phase = p)
    (h : Turn m.config p o q events) : m.work o = some ({ m with phase := q }, events) := by
  cases h with
  | @data frame hd =>
    cases frame with
    | close => cases hd
    | _ => simp_all [work, listened, receive, callback]
  | @keepAlive frame hd hc =>
    rw [withPhase_self hp]
    cases frame with
    | close code reason => exact absurd rfl (hc code reason)
    | _ => simp_all [work, listened, receive]
  | pinged hping =>
    rw [withPhase_self hp]
    simp [work, listened, hp, hping]
  | pingFailed e hping => simp [work, listened, fail, callback, hp, hping]
  | closedByPeer | broken | vanished => simp [work, listened, receive, finish, fail, callback, hp]
  | made | notMade | timedOut => simp [work, dialOutcome, callback, hp]
  | _ => simp [work, advance, finish, callback, hp]

theorem step_of_move (h : Move m a next events) : m.step a = some (next, events) := by
  cases h with
  | turn hp ht => exact work_of_turn hp ht
  | setOut hp hs => simp [step, work, advance, Machine.setOut, hp, hs]
  | dial hp => simp [step, work, advance, Machine.dial, hp]
  | turnedAway | mark | unmarked | again | stop => simp_all [step, work, advance]
  | enough hp h => rcases h with h | h <;> simp [step, work, advance, hp, h]
  | passOver failure hp hq h => rcases h with h | h <;> simp [step, work, listened, obey, hp, hq, h]
  | hand | handInVain | hangUpToReconnect | hangUpToClose =>
    simp_all [step, work, listened, obey, fail, finish, callback]
  | start hp => simp [step, Machine.start, hp]
  | startReturns hp hd hs => simp [step, hp, hd, hs]
  | refuseReconnect url hd h => rcases h with h | h <;> simp [step, ask, hd, h]
  | closeIdle code reason hd hi hs => simp [step, ask, hd, hi, hs]
  | admitClose code reason hd hc hi => simp_all [step, ask, letIn]
  | refuseSend | admitSend | admitReconnect | refuseClose =>
    simp_all [step, ask, letIn, Request.isSend]
  | queue hc hp => simp [step, Machine.post, hc, hp]
  | bounce hc hp => simp [step, Machine.post, hc, hp]
  | dropUnstarted hf hp => simp [step, letGo_eq, hf, hp]
  | dropRunning hf hr =>
    simp [step, letGo_eq, hf, hr, (Phase.isRunning_iff.1 hr).1]
  | dropGone hf hp => simp [step, letGo_eq, hf, hp, Phase.isRunning]

theorem step_eq_some_iff : m.step a = some (next, events) ↔ Move m a next events :=
  ⟨move_of_step, step_of_move⟩

end Machine

end StreamFinder.Socket
