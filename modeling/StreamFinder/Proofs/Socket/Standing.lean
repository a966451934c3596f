import StreamFinder.Proofs.Socket.Move
/-!
# What the worker's place says about the client

The state that users see, the flag of a pending reconnect and the place of
the worker are written at different moments, by different parties, and yet
they never contradict each other. A client is open only while its worker
is on a connection, or goes back for another one because a reconnect is
pending (`Coherent.opened`); no reconnect is pending while the worker is
still to come or on its way to a connection (`Coherent.unasked`), nor ever
while the client says that it connects (`Coherent.connecting`).
-/

namespace StreamFinder.Socket

namespace Phase

/-- Whether the worker is still to come, or on its way to a connection. -/
def awaitsConnection : Phase → Bool
  | .unstarted => true
  | .readying => true
  | .dialing _ => true
  | .connected => true
  | .dialFailed => true
  | _ => false

/-- Whether the worker has a connection that users may know of, or had it
a moment ago. -/
def isConnected : Phase → Bool
  | .marked => true
  | .opening => true
  | .listening => true
  | .receiving _ => true
  | .failing => true
  | .ending => true
  | .deciding => true
  | _ => false

/-- Whether there will be no more connections. -/
def isOver : Phase → Bool
  | .leaving => true
  | .stopped => true
  | .gone => true
  | _ => false

theorem not_awaitsConnection {p : Phase} (h : p.isConnected = true) :
    p.awaitsConnection = false := by
  cases p <;> first | rfl | cases h

theorem not_isOver {p : Phase} (h : p.isConnected = true) : p.isOver = false := by
  cases p <;> first | rfl | cases h

end Phase

namespace Machine

/-- The state, the flag and the place of the worker go together. -/
structure Coherent (m : Machine) : Prop where
  opened : m.state = .opened →
    m.phase.isConnected = true ∨ m.phase = .outset ∧ m.pending = true
  unasked : m.phase.awaitsConnection = true → m.pending = false
  connecting : m.state = .connecting → m.pending = false

theorem coherent_create (c : SocketConfig) : (create c).Coherent where
  opened := nofun
  unasked _ := rfl
  connecting := nofun

variable {m next : Machine} {a : Action} {events : List Event}

/-- A reconnect is let in only where the worker has a connection. -/
theorem Coherent.isConnected_of_admitted (hm : m.Coherent) (ho : m.state = .opened)
    (hp : m.pending = false) : m.phase.isConnected = true := by
  rcases hm.opened ho with h | ⟨-, h⟩
  · exact h
  · rw [hp] at h
    cases h

/-- A client is open only while there is a worker to serve it. -/
theorem Coherent.state_ne_opened (hm : m.Coherent) (hc : m.phase.isConnected = false)
    (ho : m.phase ≠ .outset) : m.state ≠ .opened := by
  intro h
  rcases hm.opened h with h | ⟨h, -⟩
  · rw [hc] at h
    cases h
  · exact ho h

theorem Coherent.opened_of_move (hm : m.Coherent) (h : Move m a next events)
    (ho : next.state = .opened) :
    next.phase.isConnected = true ∨ next.phase = .outset ∧ next.pending = true := by
  cases h with
  | turn hp ht =>
    have hc := hm.opened ho
    rw [hp] at hc
    cases ht with
    | made | notMade | timedOut | givenUp | gone => rcases hc with hc | ⟨hc, -⟩ <;> cases hc
    | _ => exact .inl rfl
  | setOut | enough | stop | closeIdle | admitClose | dropRunning => cases ho
  | turnedAway _ hs =>
    rw [ho] at hs
    cases hs
  | mark | handInVain | hangUpToReconnect | hangUpToClose => exact .inl rfl
  | again _ hpending _ => exact .inr ⟨rfl, hpending⟩
  | admitReconnect _ _ ho hpending => exact .inl (hm.isConnected_of_admitted ho hpending)
  | bounce _ hp =>
    rw [takeBack_state] at ho
    exact absurd ho (hm.state_ne_opened (hp ▸ rfl) (hp ▸ nofun))
  | dial hp | unmarked hp _ | start hp | dropUnstarted _ hp | dropGone _ hp =>
    exact absurd ho (hm.state_ne_opened (hp ▸ rfl) (hp ▸ nofun))
  | _ => exact hm.opened ho

theorem Coherent.unasked_of_move (hm : m.Coherent) (h : Move m a next events)
    (hw : next.phase.awaitsConnection = true) : next.pending = false := by
  cases h with
  | turn hp ht =>
    have hu := hm.unasked
    rw [hp] at hu
    cases ht with
    | made | notMade | timedOut => exact hu rfl
    | _ => cases hw
  | setOut => rfl
  | dial hp => exact hm.unasked (hp ▸ rfl)
  | admitReconnect _ _ ho hpending =>
    have hc := hm.isConnected_of_admitted ho hpending
    have hw : m.phase.awaitsConnection = true := hw
    rw [Phase.not_awaitsConnection hc] at hw
    cases hw
  | bounce _ hp =>
    rw [takeBack_phase] at hw
    have hw : m.phase.awaitsConnection = true := hw
    rw [hp] at hw
    cases hw
  | turnedAway | mark | unmarked | again | enough | stop | handInVain | hangUpToReconnect
  | hangUpToClose | start | dropUnstarted => cases hw
  | _ => exact hm.unasked hw

theorem Coherent.connecting_of_move (hm : m.Coherent) (h : Move m a next events)
    (hs : next.state = .connecting) : next.pending = false := by
  cases h with
  | setOut => rfl
  | mark | enough | stop | closeIdle | admitClose | dropRunning => cases hs
  | admitReconnect _ _ ho _ =>
    have hs : m.state = .connecting := hs
    rw [ho] at hs
    cases hs
  | bounce =>
    rw [takeBack_state] at hs
    exact takeBack_pending _ _ (hm.connecting hs)
  | _ => exact hm.connecting hs

theorem Coherent.step (hm : m.Coherent) (h : Move m a next events) : next.Coherent where
  opened := hm.opened_of_move h
  unasked := hm.unasked_of_move h
  connecting := hm.connecting_of_move h

end Machine

/-- **The worker's place never contradicts the client.** -/
theorem Run.coherent {c : SocketConfig} {m : Machine} {history : List Event}
    (h : Run c m history) : m.Coherent := by
  induction h with
  | create => exact Machine.coherent_create c
  | step _ hstep ih => exact ih.step (Machine.move_of_step hstep)

end StreamFinder.Socket
