import StreamFinder.Proofs.Socket.Hearing
/-!
# What is owed to a waiting worker

Users write the state and the flag in one step and queue the command in
another, and the worker, who waits for frames and commands only, sees
neither the state nor the flag change. So whatever was written must have
a command on its way: `outstanding` are the commands that have yet to
reach the worker, in the queue or in the hands of a call. A worker with a
connection at hand or ahead of it is owed a request to close while its
client shuts down (`Owed.closing`), and with one at hand it is owed a
reconnect while one is pending (`Owed.reconnecting`). Commands are passed
over for two reasons, and neither leaves the worker without the command
that counts: a flag that is down asks for nothing, and a client that shuts
down has its request to close outstanding.
-/

namespace StreamFinder.Socket

namespace Phase

/-- Whether the worker has a connection at hand, or is on its way to one. -/
def isEngaged : Phase → Bool
  | .readying => true
  | .dialing _ => true
  | .connected => true
  | .marked => true
  | .opening => true
  | .listening => true
  | .receiving _ => true
  | _ => false

theorem isEngaged_of_attending {p : Phase} (h : p.stage = .attending) : p.isEngaged = true := by
  cases p <;> first | rfl | cases h

theorem reaching_or_attending {p : Phase} (h : p.isEngaged = true) :
    p.isReaching = true ∨ p.stage = .attending := by
  cases p <;> first | exact .inl rfl | exact .inr rfl | cases h

end Phase

namespace Machine

/-- The commands that have yet to reach the worker: those in the queue, and
those of calls that were let in and are still to be queued. -/
def outstanding (m : Machine) : List Command := m.queue ++ m.calls.map Call.command

variable {m next : Machine} {a : Action} {events : List Event} {command : Command}

/-! ## Commands on their way -/

theorem mem_outstanding :
    command ∈ m.outstanding ↔ command ∈ m.queue ∨ ∃ call ∈ m.calls, call.command = command := by
  unfold outstanding
  rw [List.mem_append, List.mem_map]

/-- Further calls leave what is on its way there. -/
theorem mem_outstanding_of_calls {more : List Call} (hc : command ∈ m.outstanding)
    (hqueue : next.queue = m.queue) (hcalls : next.calls = m.calls ++ more) :
    command ∈ next.outstanding := by
  rw [mem_outstanding] at hc ⊢
  rw [hqueue, hcalls]
  rcases hc with hc | ⟨call, hcall, hcommand⟩
  · exact .inl hc
  · exact .inr ⟨call, List.mem_append_left _ hcall, hcommand⟩

/-- The command of a call that is let in is on its way. -/
theorem mem_outstanding_of_letIn (call : Call) (hcalls : next.calls = m.calls ++ [call]) :
    call.command ∈ next.outstanding := by
  rw [mem_outstanding, hcalls]
  exact .inr ⟨call, List.mem_append_right _ (List.mem_singleton_self call), rfl⟩

/-- A command that is taken may be the one looked for. -/
theorem mem_outstanding_of_taken {first : Command} (hc : command ∈ m.outstanding)
    (hqueue : m.queue = first :: next.queue) (hcalls : next.calls = m.calls) :
    command ∈ next.outstanding ∨ m.queue = command :: next.queue := by
  rw [mem_outstanding] at hc ⊢
  rw [hcalls]
  rcases hc with hc | hc
  · rw [hqueue] at hc
    rcases List.mem_cons.1 hc with rfl | hc
    · exact .inr hqueue
    · exact .inl (.inl hc)
  · exact .inl (.inr hc)

/-- **A command stays on its way until the worker takes it**, as long as there is a worker. -/
theorem mem_outstanding_of_move (h : Move m a next events) (hg : m.phase ≠ .gone)
    (hc : command ∈ m.outstanding) :
    command ∈ next.outstanding ∨ m.queue = command :: next.queue := by
  cases h with
  | hand _ hq | handInVain _ _ hq | passOver _ _ hq | hangUpToReconnect _ _ hq
  | hangUpToClose _ _ hq => exact mem_outstanding_of_taken hc hq rfl
  | admitSend | admitReconnect | admitClose | dropRunning =>
    exact .inl (mem_outstanding_of_calls hc rfl rfl)
  | @queue posted hposted =>
    left
    rw [mem_outstanding] at hc ⊢
    rcases hc with hc | ⟨call, hcall, rfl⟩
    · exact .inl (List.mem_append_left _ hc)
    · by_cases heq : call = posted
      · exact .inl (List.mem_append_right _ (heq ▸ List.mem_singleton_self _))
      · exact .inr ⟨call, (List.mem_erase_of_ne heq).2 hcall, rfl⟩
  | bounce _ hp => exact absurd hp hg
  | _ => exact .inl hc

/-- Nothing is taken by a move that leaves the queue alone or adds to it. -/
theorem queue_ne_cons {added : List Command} (hq : next.queue = m.queue ++ added) :
    m.queue ≠ command :: next.queue := by
  intro h
  have hlength := congrArg List.length h
  rw [hq, List.length_cons, List.length_append] at hlength
  omega

/-- A worker that takes a request to close ends the connection. -/
theorem ending_of_close_taken {code : Nat} {reason : String} (h : Move m a next events)
    (hq : m.queue = .close code reason :: next.queue) : next.phase = .ending := by
  cases h with
  | hand _ hq' | handInVain _ _ hq' | passOver _ _ hq' | hangUpToReconnect _ _ hq' =>
    cases hq.symm.trans hq'
  | hangUpToClose => rfl
  | queue => exact absurd hq (queue_ne_cons rfl)
  | bounce => exact absurd hq (queue_ne_cons (by rw [takeBack_queue, List.append_nil]))
  | _ => exact absurd hq (queue_ne_cons (List.append_nil _).symm)

/-- A worker that takes a reconnect ends the connection, unless the
reconnect is out of date or too late. -/
theorem ending_of_reconnect_taken (h : Move m a next events)
    (hq : m.queue = .reconnect :: next.queue) (hp : m.pending = true)
    (hs : m.state.isShuttingDown = false) : next.phase = .ending := by
  cases h with
  | hand _ hq' | handInVain _ _ hq' | hangUpToClose _ _ hq' => cases hq.symm.trans hq'
  | passOver _ _ _ h =>
    rcases h with h | h
    · rw [hp] at h
      cases h
    · rw [hs] at h
      cases h
  | hangUpToReconnect => rfl
  | queue => exact absurd hq (queue_ne_cons rfl)
  | bounce => exact absurd hq (queue_ne_cons (by rw [takeBack_queue, List.append_nil]))
  | _ => exact absurd hq (queue_ne_cons (List.append_nil _).symm)

/-! ## What is owed -/

/-- What is owed to the worker while it has a connection at hand or ahead. -/
structure Owed (m : Machine) : Prop where
  opened : m.phase.stage = .attending → m.state = .opened ∨ m.state.isShuttingDown = true
  closing : m.phase.isEngaged = true → m.state.isShuttingDown = true →
    ∃ code reason, .close code reason ∈ m.outstanding
  reconnecting : m.phase.stage = .attending → m.pending = true →
    m.state.isShuttingDown = false → .reconnect ∈ m.outstanding

theorem owed_create (c : SocketConfig) : (create c).Owed where
  opened := nofun
  closing := nofun
  reconnecting := nofun

namespace Owed

/-- A request to close stays on its way while the worker has a connection
at hand or ahead. -/
theorem closing_kept (hm : m.Owed) (h : Move m a next events) (hme : m.phase.isEngaged = true)
    (hms : m.state.isShuttingDown = true) (he : next.phase.isEngaged = true) :
    ∃ code reason, .close code reason ∈ next.outstanding := by
  obtain ⟨code, reason, hc⟩ := hm.closing hme hms
  have hg : m.phase ≠ .gone := fun hg => by
    rw [hg] at hme
    cases hme
  rcases mem_outstanding_of_move h hg hc with hc | hq
  · exact ⟨code, reason, hc⟩
  · rw [ending_of_close_taken h hq] at he
    cases he

section

variable (hreaching : m.phase.isReaching = true →
  m.state = .connecting ∨ m.state.isShuttingDown = true)

include hreaching

theorem state_ne_idle (hm : m.Owed) (he : m.phase.isEngaged = true) : m.state ≠ .idle := by
  intro hi
  rcases Phase.reaching_or_attending he with hr | ha
  · rcases hreaching hr with hs | hs <;> rw [hi] at hs <;> cases hs
  · rcases hm.opened ha with hs | hs <;> rw [hi] at hs <;> cases hs

theorem opened_of_move (hm : m.Owed) (h : Move m a next events)
    (ha : next.phase.stage = .attending) :
    next.state = .opened ∨ next.state.isShuttingDown = true := by
  cases h with
  | turn hp ht =>
    have ho := hm.opened
    rw [hp] at ho
    cases ht with
    | greet | greeted | received | data | keepAlive | pinged => exact ho rfl
    | _ => cases ha
  | mark => exact .inl rfl
  | unmarked hp hs => exact .inr ((hreaching (hp ▸ rfl)).resolve_left hs)
  | closeIdle | admitClose | dropRunning => exact .inr rfl
  | bounce =>
    rw [takeBack_phase] at ha
    rw [takeBack_state]
    exact hm.opened ha
  | turnedAway | setOut | dial | again | enough | stop | handInVain | hangUpToReconnect
  | hangUpToClose | start | dropUnstarted => cases ha
  | _ => exact hm.opened ha

theorem closing_of_move (hm : m.Owed) (h : Move m a next events)
    (he : next.phase.isEngaged = true) (hs : next.state.isShuttingDown = true) :
    ∃ code reason, .close code reason ∈ next.outstanding := by
  have keep := fun hme hms => hm.closing_kept h hme hms he
  cases h with
  | turn hp ht =>
    rw [hp] at keep
    cases ht with
    | greet | greeted | received | made | data | keepAlive | pinged => exact keep rfl hs
    | _ => cases he
  | setOut | mark => cases hs
  | dial hp | unmarked hp => exact keep (hp ▸ rfl) hs
  | closeIdle _ _ _ hi => exact absurd hi (hm.state_ne_idle hreaching he)
  | admitClose code reason =>
    exact ⟨code, reason, mem_outstanding_of_letIn (.close code reason) rfl⟩
  | dropRunning =>
    exact ⟨closeNormal, "", mem_outstanding_of_letIn (.close closeNormal "") rfl⟩
  | bounce =>
    rw [takeBack_phase] at he
    rw [takeBack_state] at hs
    exact keep he hs
  | turnedAway | again | enough | stop | handInVain | hangUpToReconnect | hangUpToClose | start
  | dropUnstarted => cases he
  | _ => exact keep he hs

end

/-- A reconnect stays on its way while the connection lasts. -/
theorem reconnecting_kept (hm : m.Owed) (h : Move m a next events)
    (hma : m.phase.stage = .attending) (hmp : m.pending = true)
    (hms : m.state.isShuttingDown = false) (ha : next.phase.stage = .attending) :
    .reconnect ∈ next.outstanding := by
  have hg : m.phase ≠ .gone := fun hg => by
    rw [hg] at hma
    cases hma
  rcases mem_outstanding_of_move h hg (hm.reconnecting hma hmp hms) with hc | hq
  · exact hc
  · rw [ending_of_reconnect_taken h hq hmp hms] at ha
    cases ha

theorem reconnecting_of_move (hm : m.Owed) (hcoherent : m.Coherent) (h : Move m a next events)
    (ha : next.phase.stage = .attending) (hp : next.pending = true)
    (hs : next.state.isShuttingDown = false) : .reconnect ∈ next.outstanding := by
  have keep := fun hma hmp hms => hm.reconnecting_kept h hma hmp hms ha
  cases h with
  | turn hphase ht =>
    rw [hphase] at keep
    cases ht with
    | greet | greeted | received | data | keepAlive | pinged => exact keep rfl hp hs
    | _ => cases ha
  | mark hphase | unmarked hphase =>
    -- No reconnect outlasts the way to a connection.
    have hp : m.pending = true := hp
    rw [hcoherent.unasked (hphase ▸ rfl)] at hp
    cases hp
  | admitReconnect url => exact mem_outstanding_of_letIn (.reconnect (url.map fun _ => m.url)) rfl
  | bounce _ hphase =>
    rw [takeBack_phase] at ha
    have ha : m.phase.stage = .attending := ha
    rw [hphase] at ha
    cases ha
  | closeIdle | admitClose | dropRunning => cases hs
  | turnedAway | setOut | dial | again | enough | stop | handInVain | hangUpToReconnect
  | hangUpToClose | start | dropUnstarted => cases ha
  | _ => exact keep ha hp hs

theorem step (hm : m.Owed) (hcoherent : m.Coherent)
    (hreaching : m.phase.isReaching = true → m.state = .connecting ∨ m.state.isShuttingDown = true)
    (h : Move m a next events) : next.Owed where
  opened := hm.opened_of_move hreaching h
  closing := hm.closing_of_move hreaching h
  reconnecting := hm.reconnecting_of_move hcoherent h

end Owed

end Machine

open Machine

variable {c : SocketConfig} {m : Machine} {history : List Event}

theorem Run.reaching (h : Run c m history) (hr : m.phase.isReaching = true) :
    m.state = .connecting ∨ m.state.isShuttingDown = true := by
  obtain ⟨moments, hcourse⟩ := h.exists_course
  exact hcourse.heard.aware.reaching hr

theorem Run.owed (h : Run c m history) : m.Owed := by
  induction h with
  | create => exact owed_create c
  | step hrun hstep ih => exact ih.step hrun.coherent hrun.reaching (move_of_step hstep)

/-- **Nobody waits for a command that was lost.** A worker that waits with
nothing in the queue, while no call is about to queue a reconnect or a
request to close, serves an open client that asks for nothing. -/
theorem waiting_worker_owes_nothing (h : Run c m history) (hl : m.phase = .listening)
    (hq : m.queue = []) (hc : ∀ call ∈ m.calls, call.isSend = true) :
    m.state = .opened ∧ m.pending = false := by
  have hm := h.owed
  have ha : m.phase.stage = .attending := by rw [hl]; rfl
  -- Only frames can be on their way.
  have honly : ∀ command ∈ m.outstanding, ∃ frame, command = .send frame := by
    intro command hcommand
    rcases mem_outstanding.1 hcommand with hmem | ⟨call, hcall, rfl⟩
    · rw [hq] at hmem
      cases hmem
    · have hsend := hc call hcall
      cases call with
      | send frame => exact ⟨frame, rfl⟩
      | reconnect | close => cases hsend
  have hs : m.state.isShuttingDown = false := by
    refine Bool.eq_false_iff.2 fun hs => ?_
    obtain ⟨code, reason, hclose⟩ := hm.closing (Phase.isEngaged_of_attending ha) hs
    obtain ⟨frame, hframe⟩ := honly _ hclose
    cases hframe
  refine ⟨(hm.opened ha).resolve_right (Bool.eq_false_iff.1 hs), Bool.eq_false_iff.2 fun hp => ?_⟩
  obtain ⟨frame, hframe⟩ := honly _ (hm.reconnecting ha hp hs)
  cases hframe

/-- A worker that has passed over a reconnect from an earlier connection
waits, and a frame is about to be queued. -/
theorem outrun_worker_owes_nothing : ∃ m history,
    Run (.ofUrl "ws://a") m history ∧ m.phase = .listening ∧ m.queue = [] ∧
      m.calls = [.send (.text "hello")] ∧ m.connections = 2 ∧ m.state = .opened ∧
      m.pending = false := by
  have hlater : ∃ m history,
      (create (.ofUrl "ws://a")).steps (outrun ++ [.ask (.send (.text "hello"))]) =
        some (m, history) ∧
      m.phase = .listening ∧ m.queue = [] ∧ m.calls = [.send (.text "hello")] ∧
      m.connections = 2 := ⟨_, _, rfl, rfl, rfl, rfl, rfl⟩
  obtain ⟨m, history, hsteps, hphase, hqueue, hcalls, hconnections⟩ := hlater
  have hrun : Run (.ofUrl "ws://a") m history := Run.create.steps hsteps
  have hsends : ∀ call ∈ m.calls, call.isSend = true := by rw [hcalls]; decide
  obtain ⟨hstate, hpending⟩ := waiting_worker_owes_nothing hrun hphase hqueue hsends
  exact ⟨m, history, hrun, hphase, hqueue, hcalls, hconnections, hstate, hpending⟩

end StreamFinder.Socket
