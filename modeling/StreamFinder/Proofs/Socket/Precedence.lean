import StreamFinder.Proofs.Socket.Delivery
import StreamFinder.Proofs.Socket.Waiting
/-!
# Frames and the reconnect after them

Frames and reconnects go through one queue, and the flag does not. So the
worker cannot tell which request a reconnect in the queue belongs to: one
that an earlier connection has left behind counts as soon as a later
request puts the flag up again. A worker that has kept its connection while
a request was pending has taken no reconnect (`taken_while_pending`), hence
it hangs up at the first one in the queue, whosever it is. What was queued
before the request is then handed over, except for what waits behind a
reconnect that was there already (`framesBehindReconnect`).
-/

namespace StreamFinder.Socket

/-- The frames that wait behind a reconnect. -/
def framesBehindReconnect (commands : List Command) : List Frame :=
  frames (commands.dropWhile (· ≠ .reconnect))

/-- Up to the first reconnect everything is taken: all that has waited, or
what stands before the reconnect if it has waited itself. -/
theorem frames_of_waiting {waiting more taken rest : List Command}
    (h : waiting ++ more = taken ++ .reconnect :: rest) (ht : .reconnect ∉ taken) :
    (.reconnect ∉ waiting → frames waiting <+: frames taken) ∧
    (.reconnect ∈ waiting → frames waiting = frames taken ++ framesBehindReconnect waiting) := by
  rcases List.append_eq_append_iff.1 h with ⟨added, rfl, -⟩ | ⟨behind, rfl, hbehind⟩
  · rw [frames_append]
    exact ⟨fun _ => List.prefix_append _ _, fun hw => absurd (List.mem_append_left _ hw) ht⟩
  · cases behind with
    | nil =>
      rw [List.append_nil]
      exact ⟨fun _ => List.prefix_rfl, fun hw => absurd hw ht⟩
    | cons command behind =>
      obtain ⟨rfl, -⟩ := List.cons.inj hbehind
      have hall : ∀ command ∈ taken, decide (command ≠ .reconnect) = true := fun command hc =>
        decide_eq_true fun heq => ht (heq ▸ hc)
      refine ⟨fun hw => absurd (List.mem_append_right _ List.mem_cons_self) hw, fun _ => ?_⟩
      rw [framesBehindReconnect, List.dropWhile_append_of_pos hall,
        List.dropWhile_cons_of_neg (by decide), frames_append]

namespace Machine

variable {m next later : Machine} {a : Action} {actions : List Action} {events : List Event}

/-! ## While a request is pending -/

/-- The worker comes to a connection by way of an attempt only. -/
theorem isEngaged_of_move (h : Move m a next events) (ha : attempts events = 0)
    (he : next.phase.isEngaged = true) : m.phase.isEngaged = true := by
  cases h with
  | turn hp ht =>
    rw [hp]
    cases ht with
    | greet | greeted | received | made | data | keepAlive | pinged => rfl
    | _ => cases he
  | setOut => cases ha
  | dial hp | mark hp | unmarked hp => exact hp ▸ rfl
  | bounce => rwa [takeBack_phase] at he
  | turnedAway | again | enough | stop | handInVain | hangUpToReconnect | hangUpToClose | start
  | dropUnstarted => cases he
  | _ => exact he

/-- A worker that keeps its connection while a request is pending takes no reconnect. -/
theorem taken_while_pending (h : m.steps actions = some (later, events))
    (hr : reconnects events = []) (hp : later.pending = true)
    (hs : later.state.isShuttingDown = false) (he : later.phase.isEngaged = true) :
    (m.pending = true ∧ m.state.isShuttingDown = false ∧ m.phase.isEngaged = true) ∧
    ∃ taken, m.queue ++ queuedCommands events = taken ++ later.queue ∧
      handedFrames events = frames taken ∧ .reconnect ∉ taken := by
  -- What holds of the machine in the end is carried back to the first step.
  induction actions generalizing m events with
  | nil =>
    cases h
    exact ⟨⟨hp, hs, he⟩, [], List.append_nil _, rfl, List.not_mem_nil⟩
  | cons a rest ih =>
    obtain ⟨next, seen, more, hstep, hrest, rfl⟩ := steps_cons h
    have hmove := move_of_step hstep
    rw [reconnects_append, List.append_eq_nil_iff] at hr
    obtain ⟨⟨hnp, hns, hne⟩, taken, hqueue, hhanded, hnot⟩ := ih hrest hr.2
    obtain ⟨hmp, hattempts⟩ := pending_of_move hmove hr.1 hnp
    have hms : m.state.isShuttingDown = false := Bool.eq_false_iff.2 fun hms => by
      rw [shuttingDown_step hms hmove] at hns
      cases hns
    obtain ⟨first, hfirst, hseen, hhead⟩ := queue_of_move hmove
    refine ⟨⟨hmp, hms, isEngaged_of_move hmove hattempts hne⟩, first ++ taken, ?_, ?_, ?_⟩
    · rw [queuedCommands_append, ← List.append_assoc]
      exact append_taken hfirst hqueue
    · rw [handedFrames_append, frames_append, hseen, hhanded]
    · intro hmem
      rcases List.mem_append.1 hmem with hmem | hmem
      · rw [ending_of_reconnect_taken hmove (hhead _ hmem) hmp hms] at hne
        cases hne
      · exact hnot hmem

/-- A worker that ends its connection for a reconnect has found the flag up. -/
theorem asked_of_hangUp {rest : List Command} {failure : Option SocketError}
    (h : Move m (.work (.commandTaken failure)) next events) (hq : m.queue = .reconnect :: rest)
    (hn : next.phase = .ending) :
    m.phase = .listening ∧ m.pending = true ∧ m.state.isShuttingDown = false := by
  cases h with
  | turn _ ht => cases ht
  | hand _ hq' | handInVain _ _ hq' | hangUpToClose _ _ hq' => cases hq.symm.trans hq'
  | passOver _ hp => cases hp.symm.trans hn
  | hangUpToReconnect _ hp _ hpending hs => exact ⟨hp, hpending, hs⟩

end Machine

open Machine

variable {c : SocketConfig} {m₀ m₁ m next : Machine} {before between events : List Event}
variable {actions : List Action} {url : Option String} {rest : List Command}
variable {failure : Option SocketError}

/-- **Frames go before the reconnect that was asked for after them, unless
an earlier reconnect is in their way.** When the worker ends a connection
for the request that is pending, it has handed over every frame that was
queued before the request was let in, if no reconnect was waiting then. If
one was, it counts as the new one, and the frames behind it are just those
that are still to be handed over. -/
theorem frames_precede_reconnect (h : Run c m₀ before)
    (hask : m₀.step (.ask (.reconnect url)) = some (m₁, [.admitted (.reconnect url)]))
    (hsteps : m₁.steps actions = some (m, between)) (hlast : reconnects between = [])
    (hq : m.queue = .reconnect :: rest)
    (htaken : m.step (.work (.commandTaken failure)) = some (next, events))
    (hn : next.phase = .ending) :
    (.reconnect ∉ m₀.queue → frames (queuedCommands before) <+:
      handedFrames (before ++ .admitted (.reconnect url) :: between)) ∧
    (.reconnect ∈ m₀.queue → frames (queuedCommands before) =
      handedFrames (before ++ .admitted (.reconnect url) :: between) ++
        framesBehindReconnect m₀.queue) := by
  obtain ⟨earlier, hqueued, hhanded⟩ := h.taken
  obtain ⟨hl, hp, hs⟩ := asked_of_hangUp (move_of_step htaken) hq hn
  obtain ⟨-, taken, hqueue, hmore, hnot⟩ := taken_while_pending hsteps hlast hp hs (hl ▸ rfl)
  -- The request itself takes nothing and queues nothing.
  have hkept : m₁.queue = m₀.queue := by
    cases move_of_step hask
    rfl
  rw [hkept, hq] at hqueue
  have hall : handedFrames (before ++ .admitted (.reconnect url) :: between) =
      frames earlier ++ frames taken := by
    rw [handedFrames_append, hhanded, ← hmore]
    rfl
  obtain ⟨hfree, hbehind⟩ := frames_of_waiting hqueue hnot
  rw [hall, hqueued, frames_append]
  refine ⟨fun hw => List.prefix_append_right_inj _ |>.2 (hfree hw), fun hw => ?_⟩
  rw [hbehind hw, List.append_assoc]

/-- A frame is sent and handed over. A reconnect is queued, but the peer
vanishes before the worker takes the command, and a second frame is queued
behind it while the handler learns of the next connection. -/
def outpaced : List Action :=
  welcomed ++ [.ask (.send (.text "hello")), .post (.send (.text "hello")),
    .work (.commandTaken none), .ask (.reconnect none), .post (.reconnect none),
    .work .peerVanished, .work .advance, .work .advance, .work .advance, .work .advance,
    .work .connectionMade, .work .advance, .work .advance, .ask (.send (.text "early")),
    .post (.send (.text "early"))]

/-- The client is asked to reconnect elsewhere, and the worker takes the
reconnect that was left behind. The second frame is still to come. -/
theorem outpaced_frame_is_behind : ∃ m₀ m₁ m next before between events rest,
    Run (.ofUrl "ws://a") m₀ before ∧
      m₀.step (.ask (.reconnect (some "ws://b"))) =
        some (m₁, [.admitted (.reconnect (some "ws://b"))]) ∧
      m₁.steps [.post (.reconnect (some "ws://a")), .work .advance] = some (m, between) ∧
      reconnects between = [] ∧ m.queue = .reconnect :: rest ∧
      m.step (.work (.commandTaken none)) = some (next, events) ∧ next.phase = .ending ∧
      frames (queuedCommands before) = [.text "hello", .text "early"] ∧
      framesBehindReconnect m₀.queue = [.text "early"] ∧
      frames (queuedCommands before) =
        handedFrames (before ++ .admitted (.reconnect (some "ws://b")) :: between) ++
          framesBehindReconnect m₀.queue := by
  have hlater : ∃ m₀ m₁ m next before between events rest,
      (create (.ofUrl "ws://a")).steps outpaced = some (m₀, before) ∧
      m₀.step (.ask (.reconnect (some "ws://b"))) =
        some (m₁, [.admitted (.reconnect (some "ws://b"))]) ∧
      m₁.steps [.post (.reconnect (some "ws://a")), .work .advance] = some (m, between) ∧
      reconnects between = [] ∧ m.queue = .reconnect :: rest ∧
      m.step (.work (.commandTaken none)) = some (next, events) ∧ next.phase = .ending ∧
      frames (queuedCommands before) = [.text "hello", .text "early"] ∧
      framesBehindReconnect m₀.queue = [.text "early"] ∧ .reconnect ∈ m₀.queue :=
    ⟨_, _, _, _, _, _, _, _, rfl, rfl, rfl, rfl, rfl, rfl, rfl, rfl, rfl, List.mem_cons_self⟩
  obtain ⟨m₀, m₁, m, next, before, between, events, rest, hbefore, hask, hsteps, hlast, hq,
    htaken, hn, hframes, hwaiting, hmem⟩ := hlater
  have hrun : Run (.ofUrl "ws://a") m₀ before := Run.create.steps hbefore
  obtain ⟨-, hbehind⟩ := frames_precede_reconnect hrun hask hsteps hlast hq htaken hn
  exact ⟨m₀, m₁, m, next, before, between, events, rest, hrun, hask, hsteps, hlast, hq, htaken,
    hn, hframes, hwaiting, hbehind hmem⟩

/-- A frame travels on the connection that a later reconnect has opened,
although the worker has ended a sound connection for that reconnect. -/
theorem stale_reconnect_outpaces_frame : ∃ m₀ m₁ m next later before between events more rest,
    Run (.ofUrl "ws://a") m₀ before ∧ .text "early" ∈ frames (queuedCommands before) ∧
      m₀.step (.ask (.reconnect (some "ws://b"))) =
        some (m₁, [.admitted (.reconnect (some "ws://b"))]) ∧
      m₁.steps [.post (.reconnect (some "ws://a")), .work .advance] = some (m, between) ∧
      reconnects between = [] ∧ m.queue = .reconnect :: rest ∧
      m.step (.work (.commandTaken none)) = some (next, events) ∧ next.phase = .ending ∧
      .text "early" ∉ handedFrames (before ++ .admitted (.reconnect (some "ws://b")) :: between) ∧
      next.steps [.work .advance, .work .advance, .work .advance, .work .advance,
        .work .connectionMade, .work .advance, .work .advance, .work .advance,
        .work (.commandTaken none)] = some (later, more) ∧
      dials more = ["ws://b"] ∧ more.getLast? = some (.handed (.text "early") none) :=
  ⟨_, _, _, _, _, _, _, _, _, _,
    Run.create.steps (show (create (.ofUrl "ws://a")).steps outpaced = some _ from rfl),
    by decide, rfl, rfl, rfl, rfl, rfl, rfl, by decide, rfl, rfl, rfl⟩

end StreamFinder.Socket
