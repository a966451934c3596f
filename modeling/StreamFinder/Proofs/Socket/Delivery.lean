import StreamFinder.Proofs.Socket.Move
import StreamFinder.Socket.History
/-!
# What becomes of frames

Frames are queued by anybody at any time, with other commands between
them, and handed over by the worker to whatever connection it has when it
takes them. The queue outlives the connections. A command leaves it only
at its head, and only when the worker takes it; a frame that is taken is
handed over there and then, and no other frame is (`queue_of_move`). So
what was handed over is what was queued, as far as it was taken.
-/

namespace StreamFinder.Socket

/-- What is taken from a queue at two times is taken together from what has come in. -/
theorem append_taken {came more taken rest waiting later : List Command}
    (h : came = taken ++ waiting) (hlater : waiting ++ more = rest ++ later) :
    came ++ more = (taken ++ rest) ++ later := by
  rw [h, List.append_assoc, hlater, List.append_assoc]

namespace Machine

variable {m next : Machine} {a : Action} {events : List Event}

/-- A move that takes nothing and queues nothing. -/
theorem queue_of_idle (hq : queuedCommands events = []) (hh : handedFrames events = [])
    (hm : next.queue = m.queue) : ∃ taken,
      m.queue ++ queuedCommands events = taken ++ next.queue ∧
        handedFrames events = frames taken ∧ ∀ command ∈ taken, m.queue = command :: next.queue :=
  ⟨[], by rw [hq, hm, List.append_nil, List.nil_append], hh, nofun⟩

/-- A move that takes the first command and queues nothing. -/
theorem queue_of_taking {command : Command} (hq : m.queue = command :: next.queue)
    (hc : queuedCommands events = []) (hh : handedFrames events = frames [command]) :
    ∃ taken, m.queue ++ queuedCommands events = taken ++ next.queue ∧
      handedFrames events = frames taken ∧ ∀ command ∈ taken, m.queue = command :: next.queue :=
  ⟨[command], by rw [hc, hq, List.append_nil]; rfl, hh, List.forall_mem_singleton.2 hq⟩

/-- What is queued goes to the end, what is taken goes from the front, and
the frames among it are handed over. -/
theorem queue_of_move (h : Move m a next events) : ∃ taken,
    m.queue ++ queuedCommands events = taken ++ next.queue ∧
      handedFrames events = frames taken ∧ ∀ command ∈ taken, m.queue = command :: next.queue := by
  cases h with
  | turn hp ht => cases ht <;> exact queue_of_idle rfl rfl rfl
  | hand _ hq | handInVain _ _ hq | passOver _ _ hq | hangUpToReconnect _ _ hq
  | hangUpToClose _ _ hq => exact queue_of_taking hq rfl rfl
  | queue hc hp => exact ⟨[], rfl, rfl, nofun⟩
  | bounce => exact queue_of_idle rfl rfl (takeBack_queue _ _)
  | _ => exact queue_of_idle rfl rfl rfl

end Machine

open Machine

variable {c : SocketConfig} {m : Machine} {history : List Event}

/-- What was queued is what was taken and what waits, and the frames that
were taken are those that were handed over. -/
theorem Run.taken (h : Run c m history) : ∃ taken,
    queuedCommands history = taken ++ m.queue ∧ handedFrames history = frames taken := by
  induction h with
  | create => exact ⟨[], rfl, rfl⟩
  | @step m next history events a _ hstep ih =>
    obtain ⟨taken, hqueued, hhanded⟩ := ih
    obtain ⟨more, hqueue, hmore, -⟩ := queue_of_move (move_of_step hstep)
    refine ⟨taken ++ more, ?_, ?_⟩
    · rw [queuedCommands_append]
      exact append_taken hqueued hqueue
    · rw [handedFrames_append, frames_append, hhanded, hmore]

/-- **Frames are handed over in the order in which they were queued, none
twice and none left out**, over all connections together. A worker that
takes a request to close and ends the connection for it has handed over
every frame that was queued before. -/
theorem handed_frames_are_queued_frames (h : Run c m history) :
    handedFrames history <+: frames (queuedCommands history) ∧
    ∀ (code : Nat) (reason : String) (rest : List Command) (failure : Option SocketError)
      (next : Machine) (events : List Event), m.queue = .close code reason :: rest →
      m.step (.work (.commandTaken failure)) = some (next, events) →
      next.phase = .ending ∧ ∃ before,
        queuedCommands history = before ++ .close code reason :: rest ∧
          handedFrames (history ++ events) = frames before := by
  obtain ⟨taken, hqueued, hhanded⟩ := h.taken
  refine ⟨?_, fun code reason rest failure next events hq hstep => ?_⟩
  · rw [hqueued, hhanded, frames_append]
    exact List.prefix_append _ _
  · cases move_of_step hstep with
    | turn _ ht => cases ht
    | hand _ hq' | handInVain _ _ hq' | passOver _ _ hq' | hangUpToReconnect _ _ hq' =>
      rw [hq] at hq'
      cases hq'
    | hangUpToClose _ _ hq' =>
      rw [hq] at hq'
      cases hq'
      refine ⟨rfl, taken, hq ▸ hqueued, ?_⟩
      rw [handedFrames_append, hhanded]
      exact List.append_nil _

/-- One frame is queued before the start and one while a reconnect is
pending, each is handed over to a connection of its own, and then the
client is closed. -/
def parting : List Action :=
  [.ask (.send (.text "early")), .post (.send (.text "early")), .start, .work .advance,
    .work .advance, .work .connectionMade, .work .advance, .work .advance, .work .advance,
    .ask (.reconnect none), .post (.reconnect none), .ask (.send (.text "late")),
    .post (.send (.text "late")), .work (.commandTaken none), .work (.commandTaken none),
    .work .advance, .work .advance, .work .advance, .work .advance, .work .connectionMade,
    .work .advance, .work .advance, .work .advance, .work (.commandTaken none),
    .ask (.close closeNormal ""), .post (.close closeNormal "")]

theorem parting_leaves_no_frame : ∃ m history next events before,
    Run (.ofUrl "ws://a") m history ∧
      m.step (.work (.commandTaken none)) = some (next, events) ∧ next.phase = .ending ∧
      handedFrames history = [.text "early", .text "late"] ∧
      handedFrames history <+: frames (queuedCommands history) ∧
      queuedCommands history = before ++ [.close closeNormal ""] ∧
      handedFrames (history ++ events) = frames before := by
  have hlater : ∃ m history next events,
      (create (.ofUrl "ws://a")).steps parting = some (m, history) ∧
      m.queue = [.close closeNormal ""] ∧
      m.step (.work (.commandTaken none)) = some (next, events) ∧
      handedFrames history = [.text "early", .text "late"] := ⟨_, _, _, _, rfl, rfl, rfl, rfl⟩
  obtain ⟨m, history, next, events, hsteps, hqueue, hstep, hhanded⟩ := hlater
  have hrun : Run (.ofUrl "ws://a") m history := Run.create.steps hsteps
  obtain ⟨horder, hclose⟩ := handed_frames_are_queued_frames hrun
  obtain ⟨hphase, before, hqueued, hall⟩ := hclose _ _ _ _ _ _ hqueue hstep
  exact ⟨m, history, next, events, before, hrun, hstep, hphase, hhanded, horder, hqueued, hall⟩

end StreamFinder.Socket
