import StreamFinder.Proofs.Socket.Standing
import StreamFinder.Socket.History
/-!
# Reconnects and attempts

A reconnect is asked for twice, by the flag and by a command, and the two
are consumed apart from each other. What keeps the accounts is the flag
alone: as long as there is a worker, the reconnects that were let in are
the attempts after the first, and one more if the flag is up
(`Tally.balance`). A worker that is over owes nothing, unless it was told
to close or its client was let go of (`Tally.served`).
-/

namespace StreamFinder.Socket

namespace Phase

/-- How many attempts the worker has announced and not begun. -/
def dialsLeft : Phase → Nat
  | .readying => 1
  | _ => 0

end Phase

namespace Machine

/-- Whether the worker has yet to set out for the first time. -/
def isFresh (m : Machine) : Bool :=
  match m.phase with
  | .unstarted => true
  | .outset => !m.pending
  | _ => false

variable {c : SocketConfig} {m next : Machine} {a : Action} {history events : List Event}

theorem isFresh_of_outset (hp : m.phase = .outset) : m.isFresh = !m.pending := by
  unfold isFresh
  rw [hp]

theorem isFresh_eq_false (hu : m.phase ≠ .unstarted) (ho : m.phase ≠ .outset) :
    m.isFresh = false := by
  unfold isFresh
  cases hp : m.phase with
  | unstarted => exact absurd hp hu
  | outset => exact absurd hp ho
  | _ => rfl

theorem isFresh_of_isConnected (h : m.phase.isConnected = true) : m.isFresh = false := by
  refine isFresh_eq_false ?_ ?_ <;> intro hp <;> rw [hp] at h <;> cases h

/-! ## What a move means for the accounts -/

/-- What a move means for the accounts: the worker sets out, an attempt
begins, a reconnect is let in, or the move is about something else. -/
inductive Effect (m : Machine) : Machine → List Event → Prop where
  | setOut : m.phase = .outset → m.state.isShuttingDown = false →
    Effect m { m with state := .connecting, pending := false, phase := .readying } [.setOut]
  | dial : m.phase = .readying →
    Effect m { m with connections := m.connections + 1, phase := .dialing m.url } [.dialed m.url]
  | letIn (url : Option String) : m.state = .opened → m.pending = false →
    Effect m
      { m with
        pending := true
        url := url.getD m.url
        calls := m.calls ++ [.reconnect (url.map fun _ => m.url)] }
      [.admitted (.reconnect url)]
  /-- A worker that is gone may find that its last reconnect is taken back. -/
  | other {next : Machine} {events : List Event} : attempts events = 0 → dials events = [] →
    reconnects events = [] →
    (m.phase ≠ .gone → next.pending = m.pending ∧ next.url = m.url) → Effect m next events

theorem effect_of_move (h : Move m a next events) : Effect m next events := by
  cases h with
  | turn hp ht => cases ht <;> exact .other rfl rfl rfl fun _ => ⟨rfl, rfl⟩
  | setOut hp hs => exact .setOut hp hs
  | dial hp => exact .dial hp
  | admitReconnect url hd ho hp => exact .letIn url ho hp
  | bounce hc hp => exact .other rfl rfl rfl fun hg => absurd hp hg
  | _ => exact .other rfl rfl rfl fun _ => ⟨rfl, rfl⟩

/-- The flag goes up with a request that is let in, and down with an attempt. -/
theorem pending_of_move (h : Move m a next events) (hr : reconnects events = [])
    (hp : next.pending = true) : m.pending = true ∧ attempts events = 0 := by
  cases h with
  | turn _ ht => cases ht <;> exact ⟨hp, rfl⟩
  | setOut => cases hp
  | admitReconnect => cases hr
  | bounce =>
    have hm := pending_of_takeBack _ _ hp
    exact ⟨hm, rfl⟩
  | _ => exact ⟨hp, rfl⟩

/-- No reconnect is let in, and no attempt begins, where the worker is gone. -/
theorem Coherent.still_of_gone (hm : m.Coherent) (h : Move m a next events)
    (hg : m.phase = .gone) : dials events = [] ∧ reconnects events = [] := by
  cases effect_of_move h with
  | setOut hp | dial hp => cases hg.symm.trans hp
  | letIn _ ho => exact absurd ho (hm.state_ne_opened (hg ▸ rfl) (hg ▸ nofun))
  | other _ hd hr => exact ⟨hd, hr⟩

/-- An attempt begins only after it was announced, and once. -/
theorem dialsLeft_of_move (h : Move m a next events) :
    m.phase.dialsLeft + attempts events = (dials events).length + next.phase.dialsLeft := by
  cases h with
  | turn hp ht => rw [hp]; cases ht <;> rfl
  | turnedAway hp | setOut hp | dial hp | mark hp | unmarked hp | again hp | enough hp | stop hp
  | handInVain _ hp | hangUpToReconnect _ hp | hangUpToClose _ hp | start hp
  | dropUnstarted _ hp => rw [hp]; rfl
  | bounce => rw [takeBack_phase]; exact Nat.zero_add _ ▸ rfl
  | _ => exact Nat.zero_add _ ▸ rfl

/-- Nobody takes the place of a worker that is over. -/
theorem isOver_of_move (h : Move m a next events) (ho : m.phase.isOver = true) :
    next.phase.isOver = true := by
  cases h with
  | turn hp ht =>
    rw [hp] at ho
    cases ht with
    | gone => rfl
    | _ => cases ho
  | stop | dropUnstarted => rfl
  | turnedAway hp | setOut hp | dial hp | mark hp | unmarked hp | again hp | enough hp
  | handInVain _ hp | hangUpToReconnect _ hp | hangUpToClose _ hp | start hp =>
    rw [hp] at ho
    cases ho
  | bounce => rwa [takeBack_phase]
  | _ => exact ho

theorem gone_of_move (h : Move m a next events) (hg : m.phase = .gone) : next.phase = .gone := by
  cases h with
  | turn hp ht =>
    -- No turn begins where the worker is gone.
    rw [hp] at hg
    cases hg
    cases ht
  | turnedAway hp | setOut hp | dial hp | mark hp | unmarked hp | again hp | enough hp | stop hp
  | handInVain _ hp | hangUpToReconnect _ hp | hangUpToClose _ hp | start hp =>
    rw [hp] at hg
    cases hg
  | dropUnstarted => rfl
  | bounce => rwa [takeBack_phase]
  | _ => exact hg

theorem Coherent.isFresh_of_move (hm : m.Coherent) (h : Move m a next events)
    (ha : attempts events = 0) (ho : next.phase.isOver = false) : next.isFresh = m.isFresh := by
  cases h with
  | turn hp ht => unfold isFresh; rw [hp]; cases ht <;> rfl
  | setOut => cases ha
  | dial hp | mark hp | unmarked hp | handInVain _ hp | hangUpToReconnect _ hp
  | hangUpToClose _ hp => unfold isFresh; rw [hp]
  | again hp hpending =>
    -- The worker is back at the outset, and the flag says that it is not the first time.
    have hm := isFresh_eq_false (m := m) (hp ▸ nofun) (hp ▸ nofun)
    rw [hm, isFresh_of_outset rfl]
    exact congrArg not hpending
  | start hp =>
    have hpending := hm.unasked (hp ▸ rfl)
    unfold isFresh
    rw [hp, hpending]
    rfl
  | admitReconnect url hd hopened hpending =>
    have hc := hm.isConnected_of_admitted hopened hpending
    rw [isFresh_of_isConnected hc]
    exact isFresh_of_isConnected hc
  | turnedAway | enough | stop | dropUnstarted => cases ho
  | bounce _ hp =>
    rw [takeBack_phase] at ho
    have ho : m.phase.isOver = false := ho
    rw [hp] at ho
    cases ho
  | _ => rfl

/-- A client shuts down when it is told to, when the user lets go of it,
and when its worker is over. -/
theorem shuttingDown_of_move (h : Move m a next events) (hs : next.state.isShuttingDown = true) :
    m.state.isShuttingDown = true ∨ next.phase.isOver = true ∨ wasClosed events = true ∨
      next.dropped = true := by
  cases h with
  | setOut | mark => cases hs
  | enough | stop => exact .inr (.inl rfl)
  | closeIdle | admitClose => exact .inr (.inr (.inl rfl))
  | dropRunning => exact .inr (.inr (.inr rfl))
  | bounce => rw [takeBack_state] at hs; exact .inl hs
  | _ => exact .inl hs

theorem dropped_of_move (h : Move m a next events) (hd : m.dropped = true) :
    next.dropped = true := by
  cases h with
  | dropUnstarted | dropRunning | dropGone => rfl
  | bounce => rwa [takeBack_dropped]
  | _ => exact hd

/-- A worker is over when it was told to close, when its client was let go
of, and when no reconnect is left to serve. -/
theorem Coherent.over_of_move (hm : m.Coherent) (h : Move m a next events)
    (ho : next.phase.isOver = true) :
    m.phase.isOver = true ∨ m.state.isShuttingDown = true ∨
      m.pending = false ∧ m.isFresh = false ∨ next.dropped = true := by
  cases h with
  | @turn p q o events hp ht =>
    cases ht with
    | givenUp =>
      have hpending := hm.unasked (hp ▸ rfl)
      exact .inr (.inr (.inl ⟨hpending, isFresh_eq_false (hp ▸ nofun) (hp ▸ nofun)⟩))
    | gone => exact .inl (hp ▸ rfl)
    | _ => cases ho
  | turnedAway _ hs => exact .inr (.inl hs)
  | enough hp h =>
    rcases h with h | h
    · exact .inr (.inr (.inl ⟨h, isFresh_eq_false (hp ▸ nofun) (hp ▸ nofun)⟩))
    · exact .inr (.inl h)
  | stop hp => exact .inl (hp ▸ rfl)
  | setOut | dial | mark | unmarked | again | handInVain | hangUpToReconnect | hangUpToClose
  | start => cases ho
  | dropUnstarted => exact .inr (.inr (.inr rfl))
  | bounce => rw [takeBack_phase] at ho; exact .inl ho
  | _ => exact .inl ho

/-! ## The accounts -/

/-- The accounts of reconnects and attempts. -/
structure Tally (c : SocketConfig) (m : Machine) (history : List Event) : Prop where
  begun : m.phase.isOver = false → (attempts history = 0 ↔ m.isFresh = true)
  balance : m.phase ≠ .gone →
    (reconnects history).length + 1 = max (attempts history) 1 + m.pending.toNat
  bound : attempts history ≤ (reconnects history).length + 1
  announced : attempts history = (dials history).length + m.phase.dialsLeft
  url : m.phase ≠ .gone → m.url = destination c.url (reconnects history)
  visited : dials history <+: route c.url (reconnects history)
  told : m.state.isShuttingDown = true →
    m.phase.isOver = true ∨ wasClosed history = true ∨ m.dropped = true
  served : m.phase.isOver = true →
    attempts history = (reconnects history).length + 1 ∨ wasClosed history = true ∨
      m.dropped = true

theorem tally_create (c : SocketConfig) : Tally c (create c) [] where
  begun _ := ⟨fun _ => rfl, fun _ => rfl⟩
  balance _ := rfl
  bound := Nat.zero_le _
  announced := rfl
  url _ := rfl
  visited := List.nil_prefix
  told := nofun
  served := nofun

namespace Tally

theorem begun_step (ht : Tally c m history) (hm : m.Coherent) (h : Move m a next events)
    (ho : next.phase.isOver = false) :
    attempts (history ++ events) = 0 ↔ next.isFresh = true := by
  have hmo : m.phase.isOver = false := Bool.eq_false_iff.2 fun hmo => by
    rw [isOver_of_move h hmo] at ho
    cases ho
  rw [attempts_append]
  by_cases ha : attempts events = 0
  · rw [ha, hm.isFresh_of_move h ha ho]
    exact ht.begun hmo
  · cases effect_of_move h with
    | setOut => exact ⟨nofun, nofun⟩
    | dial | letIn => exact absurd rfl ha
    | other h0 => exact absurd h0 ha

/-- With the flag down, every reconnect has had its attempt. -/
theorem balance_of_unasked (ht : Tally c m history) (hg : m.phase ≠ .gone)
    (hp : m.pending = false) : (reconnects history).length + 1 = max (attempts history) 1 := by
  have hb := ht.balance hg
  rw [hp] at hb
  exact hb

/-- At the outset every reconnect but the one to be served has had its attempt. -/
theorem attempts_of_outset (ht : Tally c m history) (hp : m.phase = .outset) :
    attempts history = (reconnects history).length := by
  have hf := ht.begun (hp ▸ rfl)
  have hb := ht.balance (hp ▸ nofun)
  rw [isFresh_of_outset hp] at hf
  -- The flag tells a later attempt from the first.
  cases hpending : m.pending with
  | false =>
    have hb := ht.balance_of_unasked (hp ▸ nofun) hpending
    rw [hpending] at hf
    have hzero : attempts history = 0 := hf.2 rfl
    omega
  | true =>
    rw [hpending] at hb hf
    have hpos : attempts history ≠ 0 := fun hzero => by cases hf.1 hzero
    have hb : (reconnects history).length + 1 = max (attempts history) 1 + 1 := hb
    omega

theorem balance_step (ht : Tally c m history) (h : Move m a next events)
    (hg : next.phase ≠ .gone) :
    (reconnects (history ++ events)).length + 1 =
      max (attempts (history ++ events)) 1 + next.pending.toNat := by
  have hmg : m.phase ≠ .gone := fun hmg => hg (gone_of_move h hmg)
  have hb := ht.balance hmg
  rw [reconnects_append, attempts_append, List.length_append]
  cases effect_of_move h with
  | setOut hp =>
    have heq := ht.attempts_of_outset hp
    show (reconnects history).length + 0 + 1 = max (attempts history + 1) 1 + 0
    omega
  | dial => exact hb
  | letIn url ho hp =>
    rw [hp] at hb
    show (reconnects history).length + 1 + 1 = max (attempts history) 1 + 1
    exact congrArg (· + 1) hb
  | other ha _ hr hsame =>
    rw [ha, hr, (hsame hmg).1]
    exact hb

theorem bound_step (ht : Tally c m history) (h : Move m a next events) :
    attempts (history ++ events) ≤ (reconnects (history ++ events)).length + 1 := by
  have hb := ht.bound
  rw [reconnects_append, attempts_append, List.length_append]
  cases effect_of_move h with
  | setOut hp => exact Nat.succ_le_succ (Nat.le_of_eq (ht.attempts_of_outset hp))
  | dial => exact hb
  | letIn url => exact Nat.le_succ_of_le hb
  | other ha _ hr _ =>
    rw [ha, hr]
    exact hb

theorem announced_step (ht : Tally c m history) (h : Move m a next events) :
    attempts (history ++ events) =
      (dials (history ++ events)).length + next.phase.dialsLeft := by
  have hs := ht.announced
  have hd := dialsLeft_of_move h
  rw [attempts_append, dials_append, List.length_append]
  omega

theorem url_step (ht : Tally c m history) (h : Move m a next events) (hg : next.phase ≠ .gone) :
    next.url = destination c.url (reconnects (history ++ events)) := by
  have hmg : m.phase ≠ .gone := fun hmg => hg (gone_of_move h hmg)
  have hu := ht.url hmg
  rw [reconnects_append]
  cases effect_of_move h with
  | setOut | dial =>
    show m.url = destination c.url (reconnects history ++ [])
    rw [List.append_nil, hu]
  | letIn url =>
    show url.getD m.url = destination c.url (reconnects history ++ [url])
    rw [destination_append_singleton, hu]
  | other _ _ hr hsame => rw [hr, List.append_nil, (hsame hmg).2, hu]

theorem visited_step (ht : Tally c m history) (hm : m.Coherent) (h : Move m a next events) :
    dials (history ++ events) <+: route c.url (reconnects (history ++ events)) := by
  have hv := ht.visited
  rw [reconnects_append, dials_append]
  cases effect_of_move h with
  | setOut =>
    show dials history ++ [] <+: route c.url (reconnects history ++ [])
    rwa [List.append_nil, List.append_nil]
  | dial hp =>
    -- The attempt that was announced last is the only one that has not begun.
    have hb := ht.balance_of_unasked (hp ▸ nofun) (hm.unasked (hp ▸ rfl))
    have hs := ht.announced
    rw [hp] at hs
    have hs : attempts history = (dials history).length + 1 := hs
    have hall : dials history ++ [m.url] = route c.url (reconnects history) :=
      ht.url (hp ▸ nofun) ▸ append_destination_eq_route hv (by omega)
    show dials history ++ [m.url] <+: route c.url (reconnects history ++ [])
    rw [List.append_nil]
    exact hall ▸ List.prefix_rfl
  | letIn url =>
    show dials history ++ [] <+: route c.url (reconnects history ++ [url])
    rw [List.append_nil, route_append_singleton]
    exact hv.trans (List.prefix_append _ _)
  | other _ hd hr _ =>
    rw [hd, hr, List.append_nil, List.append_nil]
    exact hv

theorem told_step (ht : Tally c m history) (h : Move m a next events)
    (hs : next.state.isShuttingDown = true) :
    next.phase.isOver = true ∨ wasClosed (history ++ events) = true ∨ next.dropped = true := by
  rw [wasClosed_append, Bool.or_eq_true]
  rcases shuttingDown_of_move h hs with hm | ho | hc | hd
  · rcases ht.told hm with ho | hc | hd
    · exact .inl (isOver_of_move h ho)
    · exact .inr (.inl (.inl hc))
    · exact .inr (.inr (dropped_of_move h hd))
  · exact .inl ho
  · exact .inr (.inl (.inr hc))
  · exact .inr (.inr hd)

/-- A move by which the worker is over changes none of the counts. -/
theorem counts_of_over (hm : m.Coherent) (h : Move m a next events)
    (ho : next.phase.isOver = true) : attempts events = 0 ∧ reconnects events = [] := by
  cases effect_of_move h with
  | setOut | dial => cases ho
  | letIn url hopened hpending =>
    have hc := hm.isConnected_of_admitted hopened hpending
    have ho : m.phase.isOver = true := ho
    rw [Phase.not_isOver hc] at ho
    cases ho
  | other ha _ hr _ => exact ⟨ha, hr⟩

/-- When the worker comes to its end, it has served every reconnect, or has
been told not to. -/
theorem served_of_end (ht : Tally c m history) (hm : m.Coherent) (h : Move m a next events)
    (hmo : m.phase.isOver = false) (ho : next.phase.isOver = true) :
    attempts history = (reconnects history).length + 1 ∨ wasClosed history = true ∨
      next.dropped = true := by
  have hnot : m.phase.isOver ≠ true := Bool.eq_false_iff.1 hmo
  rcases hm.over_of_move h ho with hover | hs | ⟨hpending, hf⟩ | hd
  · exact absurd hover hnot
  · exact .inr ((ht.told hs).resolve_left hnot |>.imp_right (dropped_of_move h))
  · have hb := ht.balance_of_unasked (fun hg => hnot (hg ▸ rfl)) hpending
    have hpos : attempts history ≠ 0 := fun hzero => by
      rw [(ht.begun hmo).1 hzero] at hf
      cases hf
    exact .inl (by omega)
  · exact .inr (.inr hd)

theorem served_step (ht : Tally c m history) (hm : m.Coherent) (h : Move m a next events)
    (ho : next.phase.isOver = true) :
    attempts (history ++ events) = (reconnects (history ++ events)).length + 1 ∨
      wasClosed (history ++ events) = true ∨ next.dropped = true := by
  obtain ⟨ha, hr⟩ := counts_of_over hm h ho
  have keep : attempts history = (reconnects history).length + 1 ∨ wasClosed history = true ∨
      next.dropped = true := by
    cases hmo : m.phase.isOver with
    | true => exact (ht.served hmo).imp_right (.imp_right (dropped_of_move h))
    | false => exact ht.served_of_end hm h hmo ho
  rw [attempts_append, reconnects_append, wasClosed_append, ha, hr, List.append_nil,
    Bool.or_eq_true]
  exact keep.imp_right (.imp_left .inl)

theorem step (ht : Tally c m history) (hm : m.Coherent) (h : Move m a next events) :
    Tally c next (history ++ events) where
  begun := ht.begun_step hm h
  balance := ht.balance_step h
  bound := ht.bound_step h
  announced := ht.announced_step h
  url := ht.url_step h
  visited := ht.visited_step hm h
  told := ht.told_step h
  served := ht.served_step hm h

end Tally

end Machine

open Machine

variable {c : SocketConfig} {m : Machine} {history : List Event}

theorem Run.tally (h : Run c m history) : Tally c m history := by
  induction h with
  | create => exact tally_create c
  | step hrun hstep ih => exact ih.step hrun.coherent (move_of_step hstep)

/-- **Every reconnect that is let in has one attempt, in its turn.** While
the worker is there, those let in are the attempts after the first, and one
more if the flag is up; whatever is left in the queue adds none. Attempts
go where the reconnects before them say, a client that says that it
connects has none to serve, and a worker leaves none behind unless the
client was closed or let go of. -/
theorem attempts_match_reconnects (h : Run c m history) :
    (0 < attempts history → m.phase ≠ .gone →
      (reconnects history).length = attempts history - 1 + m.pending.toNat) ∧
    attempts history ≤ (reconnects history).length + 1 ∧
    attempts history = (dials history).length + m.phase.dialsLeft ∧
    dials history <+: route c.url (reconnects history) ∧
    (m.state = .connecting → m.pending = false) ∧
    (m.phase.isOver = true → attempts history ≤ (reconnects history).length →
      wasClosed history = true ∨ m.dropped = true) := by
  have ht := h.tally
  refine ⟨fun hpos hg => ?_, ht.bound, ht.announced, ht.visited, h.coherent.connecting,
    fun ho hle => ?_⟩
  · have hb := ht.balance hg
    omega
  · rcases ht.served ho with heq | hclosed
    · omega
    · exact hclosed

/-- A client is started, and its worker waits on the connection. -/
def welcomed : List Action :=
  [.start, .work .advance, .work .advance, .work .connectionMade, .work .advance, .work .advance,
    .work .advance]

/-- A reconnect is queued, but the peer vanishes before the worker takes
the command, and the worker finds it on the next connection. -/
def outrun : List Action :=
  [.start, .work .advance, .work .advance, .work .connectionMade, .work .advance, .work .advance,
    .work .advance, .ask (.reconnect (some "ws://b")), .post (.reconnect (some "ws://a")),
    .work .peerVanished, .work .advance, .work .advance, .work .advance, .work .advance,
    .work .connectionMade, .work .advance, .work .advance, .work .advance,
    .work (.commandTaken none)]

/-- The command that comes too late is passed over. -/
theorem outrun_reconnect_adds_one_attempt : ∃ m history,
    Run (.ofUrl "ws://a") m history ∧ attempts history = 2 ∧ m.phase = .listening ∧
      m.queue = [] ∧ (reconnects history).length = attempts history - 1 + m.pending.toNat ∧
      dials history <+: route "ws://a" (reconnects history) := by
  have hlater : ∃ m history, (create (.ofUrl "ws://a")).steps outrun = some (m, history) ∧
      attempts history = 2 ∧ m.phase = .listening ∧ m.queue = [] := ⟨_, _, rfl, rfl, rfl, rfl⟩
  obtain ⟨m, history, hsteps, hattempts, hphase, hqueue⟩ := hlater
  have hrun : Run (.ofUrl "ws://a") m history := Run.create.steps hsteps
  obtain ⟨hbalance, -, -, hroute, -⟩ := attempts_match_reconnects hrun
  have hbalance := hbalance (by rw [hattempts]; decide) (by rw [hphase]; nofun)
  exact ⟨m, history, hrun, hattempts, hphase, hqueue, hbalance, hroute⟩

end StreamFinder.Socket
