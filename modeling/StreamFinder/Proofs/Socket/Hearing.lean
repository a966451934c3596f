import StreamFinder.Proofs.Socket.Shutdown
import StreamFinder.Socket.Course
/-!
# What the handler hears

The handler is called at many places of the worker's course, and each way
in which a connection can end has calls of its own. This file says that
what it hears is nevertheless told by the connections, one after the
other: the opening, the data, the end. `telling_of_move` says of every
move what news it brings, where they take the worker and what the handler
gets of them. From this the fates of the attempts go along with the place
of the worker (`Passage.fits`), and what was heard with the fates
(`Heard.step`).
-/

namespace StreamFinder.Socket

/-! ## Stages -/

/-- How the worker is placed towards connections: it is still to have the
next one, it has one, it is done with one, or it is done with all. -/
inductive Stage where
  | waiting
  | attending
  | parting
  | leaving
deriving DecidableEq

/-- The stage of a phase. -/
def Phase.stage : Phase → Stage
  | .unstarted | .outset | .readying | .dialing _ | .connected => .waiting
  | .marked | .opening | .listening | .receiving _ => .attending
  | .failing | .ending | .deciding => .parting
  | .dialFailed | .leaving | .stopped | .gone => .leaving

theorem Phase.stage_of_isOver {p : Phase} (h : p.isOver = true) : p.stage = .leaving := by
  cases p <;> first | rfl | cases h

theorem Phase.owed_of_isOver {p : Phase} (h : p.isOver = true) : p.owed = [] := by
  cases p <;> first | rfl | cases h

/-- The fates of the attempts, the latest first, that go with a stage. All
but the latest are complete connections in any case. -/
def Stage.Fits : Stage → List Fate → Prop
  | .waiting, told => ∀ f ∈ told, f.isComplete = true
  | .attending, told => ∃ k earlier, told = .connected k :: earlier ∧ k.ending = none ∧
      ∀ f ∈ earlier, f.isComplete = true
  | .parting, told => ∃ k earlier, told = .connected k :: earlier ∧ k.ending.isSome = true ∧
      ∀ f ∈ earlier, f.isComplete = true
  | .leaving, told => (∀ f ∈ told, f.isEnded = true) ∧ ∀ f ∈ told.tail, f.isComplete = true

theorem Fate.isEnded_of_isComplete {f : Fate} (h : f.isComplete = true) : f.isEnded = true := by
  cases f with
  | failed e => rfl
  | connected k => exact (Bool.and_eq_true_iff.1 h).2

namespace Stage

variable {g : Stage} {told : List Fate}

theorem Fits.tail (h : g.Fits told) : ∀ f ∈ told.tail, f.isComplete = true := by
  cases g with
  | waiting => exact fun f hf => h f (List.mem_of_mem_tail hf)
  | attending | parting =>
    obtain ⟨k, earlier, rfl, -, hearlier⟩ := h
    exact hearlier
  | leaving => exact h.2

/-- Unless the worker has a connection, all that was told has ended. -/
theorem Fits.ended (h : g.Fits told) (hg : g ≠ .attending) : ∀ f ∈ told, f.isEnded = true := by
  cases g with
  | waiting => exact fun f hf => Fate.isEnded_of_isComplete (h f hf)
  | attending => exact absurd rfl hg
  | parting =>
    obtain ⟨k, earlier, rfl, hk, hearlier⟩ := h
    intro f hf
    rcases List.mem_cons.1 hf with rfl | hf
    · exact hk
    · exact Fate.isEnded_of_isComplete (hearlier f hf)
  | leaving => exact h.1

theorem Fits.leave (h : g.Fits told) (hg : g ≠ .attending) : leaving.Fits told :=
  ⟨h.ended hg, h.tail⟩

end Stage

namespace Machine

variable {c : SocketConfig} {m next : Machine} {a : Action} {events history : List Event}
variable {moments : List Moment}

/-! ## What a move tells -/

/-- How a move and its news take the worker from stage to stage. -/
inductive Passage (m next : Machine) : News → Prop where
  | stay : next.phase.stage = m.phase.stage → Passage m next .nothing
  | leave : m.phase.stage ≠ .attending → next.phase.stage = .leaving → Passage m next .nothing
  | again : m.phase.stage = .parting → m.state.isShuttingDown = false →
    next.phase.stage = .waiting → Passage m next .nothing
  | refused (e : SocketError) : m.phase.stage = .waiting → next.phase.stage = .leaving →
    Passage m next (.refused e)
  | met (opened : Bool) : m.phase = .connected → opened = decide (m.state = .connecting) →
    next.phase.stage = .attending → Passage m next (.met opened)
  | data {frame : Frame} : frame.isData = true → m.phase.stage = .attending →
    next.phase.stage = .attending → Passage m next (.data frame)
  | ended (x : Ending) : m.phase.stage = .attending → next.phase.stage = .parting →
    Passage m next (.ended x)

/-- What a move tells: the news, where they take the worker, and that they
are what the handler is called with and is owed after what it was owed. -/
structure Telling (m : Machine) (a : Action) (next : Machine) (events : List Event) (n : News) :
    Prop where
  news : (⟨m, a⟩ : Moment).news = n
  passage : Passage m next n
  owed : callbacks events ++ next.phase.owed = m.phase.owed ++ n.callbacks

theorem telling_of_turn {p q : Phase} {o : Occurrence} (hp : m.phase = p)
    (h : Turn m.config p o q events) : ∃ n, Telling m (.work o) { m with phase := q } events n := by
  have hstage : m.phase.stage = p.stage := congrArg _ hp
  have howed : m.phase.owed = p.owed := congrArg _ hp
  cases h with
  | greet | greeted | received | failed | ended | givenUp | gone =>
    exact ⟨.nothing, by simp [Moment.news, hp], .stay hstage.symm, by rw [howed]; rfl⟩
  | made => exact ⟨.nothing, rfl, .stay hstage.symm, by rw [howed]; rfl⟩
  | notMade | timedOut => exact ⟨.refused _, rfl, .refused _ hstage rfl, by rw [howed]; rfl⟩
  | closedByPeer | broken | vanished | pingFailed =>
    exact ⟨.ended _, rfl, .ended _ hstage rfl, by rw [howed]; rfl⟩
  | @data frame hd =>
    refine ⟨.data frame, ?_, .data hd hstage rfl, by rw [howed]; rfl⟩
    cases frame with
    | close => cases hd
    | _ => simp [Moment.news, hd]
  | @keepAlive frame hd hc =>
    refine ⟨.nothing, ?_, .stay hstage.symm, by rw [howed]; rfl⟩
    cases frame with
    | close code reason => exact absurd rfl (hc code reason)
    | _ => simp [Moment.news, hd]
  | pinged => exact ⟨.nothing, rfl, .stay hstage.symm, by rw [howed]; rfl⟩

/-- Every move tells something of attempts and connections, or nothing. -/
theorem telling_of_move (h : Move m a next events) : ∃ n, Telling m a next events n := by
  cases h with
  | turn hp ht => exact telling_of_turn hp ht
  | turnedAway hp | enough hp | stop hp =>
    exact ⟨.nothing, by simp [Moment.news, hp], .leave (hp ▸ nofun) rfl, by rw [hp]; rfl⟩
  | setOut hp | dial hp =>
    exact ⟨.nothing, by simp [Moment.news, hp], .stay (by rw [hp]; rfl), by rw [hp]; rfl⟩
  | mark hp hs =>
    exact ⟨.met true, by simp [Moment.news, hp, hs], .met _ hp (by simp [hs]) rfl,
      by rw [hp]; rfl⟩
  | unmarked hp hs =>
    exact ⟨.met false, by simp [Moment.news, hp, hs], .met _ hp (by simp [hs]) rfl,
      by rw [hp]; rfl⟩
  | again hp _ hs =>
    exact ⟨.nothing, by simp [Moment.news, hp], .again (hp ▸ rfl) hs rfl, by rw [hp]; rfl⟩
  | hand hp hq =>
    exact ⟨.nothing, by simp [Moment.news, hq], .stay rfl, by rw [hp]; rfl⟩
  | handInVain e hp hq =>
    exact ⟨.ended (.failed e), by simp [Moment.news, hq], .ended _ (hp ▸ rfl) rfl,
      by rw [hp]; rfl⟩
  | passOver failure hp hq h =>
    refine ⟨.nothing, ?_, .stay rfl, by rw [hp]; rfl⟩
    rcases h with h | h <;> simp [Moment.news, hq, h]
  | hangUpToReconnect failure hp hq hpending hs =>
    exact ⟨.ended .reconnecting, by simp [Moment.news, hq, hpending, hs],
      .ended _ (hp ▸ rfl) rfl, by rw [hp]; rfl⟩
  | @hangUpToClose code reason rest failure hp hq =>
    exact ⟨.ended (.closed code reason), by simp [Moment.news, hq], .ended _ (hp ▸ rfl) rfl,
      by rw [hp]; rfl⟩
  | start hp => exact ⟨.nothing, rfl, .stay (by rw [hp]; rfl), by rw [hp]; rfl⟩
  | dropUnstarted _ hp => exact ⟨.nothing, rfl, .leave (hp ▸ nofun) rfl, by rw [hp]; rfl⟩
  | bounce =>
    refine ⟨.nothing, rfl, .stay (by rw [takeBack_phase]), ?_⟩
    rw [takeBack_phase]
    exact (List.append_nil _).symm
  | _ => exact ⟨.nothing, rfl, .stay rfl, by simp [callbacks, Event.callback?, News.callbacks]⟩

end Machine

/-! ## Connections that come too late -/

/-- Whether the worker is on its way to a connection. -/
def Phase.isReaching : Phase → Bool
  | .readying => true
  | .dialing _ => true
  | .connected => true
  | _ => false

namespace Machine

variable {c : SocketConfig} {m next : Machine} {a : Action} {events history : List Event}
variable {moments : List Moment}

/-- A client that is closed or let go of shuts down, unless its worker is over. -/
theorem shuttingDown_of_shutsDown (h : Move m a next events)
    (hs : (⟨m, a⟩ : Moment).shutsDown = true) :
    next.state.isShuttingDown = true ∨ next.phase.isOver = true := by
  cases h with
  | refuseClose code reason _ hc =>
    rw [hc]
    exact .inl rfl
  | closeIdle | admitClose | dropRunning => exact .inl rfl
  | dropUnstarted => exact .inr rfl
  | dropGone _ hp => exact .inr (hp ▸ rfl)
  | _ => cases hs

/-- A client shuts down for nothing else. -/
theorem shutsDown_of_shuttingDown (h : Move m a next events)
    (hs : next.state.isShuttingDown = true) :
    m.state.isShuttingDown = true ∨ next.phase.isOver = true ∨
      (⟨m, a⟩ : Moment).shutsDown = true := by
  cases h with
  | setOut | mark => cases hs
  | enough | stop => exact .inr (.inl rfl)
  | closeIdle | admitClose | dropRunning => exact .inr (.inr rfl)
  | bounce => rw [takeBack_state] at hs; exact .inl hs
  | _ => exact .inl hs

/-- On its way to a connection the worker leaves the state alone. -/
theorem reaching_of_move (h : Move m a next events)
    (hm : m.phase.isReaching = true → m.state = .connecting ∨ m.state.isShuttingDown = true)
    (hr : next.phase.isReaching = true) :
    next.state = .connecting ∨ next.state.isShuttingDown = true := by
  cases h with
  | turn hp ht =>
    rw [hp] at hm
    cases ht with
    | made => exact hm rfl
    | _ => cases hr
  | setOut => exact .inl rfl
  | dial hp => exact hm (hp ▸ rfl)
  | closeIdle | admitClose | dropRunning => exact .inr rfl
  | bounce =>
    rw [takeBack_phase] at hr
    rw [takeBack_state]
    exact hm hr
  | turnedAway | mark | unmarked | again | enough | stop | handInVain | hangUpToReconnect
  | hangUpToClose | start | dropUnstarted => cases hr
  | _ => exact hm hr

/-- While there is a worker, the client shuts down exactly when somebody
has closed it or let go of it, and connects while the worker is on its way. -/
structure Aware (m : Machine) (moments : List Moment) : Prop where
  shuts : moments.any Moment.shutsDown = true →
    m.state.isShuttingDown = true ∨ m.phase.isOver = true
  shut : m.state.isShuttingDown = true →
    m.phase.isOver = true ∨ moments.any Moment.shutsDown = true
  reaching : m.phase.isReaching = true →
    m.state = .connecting ∨ m.state.isShuttingDown = true

theorem Aware.step (hm : Aware m moments) (h : Move m a next events) :
    Aware next (⟨m, a⟩ :: moments) where
  shuts hs := by
    rw [List.any_cons, Bool.or_eq_true] at hs
    rcases hs with hs | hs
    · exact shuttingDown_of_shutsDown h hs
    · exact (hm.shuts hs).imp (shuttingDown_step · h) (isOver_of_move h)
  shut hs := by
    rw [List.any_cons, Bool.or_eq_true]
    rcases shutsDown_of_shuttingDown h hs with hs | ho | hs
    · exact (hm.shut hs).imp (isOver_of_move h) .inr
    · exact .inl ho
    · exact .inr (.inl hs)
  reaching := reaching_of_move h hm.reaching

/-- **A connection is marked as open unless it is late.** -/
theorem Aware.connecting_eq_not_late (hm : Aware m moments) (hp : m.phase = .connected) :
    decide (m.state = .connecting) = !moments.any Moment.shutsDown := by
  have hover : m.phase.isOver ≠ true := by rw [hp]; nofun
  cases hlate : moments.any Moment.shutsDown with
  | true =>
    have hs := (hm.shuts hlate).resolve_right hover
    refine decide_eq_false fun hc => ?_
    rw [hc] at hs
    cases hs
  | false =>
    refine decide_eq_true ((hm.reaching (hp ▸ rfl)).resolve_right fun hs => ?_)
    rcases hm.shut hs with ho | hs
    · exact hover ho
    · rw [hlate] at hs
      cases hs

/-! ## One move -/

/-- What is true of every connection: only data comes from it, it was
announced unless it came too late, and then the client is shutting down. -/
structure Sound (m : Machine) (k : Connection) : Prop where
  data : ∀ frame ∈ k.data, frame.isData = true
  opened : k.opened = !k.late
  shut : k.opened = false → m.state.isShuttingDown = true

theorem Sound.step {k : Connection} (hk : Sound m k) (h : Move m a next events) : Sound next k :=
  { hk with shut := fun ho => shuttingDown_step (hk.shut ho) h }

theorem sound_cons {k : Connection} {earlier : List Fate} (hk : Sound m k)
    (h : ∀ k, .connected k ∈ earlier → Sound m k) :
    ∀ k', .connected k' ∈ .connected k :: earlier → Sound m k' := by
  intro k' hk'
  rcases List.mem_cons.1 hk' with heq | hmem
  · cases heq
    exact hk
  · exact h k' hmem

/-- What the handler is to hear of the fates goes on by the news. -/
theorem Passage.callbacks_fates {n : News} (hp : Passage m next n)
    (hn : (⟨m, a⟩ : Moment).news = n) (hm : m.phase.stage.Fits (fates moments)) :
    (fates (⟨m, a⟩ :: moments)).reverse.flatMap Fate.callbacks =
      (fates moments).reverse.flatMap Fate.callbacks ++ n.callbacks := by
  rw [fates, hn]
  cases hp with
  | stay | leave | again => exact (List.append_nil _).symm
  | refused | met => simp [Fate.callbacks, Connection.callbacks, News.callbacks]
  | data _ hs | ended x hs =>
    rw [hs] at hm
    obtain ⟨k, earlier, htold, hk, -⟩ := hm
    rw [htold]
    simp [Fate.receive, Fate.finish, Fate.callbacks, Connection.callbacks, News.callbacks, hk]

theorem Passage.fits {n : News} (hp : Passage m next n) (hn : (⟨m, a⟩ : Moment).news = n)
    (hm : m.phase.stage.Fits (fates moments))
    (hsound : ∀ k, .connected k ∈ fates moments → Sound m k) :
    next.phase.stage.Fits (fates (⟨m, a⟩ :: moments)) := by
  rw [fates, hn]
  cases hp with
  | stay hs => rwa [hs]
  | leave hs hnext => rw [hnext]; exact hm.leave hs
  | again hs hopen hnext =>
    -- A connection that was not announced is the last one.
    rw [hs] at hm
    obtain ⟨k, earlier, htold, hk, hearlier⟩ := hm
    have hopened : k.opened = true := by
      cases ho : k.opened with
      | true => rfl
      | false =>
        have hshut := (hsound k (htold ▸ List.mem_cons_self)).shut ho
        rw [hopen] at hshut
        cases hshut
    rw [hnext, htold]
    exact List.forall_mem_cons.2 ⟨Bool.and_eq_true_iff.2 ⟨hopened, hk⟩, hearlier⟩
  | refused e hs hnext =>
    rw [hs] at hm
    rw [hnext]
    exact ⟨List.forall_mem_cons.2 ⟨rfl, fun f hf => Fate.isEnded_of_isComplete (hm f hf)⟩, hm⟩
  | met opened hphase _ hnext =>
    rw [hphase] at hm
    rw [hnext]
    exact ⟨_, _, rfl, rfl, hm⟩
  | data _ hs hnext =>
    rw [hs] at hm
    obtain ⟨k, earlier, htold, hk, hearlier⟩ := hm
    rw [hnext, htold]
    exact ⟨_, _, rfl, hk, hearlier⟩
  | ended x hs hnext =>
    rw [hs] at hm
    obtain ⟨k, earlier, htold, -, hearlier⟩ := hm
    rw [hnext, htold]
    exact ⟨_, _, rfl, rfl, hearlier⟩

theorem Passage.sound {n : News} (hp : Passage m next n) (hn : (⟨m, a⟩ : Moment).news = n)
    (hm : m.phase.stage.Fits (fates moments)) (haware : Aware m moments)
    (hsound : ∀ k, .connected k ∈ fates moments → Sound m k) :
    ∀ k, .connected k ∈ fates (⟨m, a⟩ :: moments) → Sound m k := by
  rw [fates, hn]
  cases hp with
  | stay | leave | again => exact hsound
  | refused =>
    intro k hk
    rcases List.mem_cons.1 hk with hk | hk
    · cases hk
    · exact hsound k hk
  | met opened hphase hopened =>
    refine sound_cons ⟨nofun, hopened.trans (haware.connecting_eq_not_late hphase), fun ho => ?_⟩
      hsound
    rw [hopened] at ho
    exact (haware.reaching (hphase ▸ rfl)).resolve_left (of_decide_eq_false ho)
  | data hd hs =>
    rw [hs] at hm
    obtain ⟨k, earlier, htold, -, -⟩ := hm
    rw [htold] at hsound ⊢
    have hk := hsound k List.mem_cons_self
    have hdata := List.forall_mem_append.2 ⟨hk.data, List.forall_mem_singleton.2 hd⟩
    exact sound_cons ⟨hdata, hk.opened, hk.shut⟩ fun k' h => hsound k' (List.mem_cons_of_mem _ h)
  | ended x hs =>
    rw [hs] at hm
    obtain ⟨k, earlier, htold, -, -⟩ := hm
    rw [htold] at hsound ⊢
    have hk := hsound k List.mem_cons_self
    exact sound_cons ⟨hk.data, hk.opened, hk.shut⟩ fun k' h =>
      hsound k' (List.mem_cons_of_mem _ h)

/-! ## Courses -/

/-- What the handler has heard, and what it is owed, is told by the fates of the attempts. -/
structure Heard (m : Machine) (moments : List Moment) (history : List Event) : Prop where
  told : callbacks history ++ m.phase.owed = (fates moments).reverse.flatMap Fate.callbacks
  fits : m.phase.stage.Fits (fates moments)
  sound : ∀ k, .connected k ∈ fates moments → Sound m k
  aware : Aware m moments

theorem heard_create (c : SocketConfig) : Heard (create c) [] [] where
  told := rfl
  fits := nofun
  sound := nofun
  aware := ⟨nofun, nofun, nofun⟩

/-- **Every move keeps what was heard in step with the fates.** -/
theorem Heard.step (hm : Heard m moments history) (h : Move m a next events) :
    Heard next (⟨m, a⟩ :: moments) (history ++ events) := by
  obtain ⟨n, hnews, hpassage, howed⟩ := telling_of_move h
  refine ⟨?_, hpassage.fits hnews hm.fits hm.sound, fun k hk => ?_, hm.aware.step h⟩
  · rw [hpassage.callbacks_fates hnews hm.fits, ← hm.told, callbacks_append, List.append_assoc,
      howed, List.append_assoc]
  · exact (hpassage.sound hnews hm.fits hm.aware hm.sound k hk).step h

end Machine

open Machine

variable {c : SocketConfig} {m : Machine} {moments : List Moment} {history : List Event}

theorem Course.heard (h : Course c m moments history) : Heard m moments history := by
  induction h with
  | create => exact heard_create c
  | step _ hstep ih => exact ih.step (move_of_step hstep)

/-- **The handler hears of one connection after the other**: of its
opening, its data and its end, and of an attempt that fails. Every history
has a course that says what became of the attempts. Whatever is not the
latest is a connection that was opened and has ended, so an attempt that
fails is the last thing to be heard of, and a connection whose opening is
not heard of is the last one. A connection is opened unless the client was
closed or let go of before. What the worker has in hand is heard next, and
once it is over nothing is left to be heard. -/
theorem handler_hears_connections (h : Run c m history) :
    (∃ moments, Course c m moments history) ∧
    ∀ moments, Course c m moments history →
      callbacks history ++ m.phase.owed = (fates moments).reverse.flatMap Fate.callbacks ∧
      (∀ f ∈ (fates moments).tail, f.isComplete = true) ∧
      (∀ k, .connected k ∈ fates moments →
        (∀ frame ∈ k.data, frame.isData = true) ∧ k.opened = !k.late) ∧
      (m.phase.isOver = true →
        m.phase.owed = [] ∧ ∀ f ∈ fates moments, f.isEnded = true) := by
  refine ⟨h.exists_course, fun moments hcourse => ?_⟩
  have hm := hcourse.heard
  refine ⟨hm.told, hm.fits.tail, fun k hk => ⟨(hm.sound k hk).data, (hm.sound k hk).opened⟩,
    fun ho => ⟨Phase.owed_of_isOver ho, hm.fits.ended ?_⟩⟩
  rw [Phase.stage_of_isOver ho]
  nofun

/-- The first connection gets a frame and gives way to a reconnect, the
second breaks while another reconnect is pending, and the third attempt
comes to nothing. -/
def threeAttempts : List Action :=
  [.start, .work .advance, .work .advance, .work .connectionMade, .work .advance, .work .advance,
    .work .advance, .work (.frameArrived (.text "hello")), .work .advance, .ask (.reconnect none),
    .post (.reconnect none), .work (.commandTaken none), .work .advance, .work .advance,
    .work .advance, .work .advance, .work .connectionMade, .work .advance, .work .advance,
    .work .advance, .ask (.reconnect none), .post (.reconnect none),
    .work (.connectionBroken .transport), .work .advance, .work .advance, .work .advance,
    .work .advance, .work .advance, .work (.connectionFailed .transport), .work .advance,
    .work .advance, .work .advance]

theorem three_attempts_are_heard : ∃ m moments history,
    Course (.ofUrl "ws://a") m moments history ∧ m.phase = .gone ∧
      fates moments =
        [.failed .transport,
          .connected ⟨true, false, [], some (.failed .transport)⟩,
          .connected ⟨true, false, [.text "hello"], some .reconnecting⟩] ∧
      callbacks history =
        [.opened, .message (.text "hello"), .closed (some 1000) "",
          .opened, .error .transport, .closed none "", .error .transport] := by
  have hlater : ∃ m history,
      (create (.ofUrl "ws://a")).steps threeAttempts = some (m, history) ∧ m.phase = .gone :=
    ⟨_, _, rfl, rfl⟩
  obtain ⟨m, history, hsteps, hgone⟩ := hlater
  have hcourse := Course.create.steps hsteps
  have hfates : fates ((create (.ofUrl "ws://a")).along threeAttempts []) = _ := rfl
  obtain ⟨-, hall⟩ := handler_hears_connections hcourse.run
  obtain ⟨hheard, -, -, hover⟩ := hall _ hcourse
  rw [(hover (by rw [hgone]; rfl)).1, List.append_nil, hfates] at hheard
  exact ⟨m, _, history, hcourse, hgone, hfates, hheard⟩

end StreamFinder.Socket
