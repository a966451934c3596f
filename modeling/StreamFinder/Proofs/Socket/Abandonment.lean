import StreamFinder.Proofs.Socket.Shutdown
import StreamFinder.Socket.Course
/-!
# Reconnects that are given up

Closing wins over a pending reconnect, and only an attempt takes the flag
of a pending reconnect down. So a client that was closed while a reconnect
was pending says for good that one is (`Abandonment`). There is one
exception: a reconnect whose command finds no worker is taken back, and
the flag with it. A client that ends in any other way has none pending.
-/

namespace StreamFinder.Socket

/-- Whether an open client is closed or let go of while a reconnect is pending. -/
def Moment.abandons (m : Moment) : Bool :=
  m.shutsDown && m.machine.state = .opened && m.machine.pending

namespace Machine

variable {m next : Machine} {a : Action} {moments : List Moment} {history events : List Event}

/-! ## The flag of a client that shuts down -/

/-- In a client that shuts down, the flag comes down only with a reconnect
that is taken back. -/
theorem pending_of_shuttingDown (h : Move m a next events) (hs : m.state.isShuttingDown = true)
    (hp : m.pending = true) : next.pending = true ∨ .undelivered .reconnect ∈ events := by
  cases h with
  | setOut _ hs' => rw [hs] at hs'; cases hs'
  | admitReconnect => exact .inl rfl
  | @bounce call =>
    cases call with
    | reconnect => exact .inr (List.mem_singleton_self _)
    | _ => exact .inl hp
  | _ => exact .inl hp

/-- A reconnect finds nobody to take it only where the worker is gone, and
then the flag is taken down. -/
theorem unasked_of_undelivered (h : Move m a next events)
    (hu : .undelivered .reconnect ∈ events) : next.phase = .gone ∧ next.pending = false := by
  cases h with
  | turn _ ht => cases ht <;> simp at hu
  | @bounce call _ hp =>
    cases call with
    | reconnect => exact ⟨hp, rfl⟩
    | _ => cases List.mem_singleton.1 hu
  | _ => simp at hu

/-! ## What was given up -/

/-- What the flag says of a client that shuts down. -/
structure Abandonment (m : Machine) (moments : List Moment) (history : List Event) : Prop where
  asked : m.pending = true → m.state = .opened ∨ m.state.isShuttingDown = true
  abandoned : m.pending = true → m.state.isShuttingDown = true →
    moments.any Moment.abandons = true
  kept : moments.any Moment.abandons = true →
    m.state.isShuttingDown = true ∧ (m.pending = true ∨ .undelivered .reconnect ∈ history)
  takenBack : .undelivered .reconnect ∈ history → m.phase = .gone ∧ m.pending = false

theorem abandonment_create (c : SocketConfig) : Abandonment (create c) [] [] where
  asked := nofun
  abandoned := nofun
  kept := nofun
  takenBack := nofun

namespace Abandonment

theorem asked_step (hm : Abandonment m moments history) (h : Move m a next events)
    (hp : next.pending = true) : next.state = .opened ∨ next.state.isShuttingDown = true := by
  cases h with
  | setOut => cases hp
  | mark => exact .inl rfl
  | admitReconnect _ _ ho => exact .inl ho
  | enough | stop | closeIdle | admitClose | dropRunning => exact .inr rfl
  | bounce =>
    have hpending := pending_of_takeBack _ _ hp
    rw [takeBack_state]
    exact hm.asked hpending
  | _ => exact hm.asked hp

/-- A request to close, or the user letting go, gives up what is pending. -/
theorem abandons_of_asked (hm : Abandonment m moments history) (hp : m.pending = true)
    (ha : (⟨m, a⟩ : Moment).shutsDown = true) :
    ((⟨m, a⟩ : Moment) :: moments).any Moment.abandons = true := by
  rw [List.any_cons, Bool.or_eq_true]
  rcases hm.asked hp with ho | hs
  · left
    unfold Moment.abandons
    rw [ha, ho, hp]
    rfl
  · exact .inr (hm.abandoned hp hs)

theorem abandoned_step (hm : Abandonment m moments history) (hcoherent : m.Coherent)
    (h : Move m a next events) (hp : next.pending = true)
    (hs : next.state.isShuttingDown = true) :
    ((⟨m, a⟩ : Moment) :: moments).any Moment.abandons = true := by
  have keep : m.pending = true → m.state.isShuttingDown = true →
      ((⟨m, a⟩ : Moment) :: moments).any Moment.abandons = true := fun hp hs => by
    rw [List.any_cons, hm.abandoned hp hs, Bool.or_true]
  cases h with
  | setOut => cases hp
  | mark => cases hs
  | admitReconnect _ _ ho =>
    have hs : m.state.isShuttingDown = true := hs
    rw [ho] at hs
    cases hs
  | enough _ he =>
    refine keep hp (he.resolve_left fun hpending => ?_)
    rw [hpending] at hp
    cases hp
  | stop hphase =>
    have ho := hcoherent.state_ne_opened (hphase ▸ rfl) (hphase ▸ nofun)
    exact keep hp ((hm.asked hp).resolve_left ho)
  | closeIdle _ _ _ hi =>
    have ho : m.state ≠ .opened := fun ho => by cases hi.symm.trans ho
    exact keep hp ((hm.asked hp).resolve_left ho)
  | admitClose | dropRunning => exact hm.abandons_of_asked hp rfl
  | bounce =>
    have hpending := pending_of_takeBack _ _ hp
    rw [takeBack_state] at hs
    exact keep hpending hs
  | _ => exact keep hp hs

/-- A client that is closed or let go of while it is open shuts down, and its flag stays. -/
theorem kept_of_abandons (hcoherent : m.Coherent) (h : Move m a next events)
    (ha : (⟨m, a⟩ : Moment).abandons = true) :
    next.state.isShuttingDown = true ∧ next.pending = true := by
  simp only [Moment.abandons, Bool.and_eq_true, decide_eq_true_eq] at ha
  obtain ⟨⟨hshut, ho⟩, hp⟩ := ha
  cases h with
  | admitClose | dropRunning => exact ⟨rfl, hp⟩
  | refuseClose _ _ _ hc => cases ho.symm.trans hc
  | closeIdle _ _ _ hi => cases ho.symm.trans hi
  | dropUnstarted _ hphase | dropGone _ hphase =>
    exact absurd ho (hcoherent.state_ne_opened (hphase ▸ rfl) (hphase ▸ nofun))
  | _ => cases hshut

theorem kept_step (hm : Abandonment m moments history) (hcoherent : m.Coherent)
    (h : Move m a next events) (ha : ((⟨m, a⟩ : Moment) :: moments).any Moment.abandons = true) :
    next.state.isShuttingDown = true ∧
      (next.pending = true ∨ .undelivered .reconnect ∈ history ++ events) := by
  rw [List.any_cons, Bool.or_eq_true] at ha
  rcases ha with ha | ha
  · obtain ⟨hs, hp⟩ := kept_of_abandons hcoherent h ha
    exact ⟨hs, .inl hp⟩
  · obtain ⟨hs, hp | hu⟩ := hm.kept ha
    · exact ⟨shuttingDown_step hs h,
        (pending_of_shuttingDown h hs hp).imp_right (List.mem_append_right history)⟩
    · exact ⟨shuttingDown_step hs h, .inr (List.mem_append_left events hu)⟩

theorem takenBack_step (hm : Abandonment m moments history) (hcoherent : m.Coherent)
    (h : Move m a next events) (hu : .undelivered .reconnect ∈ history ++ events) :
    next.phase = .gone ∧ next.pending = false := by
  rcases List.mem_append.1 hu with hu | hu
  · obtain ⟨hg, hp⟩ := hm.takenBack hu
    refine ⟨gone_of_move h hg, Bool.eq_false_iff.2 fun hnp => ?_⟩
    have hstill := hcoherent.still_of_gone h hg
    rw [(pending_of_move h hstill.2 hnp).1] at hp
    cases hp
  · exact unasked_of_undelivered h hu

theorem step (hm : Abandonment m moments history) (hcoherent : m.Coherent)
    (h : Move m a next events) : Abandonment next (⟨m, a⟩ :: moments) (history ++ events) where
  asked := hm.asked_step h
  abandoned := hm.abandoned_step hcoherent h
  kept := hm.kept_step hcoherent h
  takenBack := hm.takenBack_step hcoherent h

end Abandonment

end Machine

open Machine

variable {c : SocketConfig} {m : Machine} {moments : List Moment} {history : List Event}

theorem Course.abandonment (h : Course c m moments history) : Abandonment m moments history := by
  induction h with
  | create => exact abandonment_create c
  | step hcourse hstep ih => exact ih.step hcourse.run.coherent (move_of_step hstep)

/-- **A closed client has a reconnect pending just if one was given up.**
An open client was closed or let go of while it was pending, and no
command of a reconnect has found the worker gone since. -/
theorem closed_client_asks_for_what_was_abandoned (h : Run c m history)
    (hs : m.state = .closed) :
    (∃ moments, Course c m moments history) ∧
    ∀ moments, Course c m moments history →
      (m.pending = true ↔
        moments.any Moment.abandons = true ∧ .undelivered .reconnect ∉ history) := by
  refine ⟨h.exists_course, fun moments hcourse => ?_⟩
  have hm := hcourse.abandonment
  constructor
  · intro hp
    refine ⟨hm.abandoned hp (hs ▸ rfl), fun hu => ?_⟩
    rw [(hm.takenBack hu).2] at hp
    cases hp
  · rintro ⟨ha, hu⟩
    exact (hm.kept ha).2.resolve_right hu

/-- A reconnect is let in, and the client is closed before the command is
queued. The worker leaves without another attempt. -/
def abandoned : List Action :=
  welcomed ++ [.ask (.reconnect none), .ask (.close closeNormal ""),
    .post (.close closeNormal ""), .work (.commandTaken none), .work .advance, .work .advance,
    .work .advance, .work .advance]

/-- The flag stays up until the command of the reconnect finds nobody. -/
theorem abandoned_reconnect_is_taken_back : ∃ m history next,
    Run (.ofUrl "ws://a") m history ∧ m.state = .closed ∧ m.phase = .gone ∧ m.pending = true ∧
      m.step (.post (.reconnect none)) = some (next, [.undelivered .reconnect]) ∧
      next.state = .closed ∧ next.pending = false := by
  have hlater : ∃ m history next, (create (.ofUrl "ws://a")).steps abandoned = some (m, history) ∧
      .undelivered .reconnect ∉ history ∧ m.state = .closed ∧ m.phase = .gone ∧
      m.step (.post (.reconnect none)) = some (next, [.undelivered .reconnect]) ∧
      next.state = .closed := ⟨_, _, _, rfl, by decide, rfl, rfl, rfl, rfl⟩
  obtain ⟨m, history, next, hsteps, hnone, hclosed, hgone, hpost, hnext⟩ := hlater
  have hcourse := Course.create.steps hsteps
  have habandons :
      ((create (.ofUrl "ws://a")).along abandoned []).any Moment.abandons = true := rfl
  obtain ⟨-, hkept⟩ := closed_client_asks_for_what_was_abandoned hcourse.run hclosed
  have hlast := hcourse.step hpost
  obtain ⟨-, htaken⟩ := closed_client_asks_for_what_was_abandoned hlast.run hnext
  refine ⟨m, history, next, hcourse.run, hclosed, hgone, (hkept _ hcourse).2 ⟨habandons, hnone⟩,
    hpost, hnext, Bool.eq_false_iff.2 fun hp => ((htaken _ hlast).1 hp).2 ?_⟩
  exact List.mem_append_right history (List.mem_singleton_self _)

/-- A reconnect is let in, the client is closed, and both commands are
queued, the one to close before the other. -/
def closedWhilePending : List Action :=
  welcomed ++ [.ask (.reconnect none), .ask (.close closeNormal ""),
    .post (.close closeNormal ""), .post (.reconnect none), .work (.commandTaken none),
    .work .advance, .work .advance, .work .advance, .work .advance]

/-- A closed client may say that a reconnect is pending, although its
worker is gone and no call is under way. -/
theorem closed_client_is_pending : ∃ m history,
    Run (.ofUrl "ws://a") m history ∧ m.state = .closed ∧ m.phase = .gone ∧ m.calls = [] ∧
      m.pending = true :=
  ⟨_, _,
    Run.create.steps (show (create (.ofUrl "ws://a")).steps closedWhilePending = some _ from rfl),
    rfl, rfl, rfl, rfl⟩

end StreamFinder.Socket
