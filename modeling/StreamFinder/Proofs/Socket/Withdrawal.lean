import StreamFinder.Proofs.Socket.Attempt
/-!
# Reconnects that are taken back

A reconnect is let in under the lock of the state, and queued afterwards.
In between, the flag and the URL are there for everybody to see, and the
worker acts on the flag alone when a connection ends. A request that finds
nobody to take its command is refused then, and what it wrote is taken
back. This file says what may have come of it: either the worker was gone
with the request still due, and then nobody has connected for it and no
other reconnect was let in since, or it was served before the worker went,
and the next attempt went where the request said (`outcome_of_due`).
-/

namespace StreamFinder.Socket

namespace Machine

/-- Whether a reconnect to the URL is what the worker is to serve next. -/
def IsDue (m : Machine) (url : String) : Prop :=
  m.url = url ∧ (m.pending = true ∨ m.phase = .readying)

variable {m next later : Machine} {a : Action} {actions : List Action} {events : List Event}
variable {url : String}

/-! ## What becomes of a request that is due -/

/-- A request that is due stays so until an attempt begins, which goes
where it says, and no other request is let in before. -/
theorem Coherent.due_of_move (hm : m.Coherent) (h : Move m a next events) (hd : m.IsDue url)
    (hg : m.phase ≠ .gone) :
    dials events = [url] ∨ dials events = [] ∧ reconnects events = [] ∧ next.IsDue url := by
  obtain ⟨hurl, hdue⟩ := hd
  have hleft := dialsLeft_of_move h
  cases effect_of_move h with
  | setOut => exact .inr ⟨rfl, rfl, hurl, .inr rfl⟩
  | dial => exact .inl (congrArg (fun url => [url]) hurl)
  | letIn _ ho hp =>
    rcases hdue with hdue | hdue
    · rw [hp] at hdue
      cases hdue
    · exact absurd ho (hm.state_ne_opened (hdue ▸ rfl) (hdue ▸ nofun))
  | other ha hd hr hsame =>
    obtain ⟨hpending, hsameUrl⟩ := hsame hg
    refine .inr ⟨hd, hr, hsameUrl.trans hurl, hdue.imp (hpending.trans ·) fun hp => ?_⟩
    -- The attempt that was announced is still to begin.
    rw [ha, hd, hp] at hleft
    cases hnext : next.phase with
    | readying => rfl
    | _ => rw [hnext] at hleft; cases hleft

/-- Whatever happens after a request was let in, the worker serves it before
anything else, or nothing is served any more. -/
theorem Coherent.outcome_of_due (hm : m.Coherent) (hd : m.IsDue url ∨ m.phase = .gone)
    (h : m.steps actions = some (later, events)) :
    (dials events).head? = some url ∨ dials events = [] ∧ reconnects events = [] := by
  induction actions generalizing m events with
  | nil =>
    cases h
    exact .inr ⟨rfl, rfl⟩
  | cons a rest ih =>
    obtain ⟨next, seen, more, hstep, hrest, rfl⟩ := steps_cons h
    have hmove := move_of_step hstep
    have hnext := hm.step hmove
    rw [dials_append, reconnects_append]
    by_cases hg : m.phase = .gone
    · obtain ⟨hdials, hreconnects⟩ := hm.still_of_gone hmove hg
      rw [hdials, hreconnects]
      exact ih hnext (.inr (gone_of_move hmove hg)) hrest
    · rcases hm.due_of_move hmove (hd.resolve_right hg) hg with hdial | ⟨hdials, hreconnects, hdue⟩
      · rw [hdial]
        exact .inl rfl
      · rw [hdials, hreconnects]
        exact ih hnext (.inl hdue) hrest

/-! ## The URL -/

/-- The URL is written when a reconnect is let in and when one is taken back. -/
theorem url_of_move (h : Move m a next events) (hr : reconnects events = [])
    (hu : .undelivered .reconnect ∉ events) : next.url = m.url := by
  cases h with
  | admitReconnect => cases hr
  | @bounce call =>
    cases call with
    | reconnect => exact absurd (List.mem_singleton_self _) hu
    | _ => rfl
  | _ => rfl

theorem url_of_steps (h : m.steps actions = some (later, events)) (hr : reconnects events = [])
    (hu : .undelivered .reconnect ∉ events) : later.url = m.url := by
  induction actions generalizing m events with
  | nil =>
    cases h
    rfl
  | cons a rest ih =>
    obtain ⟨next, seen, more, hstep, hrest, rfl⟩ := steps_cons h
    rw [reconnects_append, List.append_eq_nil_iff] at hr
    rw [List.mem_append, not_or] at hu
    exact (ih hrest hr.2 hu.2).trans (url_of_move (move_of_step hstep) hr.1 hu.1)

/-! ## The two steps of a request -/

/-- A request for a reconnect that is not refused outright is due. -/
theorem due_of_admitted {url : Option String}
    (h : Move m (.ask (.reconnect url)) next events)
    (ha : (Request.reconnect url).answer events = .ok true) :
    next.IsDue (url.getD m.url) ∧ m.pending = false := by
  cases h with
  | refuseReconnect => cases ha
  | admitReconnect _ _ _ hp => exact ⟨⟨rfl, .inl rfl⟩, hp⟩

/-- A reconnect that is refused when it is to be queued is taken back. -/
theorem takenBack_of_refused {asked : List Event} {url previous : Option String}
    (h : Move m (.post (.reconnect previous)) next events)
    (ha : (Request.reconnect url).answer asked = .ok true)
    (hr : (Request.reconnect url).answer (asked ++ events) = .ok false) :
    next.phase = .gone ∧ next.pending = false ∧ next.url = previous.getD m.url := by
  cases h with
  | bounce _ hp => exact ⟨hp, rfl, rfl⟩
  | queue =>
    have hsame : (asked ++ [Event.queued (Call.reconnect previous).command]).any Event.isRefusal =
        asked.any Event.isRefusal := by
      rw [List.any_append]
      exact Bool.or_false _
    unfold Request.answer at ha hr
    rw [hsame, ha] at hr
    cases hr

end Machine

open Machine

variable {c : SocketConfig} {m₀ m₁ : Machine} {before asked : List Event} {url : Option String}

/-- **A reconnect that is refused is undone, or it was served all the same.**
One that is refused outright changes nothing. One that is refused because
its command finds no worker leaves the flag down, as it was, and either
nobody has connected for it, no other reconnect was let in since, and the
URL is the one before, unless another reconnect was taken back as well;
or the first attempt since went where it had asked for. -/
theorem refused_reconnect_undone_or_served (h : Run c m₀ before)
    (hask : m₀.step (.ask (.reconnect url)) = some (m₁, asked)) :
    ((Request.reconnect url).answer asked = .ok false → m₁ = m₀) ∧
    ∀ (actions : List Action) (m m₂ : Machine) (between posted : List Event),
      (Request.reconnect url).answer asked = .ok true → m₁.steps actions = some (m, between) →
      m.step (.post (.reconnect (url.map fun _ => m₀.url))) = some (m₂, posted) →
      (Request.reconnect url).answer (asked ++ posted) = .ok false →
      m₂.phase = .gone ∧ m₂.pending = m₀.pending ∧
        ((dials between = [] ∧ reconnects between = [] ∧
            (.undelivered .reconnect ∉ between → m₂.url = m₀.url)) ∨
          (dials between).head? = some (url.getD m₀.url)) := by
  have hmove := move_of_step hask
  constructor
  · intro ha
    cases hmove with
    | refuseReconnect => rfl
    | admitReconnect => cases ha
  · intro actions m m₂ between posted ha hsteps hpost hr
    obtain ⟨hdue, hpending⟩ := due_of_admitted hmove ha
    obtain ⟨hgone, hdown, hurl⟩ := takenBack_of_refused (move_of_step hpost) ha hr
    refine ⟨hgone, hdown.trans hpending.symm, ?_⟩
    rcases (h.coherent.step hmove).outcome_of_due (.inl hdue) hsteps with hserved | ⟨hd, hre⟩
    · exact .inr hserved
    · refine .inl ⟨hd, hre, fun hu => ?_⟩
      have hsame : m.url = url.getD m₀.url := (url_of_steps hsteps hre hu).trans hdue.1
      rw [hurl, hsame]
      cases url <;> rfl

/-- The client is closed before the command is queued. The worker leaves
without another attempt, and the URL is put back. -/
theorem overtaken_reconnect_is_undone : ∃ m₀ m₁ m m₂ before between,
    Run (.ofUrl "ws://a") m₀ before ∧
      m₀.step (.ask (.reconnect (some "ws://b"))) =
        some (m₁, [.admitted (.reconnect (some "ws://b"))]) ∧
      m₁.steps [.ask (.close closeNormal ""), .post (.close closeNormal ""),
        .work (.commandTaken none), .work .advance, .work .advance, .work .advance,
        .work .advance] = some (m, between) ∧ m.url = "ws://b" ∧
      m.step (.post (.reconnect (some "ws://a"))) = some (m₂, [.undelivered .reconnect]) ∧
      dials between = [] ∧ m₂.pending = false ∧ m₂.url = "ws://a" := by
  have hlater : ∃ m₀ m₁ m m₂ before between,
      (create (.ofUrl "ws://a")).steps welcomed = some (m₀, before) ∧
      m₀.step (.ask (.reconnect (some "ws://b"))) =
        some (m₁, [.admitted (.reconnect (some "ws://b"))]) ∧
      m₁.steps [.ask (.close closeNormal ""), .post (.close closeNormal ""),
        .work (.commandTaken none), .work .advance, .work .advance, .work .advance,
        .work .advance] = some (m, between) ∧ m.url = "ws://b" ∧
      m.step (.post (.reconnect (some "ws://a"))) = some (m₂, [.undelivered .reconnect]) ∧
      m₀.url = "ws://a" ∧ m₀.pending = false ∧ dials between = [] ∧
      .undelivered .reconnect ∉ between :=
    ⟨_, _, _, _, _, _, rfl, rfl, rfl, rfl, rfl, rfl, rfl, rfl, by decide⟩
  obtain ⟨m₀, m₁, m, m₂, before, between, hbefore, hask, hsteps, hmoved, hpost, hurl, hpending,
    hdials, hnone⟩ := hlater
  have hrun : Run (.ofUrl "ws://a") m₀ before := Run.create.steps hbefore
  obtain ⟨-, hundone⟩ := refused_reconnect_undone_or_served hrun hask
  obtain ⟨-, hdown, hcases⟩ :=
    hundone _ m m₂ between [.undelivered .reconnect] rfl hsteps (hurl ▸ hpost) rfl
  refine ⟨m₀, m₁, m, m₂, before, between, hrun, hask, hsteps, hmoved, hpost, hdials,
    hdown.trans hpending, ?_⟩
  rcases hcases with ⟨-, -, hback⟩ | hserved
  · exact (hback hnone).trans hurl
  · rw [hdials] at hserved
    cases hserved

/-- The peer vanishes before the command is queued, and the worker serves
the request by the flag. Another reconnect is granted on the new
connection, and its attempt fails. When the first request is refused, it
has had its attempt, and it puts the URL back over that of the other one. -/
theorem served_reconnect_is_refused :
    ∃ m₀ m₁ reconnected granted stranded m₂ before served answered failed,
    Run (.ofUrl "ws://a") m₀ before ∧
      m₀.step (.ask (.reconnect (some "ws://b"))) =
        some (m₁, [.admitted (.reconnect (some "ws://b"))]) ∧
      m₁.steps [.work .peerVanished, .work .advance, .work .advance, .work .advance,
        .work .advance, .work .connectionMade, .work .advance, .work .advance, .work .advance] =
        some (reconnected, served) ∧ dials served = ["ws://b"] ∧
      reconnected.steps [.ask (.reconnect (some "ws://c")), .post (.reconnect (some "ws://b"))] =
        some (granted, answered) ∧
      (Request.reconnect (some "ws://c")).answer answered = .ok true ∧
      granted.steps [.work (.commandTaken none), .work .advance, .work .advance, .work .advance,
        .work .advance, .work (.connectionFailed (.io "refused")), .work .advance, .work .advance,
        .work .advance] = some (stranded, failed) ∧ stranded.url = "ws://c" ∧
      stranded.step (.post (.reconnect (some "ws://a"))) =
        some (m₂, [.undelivered .reconnect]) ∧
      (Request.reconnect (some "ws://b")).answer
        [.admitted (.reconnect (some "ws://b")), .undelivered .reconnect] = .ok false ∧
      m₂.url = "ws://a" :=
  ⟨_, _, _, _, _, _, _, _, _, _,
    Run.create.steps (show (create (.ofUrl "ws://a")).steps welcomed = some _ from rfl),
    rfl, rfl, rfl, rfl, rfl, rfl, rfl, rfl, rfl, rfl⟩

end StreamFinder.Socket
