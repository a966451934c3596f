import StreamFinder.Proofs.Socket.Move
import StreamFinder.Socket.Course
import StreamFinder.Socket.Rehearsal
/-!
# A rehearsal is a run

A rehearsal has a client of its own, which it brings on by one step or
request after another, and it shows some of what happens. So it is one of
the runs of the client, and what is shown of it is what that run tells,
with some events left out (`perform_is_run`). What holds of all runs holds
of all rehearsals (`perform_obeys`).

In the middle of a rehearsal some events may have happened that nobody has
seen yet: a step of the worker comes with all its events at once, and they
are seen one by one (`InRun`). Only the greeting makes the client go on
while they are, and it comes with the last of them (`opened_of_move`).
-/

namespace StreamFinder.Socket

/-! ## What is shown of a history -/

/-- Whether an event is always seen: what the worker does on its connections,
except for what passes for one of its pings, and each call of a handler
that does anything. -/
def Script.shows (script : Script) (c : SocketConfig) : Event → Bool
  | .dialed _ => true
  | .hungUp _ _ _ => true
  | .handed frame _ => !(c.pingInterval.isSome && frame = .ping [])
  | .called _ => !script.silent
  | _ => false

/-- Some events of a history in their order, with all of those that are always seen. -/
structure Shown (always : Event → Bool) (shown history : List Event) : Prop where
  sublist : shown.Sublist history
  filter_eq : shown.filter always = history.filter always

namespace Shown

variable {always : Event → Bool} {shown history more events : List Event}

theorem append (h : Shown always shown history) (h' : Shown always more events) :
    Shown always (shown ++ more) (history ++ events) where
  sublist := h.sublist.append h'.sublist
  filter_eq := by rw [List.filter_append, List.filter_append, h.filter_eq, h'.filter_eq]

theorem refl (history : List Event) : Shown always history history := ⟨.refl _, rfl⟩

/-- Of events that need not be seen, any may be left out. -/
theorem of_hidden (hhidden : ∀ e ∈ events, always e = false) (h : more.Sublist events) :
    Shown always more events where
  sublist := h
  filter_eq := by
    have hnone : ∀ e ∈ events, ¬always e = true := fun e he => by simp [hhidden e he]
    rw [List.filter_eq_nil_iff.2 hnone, List.filter_eq_nil_iff.2 fun e he => hnone e (h.subset he)]

/-- What is read off the events that are always seen can be read off what is shown. -/
theorem filterMap_eq {α : Type} (h : Shown always shown history) {f : Event → Option α}
    (hf : ∀ e, always e = false → f e = none) : shown.filterMap f = history.filterMap f := by
  have hfilter (events : List Event) : (events.filter always).filterMap f = events.filterMap f := by
    rw [List.filterMap_filter]
    refine congrArg (List.filterMap · events) (funext fun e => ?_)
    split
    · rfl
    · next he => exact (hf e (Bool.eq_false_iff.2 he)).symm
  rw [← hfilter shown, ← hfilter history, h.filter_eq]

/-- **What the laws of histories speak of can be seen**: where the attempts went,
what the handler heard, and the frames that the connections got, unless the
handler does nothing or some of the frames may be pings. -/
theorem reads {script : Script} {c : SocketConfig} (h : Shown (script.shows c) shown history) :
    dials shown = dials history ∧
      (script.silent = false → callbacks shown = callbacks history) ∧
      (c.pingInterval = none → handedFrames shown = handedFrames history) := by
  refine ⟨h.filterMap_eq fun e he => ?_, fun hsilent => h.filterMap_eq fun e he => ?_,
    fun hping => h.filterMap_eq fun e he => ?_⟩
  · cases e with
    | dialed url => cases he
    | _ => rfl
  · cases e with
    | called callback => simp [Script.shows, hsilent] at he
    | _ => rfl
  · cases e with
    | handed frame failure => simp [Script.shows, hping] at he
    | _ => rfl

end Shown

/-! ## Steps and requests as they are made in a rehearsal -/

namespace Machine

variable {m next : Machine} {a : Action} {events : List Event} {request : Request}

theorem config_of_move (h : Move m a next events) : next.config = m.config := by
  cases h with
  | bounce => rw [takeBack_config]
  | _ => rfl

/-- Only by being let go of is a client let go of. -/
theorem dropped_of_other (h : Move m a next events) (ha : a ≠ .drop) :
    next.dropped = m.dropped := by
  cases h with
  | dropUnstarted | dropRunning | dropGone => exact absurd rfl ha
  | bounce => rw [takeBack_dropped]
  | _ => rfl

/-- The worker calls the handler for a new connection in a step of its own. -/
theorem opened_of_move {o : Occurrence} (h : Move m (.work o) next events)
    (ho : .called .opened ∈ events) : events = [.called .opened] ∧ next.phase = .opening := by
  cases h with
  | turn hp hturn =>
    cases hturn with
    | greet => exact ⟨rfl, rfl⟩
    | _ => simp at ho
  | _ => simp at ho

/-- A request is let in or refused. -/
theorem answer_of_ask (h : Move m (.ask request) next events) :
    next.phase = m.phase ∧ (events = [.refused request] ∨ events = [.admitted request]) := by
  cases h <;> simp

/-- One that was let in is queued while there is a worker who could take it. -/
theorem answer_of_post {call : Call} (h : Move m (.post call) next events) :
    next.phase = m.phase ∧ (events = [.queued call.command] ∨
      m.phase = .gone ∧ events = [.undelivered call.command]) := by
  cases h with
  | queue _ _ => exact ⟨rfl, .inl rfl⟩
  | bounce _ hgone => exact ⟨takeBack_phase _ call, .inr ⟨hgone, rfl⟩⟩

/-- Whether a request is let in is not seen, and neither is what becomes of it. -/
theorem hidden_of_user (h : Move m a next events)
    (ha : (∃ request, a = .ask request) ∨ ∃ call, a = .post call) (script : Script)
    (c : SocketConfig) : ∀ e ∈ events, script.shows c e = false := by
  obtain ⟨request, rfl⟩ | ⟨call, rfl⟩ := ha
  · obtain ⟨-, rfl | rfl⟩ := answer_of_ask h <;> simp [Script.shows]
  · obtain ⟨-, rfl | ⟨-, rfl⟩⟩ := answer_of_post h <;> simp [Script.shows]

/-- A whole request is its first part, and the queueing if there is something to queue. -/
theorem request_eq (m : Machine) (request : Request) :
    m.request request = m.ask request ∨ ∃ call next more,
      (m.ask request).1.post call = some (next, more) ∧
        m.request request = (next, (m.ask request).2 ++ more) := by
  unfold Machine.request
  generalize m.ask request = asked
  dsimp only
  split
  · exact .inl rfl
  · next call _ _ =>
    split
    · exact .inl rfl
    · next posted more hpost => exact .inr ⟨call, posted, more, hpost, rfl⟩

/-- What a whole request does to a client, and what is seen of it. -/
structure Answers (m : Machine) (request : Request) (next : Machine) (events : List Event) :
    Prop where
  phase_eq : next.phase = m.phase
  dropped_eq : next.dropped = m.dropped
  run : ∀ {c history}, Run c m history → Run c next (history ++ events)
  hidden : ∀ (script : Script) (c : SocketConfig), ∀ e ∈ events, script.shows c e = false
  refused : m.phase ≠ .gone → events.any Event.isRefusal = true → .refused request ∈ events

/-- **A whole request is one step or two.** -/
theorem answers_request (hd : m.dropped = true → request.isSend = true) :
    Answers m request (m.request request).1 (m.request request).2 := by
  have hask : m.step (.ask request) = some (m.ask request) := by
    cases hdropped : m.dropped with
    | false => simp [step, hdropped]
    | true => simp [step, hdropped, hd hdropped]
  have hmove : Move m (.ask request) (m.ask request).1 (m.ask request).2 := move_of_step hask
  obtain ⟨hphase, hevents⟩ := answer_of_ask hmove
  have hdropped := dropped_of_other hmove (by simp)
  have hrefused : (m.ask request).2.any Event.isRefusal = true →
      .refused request ∈ (m.ask request).2 := by
    obtain hevents | hevents := hevents <;> simp [hevents, Event.isRefusal]
  have hhidden := hidden_of_user hmove (.inl ⟨request, rfl⟩)
  obtain heq | ⟨call, next, more, hpost, heq⟩ := request_eq m request
  · rw [heq]
    exact ⟨hphase, hdropped, fun h => h.step hask, hhidden, fun _ => hrefused⟩
  · have hmove := move_of_step (a := .post call) hpost
    obtain ⟨hphase', hevents'⟩ := answer_of_post hmove
    rw [heq]
    refine ⟨hphase'.trans hphase, (dropped_of_other hmove (by simp)).trans hdropped, fun h => ?_,
      fun script c => ?_, fun hg hany => ?_⟩
    · rw [← List.append_assoc]
      exact (h.step hask).step (a := .post call) hpost
    · have hmore := hidden_of_user hmove (.inr ⟨call, rfl⟩) script c
      exact fun e he => (List.mem_append.1 he).elim (hhidden script c e) (hmore e)
    · -- the worker is still there, so the command is queued
      have hqueued : more = [.queued call.command] :=
        hevents'.resolve_right fun hgone => hg (hphase ▸ hgone.1)
      have hany : (m.ask request).2.any Event.isRefusal = true := by
        simpa [hqueued, List.any_append, Event.isRefusal] using hany
      exact List.mem_append_left _ (hrefused hany)

end Machine

theorem Run.config_eq {c : SocketConfig} {m : Machine} {history : List Event}
    (h : Run c m history) : m.config = c := by
  induction h with
  | create => rfl
  | step _ hstep ih => exact (Machine.config_of_move (Machine.move_of_step hstep)).trans ih

/-! ## A rehearsal in the middle of a run -/

open Machine

/-- A rehearsal has come this far: its client has a history, and of that
history was shown what the rehearsal has noted, and `earlier` what was
noted before that. The events `pending` have happened but are yet to be
seen. -/
structure InRun (c : SocketConfig) (script : Script) (dropped : Bool) (earlier pending : List Event)
    (r : Rehearsal) : Prop where
  script_eq : r.script = script
  dropped_eq : r.machine.dropped = dropped
  exists_run : ∃ history, Run c r.machine (history ++ pending) ∧
    Shown (script.shows c) (earlier ++ r.seen.reverse) history

namespace InRun

variable {c : SocketConfig} {script : Script} {dropped : Bool} {earlier pending : List Event}
  {r r' : Rehearsal} {e : Event} {request : Request} {frame : Frame}

/-- Whatever else a rehearsal keeps account of, it is where it was. -/
theorem congr (h : InRun c script dropped earlier pending r) (hmachine : r'.machine = r.machine)
    (hscript : r'.script = r.script) (hseen : r'.seen = r.seen) :
    InRun c script dropped earlier pending r' where
  script_eq := hscript.trans h.script_eq
  dropped_eq := hmachine ▸ h.dropped_eq
  exists_run := by rw [hmachine, hseen]; exact h.exists_run

/-- Where all that has happened was seen, the history is that of the client. -/
theorem iff_of_nil : InRun c script dropped earlier [] r ↔
    r.script = script ∧ r.machine.dropped = dropped ∧ ∃ history, Run c r.machine history ∧
      Shown (script.shows c) (earlier ++ r.seen.reverse) history := by
  refine ⟨fun h => ⟨h.script_eq, h.dropped_eq, ?_⟩, fun ⟨hscript, hdropped, h⟩ =>
    ⟨hscript, hdropped, ?_⟩⟩
  · simpa using h.exists_run
  · simpa using h

theorem create (c : SocketConfig) (script : Script) :
    InRun c script false [] [] (.create c script) where
  script_eq := rfl
  dropped_eq := rfl
  exists_run := ⟨[], .create, .refl []⟩

theorem config_eq (h : InRun c script dropped earlier pending r) : r.machine.config = c := by
  obtain ⟨history, hrun, -⟩ := h.exists_run
  exact hrun.config_eq

/-! ### What is seen -/

theorem sees {noted : List Event} (h : InRun c script dropped earlier (e :: pending) r)
    (hnoted : Shown (script.shows c) noted [e]) :
    InRun c script dropped earlier pending { r with seen := noted.reverse ++ r.seen } where
  script_eq := h.script_eq
  dropped_eq := h.dropped_eq
  exists_run := by
    obtain ⟨history, hrun, hshown⟩ := h.exists_run
    exact ⟨history ++ [e], by simpa using hrun, by simpa using hshown.append hnoted⟩

theorem note (h : InRun c script dropped earlier (e :: pending) r) :
    InRun c script dropped earlier pending (r.note e) :=
  h.sees (.refl [e])

/-- An event may go by unseen, unless it is one of those that are always seen. -/
theorem pass (h : InRun c script dropped earlier (e :: pending) r)
    (hhidden : script.shows c e = false) : InRun c script dropped earlier pending r :=
  h.sees (.of_hidden (by simpa using hhidden) (List.nil_sublist [e]))

/-- The client goes on, and some of what happens is noted, if any of it has to be. -/
theorem goesOn {next : Machine} {events noted : List Event} {dropped' : Bool}
    (h : InRun c script dropped earlier [] r)
    (hrun : ∀ {history}, Run c r.machine history → Run c next (history ++ events))
    (hnoted : Shown (script.shows c) noted events) (hdropped : next.dropped = dropped') :
    InRun c script dropped' earlier []
      { r with machine := next, seen := noted.reverse ++ r.seen } := by
  obtain ⟨hscript, -, history, hhistory, hshown⟩ := iff_of_nil.1 h
  exact iff_of_nil.2 ⟨hscript, hdropped, _, hrun hhistory, by simpa using hshown.append hnoted⟩

/-- A step of which nothing has to be seen. -/
theorem quietStep {a : Action} {next : Machine} {events : List Event}
    (h : InRun c script dropped earlier [] r) (hstep : r.machine.step a = some (next, events))
    (ha : a ≠ .drop) (hhidden : ∀ e ∈ events, script.shows c e = false) :
    InRun c script dropped earlier [] { r with machine := next } :=
  h.goesOn (fun hrun => hrun.step hstep) (.of_hidden hhidden (List.nil_sublist events))
    ((dropped_of_other (move_of_step hstep) ha).trans h.dropped_eq)

/-! ### Requests -/

/-- Nothing is seen of a request itself. -/
theorem ask (h : InRun c script dropped earlier [] r)
    (hd : dropped = true → request.isSend = true) :
    InRun c script dropped earlier [] (r.ask request).2 := by
  have hanswers := answers_request fun hdropped => hd (h.dropped_eq ▸ hdropped)
  exact h.goesOn hanswers.run (.of_hidden (hanswers.hidden script c) (List.nil_sublist _))
    (hanswers.dropped_eq.trans h.dropped_eq)

theorem phase_handlerSends (hg : r.machine.phase ≠ .gone) :
    (r.handlerSends frame).machine.phase ≠ .gone := by
  have hphase : (r.machine.request (.send frame)).1.phase = r.machine.phase :=
    (answers_request fun _ => rfl).phase_eq
  unfold Rehearsal.handlerSends
  dsimp only
  split <;> exact hphase ▸ hg

/-- Of what the handler sends, a refusal is seen. -/
theorem handlerSends (h : InRun c script dropped earlier [] r) (hg : r.machine.phase ≠ .gone) :
    InRun c script dropped earlier [] (r.handlerSends frame) := by
  have hanswers : Answers r.machine (.send frame) _ _ := answers_request fun _ => rfl
  have hasked : InRun c script dropped earlier [] (r.ask (.send frame)).2 := h.ask fun _ => rfl
  unfold Rehearsal.handlerSends
  dsimp only
  split
  · next hany =>
    have hrefused : Shown (script.shows c) [.refused (.send frame)]
        (r.machine.request (.send frame)).2 :=
      .of_hidden (hanswers.hidden script c)
        (List.singleton_sublist.2 (hanswers.refused hg hany))
    exact h.goesOn hanswers.run hrefused (hanswers.dropped_eq.trans h.dropped_eq)
  · exact hasked

theorem greets {greeting : List Frame} (h : InRun c script dropped earlier [] r)
    (hg : r.machine.phase ≠ .gone) :
    InRun c script dropped earlier [] (greeting.foldl Rehearsal.handlerSends r) := by
  induction greeting generalizing r with
  | nil => exact h
  | cons frame greeting ih => exact ih (h.handlerSends hg) (phase_handlerSends hg)

/-! ### The events of a step -/

/-- The handler is called. Where it greets, nothing else waits to be seen. -/
theorem call {callback : Callback}
    (h : InRun c script dropped earlier (.called callback :: pending) r)
    (hopened : callback = .opened → pending = [] ∧ r.machine.phase ≠ .gone) :
    InRun c script dropped earlier pending (r.call callback) := by
  unfold Rehearsal.call
  dsimp only
  split
  · next hsilent => exact h.pass (by simp [Script.shows, ← h.script_eq, hsilent])
  · have hcalled : InRun c script dropped earlier pending
        (if callback = .opened then
          (r.note (.called callback)).script.greeting.foldl Rehearsal.handlerSends
            (r.note (.called callback))
        else r.note (.called callback)) := by
      split
      · next heq =>
        obtain ⟨rfl, hg⟩ := hopened heq
        exact h.note.greets hg
      · exact h.note
    generalize (if callback = .opened then _ else _ : Rehearsal) = greeted at hcalled ⊢
    split
    · exact hcalled.congr rfl rfl rfl
    · exact hcalled

theorem witness (h : InRun c script dropped earlier (e :: pending) r)
    (hopened : e = .called .opened → pending = [] ∧ r.machine.phase ≠ .gone) :
    InRun c script dropped earlier pending (r.witness e) := by
  cases e with
  | called callback => exact h.call fun heq => hopened (heq ▸ rfl)
  | dialed url => exact h.note.congr rfl rfl rfl
  | hungUp code reason failure => exact h.note
  | handed frame failure =>
    unfold Rehearsal.witness
    dsimp only
    split
    · next hping =>
      have hping : (c.pingInterval.isSome && decide (frame = .ping [])) = true :=
        h.config_eq ▸ hping
      exact (h.pass (by rw [Script.shows, hping]; rfl)).congr rfl rfl rfl
    · exact h.note
  | pinged failure => exact (h.pass rfl).congr rfl rfl rfl
  | _ => exact h.pass rfl

/-- Events are seen in their order; the induction is on those that are left. -/
theorem witnesses (h : InRun c script dropped earlier pending r)
    (hopened : .called .opened ∈ pending →
      pending = [.called .opened] ∧ r.machine.phase ≠ .gone) :
    InRun c script dropped earlier [] (pending.foldl Rehearsal.witness r) := by
  induction pending generalizing r with
  | nil => exact h
  | cons e rest ih =>
    refine ih (h.witness fun he => ?_) fun hrest => ?_
    · obtain ⟨heq, hg⟩ := hopened (he ▸ List.mem_cons_self)
      exact ⟨(List.cons.inj heq).2, hg⟩
    · obtain ⟨heq, -⟩ := hopened (.tail _ hrest)
      rw [(List.cons.inj heq).2] at hrest
      cases hrest

/-- **A step of the worker goes on with the run.** -/
theorem occur {o : Occurrence} (h : InRun c script dropped earlier [] r) :
    InRun c script dropped earlier [] (r.occur o) := by
  unfold Rehearsal.occur
  split
  · exact h
  · next machine events hstep =>
    have hmove := move_of_step hstep
    obtain ⟨hscript, hdropped, history, hrun, hshown⟩ := iff_of_nil.1 h
    have hahead : InRun c script dropped earlier events { r with machine := machine } :=
      ⟨hscript, (dropped_of_other hmove (by simp)).trans hdropped, history, hrun.step hstep, hshown⟩
    refine hahead.witnesses fun hopened => ?_
    obtain ⟨hevents, hphase⟩ := opened_of_move hmove hopened
    exact ⟨hevents, fun hg => Phase.noConfusion (hphase.symm.trans hg)⟩

/-! ### The worker by itself -/

theorem reply (h : InRun c script dropped earlier [] r) (hg : r.machine.phase ≠ .gone) :
    InRun c script dropped earlier [] (r.reply frame) := by
  unfold Rehearsal.reply
  split
  · split
    · exact h
    · split
      · exact h.handlerSends hg
      · exact h
  · exact h

theorem settleDial (h : InRun c script dropped earlier [] r) :
    InRun c script dropped earlier [] r.settleDial := by
  unfold Rehearsal.settleDial
  split
  · exact h.occur
  · exact occur (h.congr rfl rfl rfl)

theorem listen (h : InRun c script dropped earlier [] r) (hr : r.listen = some r') :
    InRun c script dropped earlier [] r' := by
  unfold Rehearsal.listen at hr
  split at hr
  · cases hr
    exact occur (h.congr rfl rfl rfl)
  · cases hr
    exact h.occur
  · split at hr
    · cases hr
      exact occur (h.congr rfl rfl rfl)
    · cases hr

theorem goOn (h : InRun c script dropped earlier [] r) (hr : r.goOn = some r') :
    InRun c script dropped earlier [] r' := by
  unfold Rehearsal.goOn at hr
  split at hr
  · cases hr
  · split at hr
    · cases hr
    · cases hr
    · -- an attempt is settled, or has waited too long
      split at hr
      · cases hr
        exact h.settleDial
      · split at hr
        · cases hr
          exact occur (h.congr rfl rfl rfl)
        · cases hr
    · exact h.listen hr
    · next hphase =>
      cases hr
      exact (h.reply (by rw [hphase]; nofun)).occur
    · cases hr
      exact occur (h.congr rfl rfl rfl)
    · cases hr
      exact h.occur

theorem goOnFor (h : InRun c script dropped earlier [] r) (n : Nat) :
    InRun c script dropped earlier [] (Rehearsal.goOnFor n r) := by
  induction n generalizing r with
  | zero => exact h
  | succ n ih =>
    unfold Rehearsal.goOnFor
    split
    · exact h
    · next hr => exact ih (h.goOn hr)

theorem settle (h : InRun c script dropped earlier [] r) :
    InRun c script dropped earlier [] r.settle :=
  h.goOnFor r.steps

/-! ### Time -/

theorem tick (h : InRun c script dropped earlier [] r) :
    InRun c script dropped earlier [] r.tick :=
  settle (h.congr rfl rfl rfl)

theorem passUntil (h : InRun c script dropped earlier [] r) (until? : Rehearsal → Bool) (n : Nat) :
    InRun c script dropped earlier [] (Rehearsal.passUntil until? n r) := by
  induction n generalizing r with
  | zero => exact h
  | succ n ih =>
    unfold Rehearsal.passUntil
    split
    · exact h
    · exact ih h.tick

theorem await (h : InRun c script dropped earlier [] r) (until? : Rehearsal → Bool) (limit : Nat) :
    InRun c script dropped earlier [] (r.await until? limit).2 := by
  unfold Rehearsal.await
  dsimp only
  split
  · exact h
  · exact h.settle.passUntil until? limit

theorem awaitEnd (h : InRun c script dropped earlier [] r) (limit : Nat) :
    InRun c script dropped earlier [] (r.awaitEnd limit).2 :=
  h.await _ limit

/-! ### Cues -/

theorem arrive {o : Occurrence} (h : InRun c script dropped earlier [] r) :
    InRun c script dropped earlier [] (r.arrive o).2 := by
  unfold Rehearsal.arrive
  split
  · exact h.congr rfl rfl rfl
  · exact h

theorem answered (h : InRun c script dropped earlier [] r)
    (hd : dropped = true → request.isSend = true) :
    InRun c script dropped earlier [] (r.answered request).2 := by
  have hasked := h.ask hd
  unfold Rehearsal.answered
  dsimp only
  split <;> exact hasked

theorem start (h : InRun c script dropped earlier [] r) :
    InRun c script dropped earlier [] (r.follow .start).2 := by
  simp only [Rehearsal.follow]
  split
  · next machine hstart =>
    have hstep : r.machine.step .start = some (machine, []) := by rw [Machine.step, hstart]
    have hstarted := h.quietStep hstep (by simp) (List.forall_mem_nil _)
    cases hreturns : machine.step .startReturns with
    | none => exact hstarted
    | some result =>
      obtain ⟨next, events⟩ := result
      have hevents : events = [] := by cases move_of_step hreturns; rfl
      exact hstarted.quietStep hreturns (by simp) (hevents ▸ List.forall_mem_nil _)
  · exact h

mutual

theorem follow {r : Rehearsal} (h : InRun c script false earlier [] r) (cue : Cue) :
    InRun c script false earlier [] (r.follow cue).2 := by
  cases cue with
  | start => exact h.start
  | request request => exact h.answered nofun
  | sendJson value =>
    cases value with
    | none => exact h
    | some value => exact h.answered nofun
  | close code reason limit =>
    have hasked : InRun c script false earlier [] (r.ask (.close code reason)).2 := h.ask nofun
    simp only [Rehearsal.follow]
    split
    · exact hasked
    · exact hasked.awaitEnd _
  | wait limit =>
    simp only [Rehearsal.follow]
    split
    · exact h
    · exact h.awaitEnd _
  | peerSends frame => exact h.arrive
  | peerFails reason => exact h.arrive
  | peerVanishes => exact h.arrive
  | awaitPings count => exact h.await _ _
  | countPings after => exact h.await _ _
  | awaitExit =>
    simp only [Rehearsal.follow]
    split
    · exact h
    · exact h.awaitEnd _
  | together cues => exact followAll h cues
  | _ => exact h.congr rfl rfl rfl

theorem followAll {r : Rehearsal} (h : InRun c script false earlier [] r) (cues : List Cue) :
    InRun c script false earlier [] (r.followAll cues).2 := by
  cases cues with
  | nil => exact h
  | cons cue cues => exact followAll (follow h cue) cues

end

/-- What is taken out of a rehearsal was shown before what comes. -/
theorem takeSeen (h : InRun c script dropped earlier [] r) :
    InRun c script dropped (earlier ++ r.takeSeen.1) [] r.takeSeen.2 := by
  obtain ⟨hscript, hdropped, history, hrun, hshown⟩ := iff_of_nil.1 h
  exact iff_of_nil.2 ⟨hscript, hdropped, history, hrun, by simpa [Rehearsal.takeSeen] using hshown⟩

/-- **A cue goes on with the run.** -/
theorem play (h : InRun c script false earlier [] r) (cue : Cue) :
    InRun c script false (earlier ++ (r.play cue).2.1) [] (r.play cue).2.2 :=
  (h.follow cue).settle.takeSeen

theorem drop {next : Machine} {events : List Event} (h : InRun c script dropped earlier [] r)
    (hstep : r.machine.step .drop = some (next, events)) :
    InRun c script true earlier [] { r with machine := next } := by
  obtain ⟨rfl, hdropped⟩ : events = [] ∧ next.dropped = true := by
    cases move_of_step hstep <;> exact ⟨rfl, rfl⟩
  exact h.goesOn (fun hrun => hrun.step hstep) (.refl []) hdropped

/-- Whatever was shown is told by a history. -/
theorem exists_shown (h : InRun c script dropped earlier [] r) : ∃ machine history,
    Run c machine history ∧ Shown (script.shows c) (earlier ++ r.takeSeen.1) history := by
  obtain ⟨-, -, history, hrun, hshown⟩ := iff_of_nil.1 h
  exact ⟨r.machine, history, hrun, hshown⟩

/-- **The client is let go of in a run, too.** A worker that there is has to be told to close. -/
theorem finish (h : InRun c script false earlier [] r) (late : Frame) : ∃ machine history,
    Run c machine history ∧ Shown (script.shows c) (earlier ++ (r.finish late).2) history := by
  unfold Rehearsal.finish
  dsimp only
  split
  · exact exists_shown (answered (settle (h.congr rfl rfl rfl)) nofun)
  · next hdrop =>
    have hdropped := h.drop hdrop
    split
    · exact exists_shown (answered (settle (hdropped.congr rfl rfl rfl)) fun _ => rfl)
    · next machine _ _ call _ _ =>
      cases hpost : machine.post call with
      | none => exact exists_shown (answered (settle (hdropped.congr rfl rfl rfl)) fun _ => rfl)
      | some result =>
        obtain ⟨next, events⟩ := result
        have hstep : machine.step (.post call) = some (next, events) := hpost
        have hposted := hdropped.quietStep hstep (by simp)
          (hidden_of_user (move_of_step hstep) (.inr ⟨call, rfl⟩) script c)
        exact exists_shown (answered (settle (hposted.congr rfl rfl rfl)) fun _ => rfl)

end InRun

/-! ## Whole rehearsals -/

namespace Rehearsal

variable {c : SocketConfig} {script : Script} {earlier : List Event} {r : Rehearsal}

/-- The cues are played one after the other. -/
def perform (r : Rehearsal) : List Cue → List Event × Rehearsal
  | [] => ([], r)
  | cue :: cues =>
    let (_, shown, r) := r.play cue
    let (more, r) := r.perform cues
    (shown ++ more, r)

theorem inRun_perform (h : InRun c script false earlier [] r) (cues : List Cue) :
    InRun c script false (earlier ++ (r.perform cues).1) [] (r.perform cues).2 := by
  induction cues generalizing earlier r with
  | nil => simpa [perform] using h
  | cons cue cues ih => simpa [perform] using ih (h.play cue)

/-- Between two cues there is nothing left to show. -/
theorem seen_perform (h : r.seen = []) (cues : List Cue) : (r.perform cues).2.seen = [] := by
  induction cues generalizing r with
  | nil => exact h
  | cons cue cues ih => exact ih rfl

/-- **A rehearsal is a run.** After any cues, whatever the script, the client
is where one of its runs takes it, and what was shown is told by the
history of that run. -/
theorem perform_is_run (c : SocketConfig) (script : Script) (cues : List Cue) :
    let (shown, r) := (create c script).perform cues
    ∃ history, Run c r.machine history ∧ Shown (script.shows c) shown history := by
  have hrun := inRun_perform (InRun.create c script) cues
  have hseen : ((create c script).perform cues).2.seen = [] := seen_perform rfl cues
  obtain ⟨-, -, history, hhistory, hshown⟩ := InRun.iff_of_nil.1 hrun
  rw [hseen, List.reverse_nil, List.append_nil] at hshown
  exact ⟨history, hhistory, hshown⟩

/-- So it is when the client is let go of in the end. -/
theorem finish_is_run (c : SocketConfig) (script : Script) (cues : List Cue) (late : Frame) :
    let (shown, r) := (create c script).perform cues
    ∃ machine history, Run c machine history ∧
      Shown (script.shows c) (shown ++ (r.finish late).2) history :=
  (inRun_perform (InRun.create c script) cues).finish late

/-- **What holds of all runs holds of all rehearsals**, as far as it is about
where the attempts went, what the handler heard and which frames the
connections got. -/
theorem perform_obeys {c : SocketConfig} {script : Script}
    {law : Machine → List String → List Callback → List Frame → Prop}
    (hlaw : ∀ m history, Run c m history →
      law m (dials history) (callbacks history) (handedFrames history))
    (hsilent : script.silent = false) (hping : c.pingInterval = none) (cues : List Cue) :
    let (shown, r) := (create c script).perform cues
    law r.machine (dials shown) (callbacks shown) (handedFrames shown) := by
  obtain ⟨history, hrun, hshown⟩ := perform_is_run c script cues
  obtain ⟨hdials, hcallbacks, hframes⟩ := hshown.reads
  dsimp only
  rw [hdials, hcallbacks hsilent, hframes hping]
  exact hlaw _ history hrun

end Rehearsal

end StreamFinder.Socket
