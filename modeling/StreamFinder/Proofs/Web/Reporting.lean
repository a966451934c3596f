import StreamFinder.Proofs.Session.Resolve
import StreamFinder.Proofs.Web.Following
import StreamFinder.Proofs.Web.Reading
/-!
# When a redirect is reported

Whether redirects were followed is not kept; it is told from the text that
was asked for and the text of the address that has answered. The second one
is written from an address that was read, so the two may differ without any
redirect: a host alone is asked for as `http://host`, and answers as
`http://host/`. Of a text that is written as its address is, the comparison
tells the truth, if the other side answers by a table: nothing leads back to
where it began and ends there, and another address is written differently.
-/

namespace StreamFinder.Web.Redirect

open Url

variable {peer : Peer} {client : Client} {method : Method} {u v : Url}
variable {r next last : Request} {rs heads gets : List Request} {status : Nat}

/-! ## Addresses along a trail -/

theorem Trail.readable (h : Trail peer r rs last) (hr : r.url.Readable) : last.url.Readable := by
  induction h with
  | stay r => exact hr
  | step hnext _ ih =>
    obtain ⟨status, location, -, htarget, -⟩ := answered_of_successor? hnext
    exact ih (readable_of_target? hr htarget)

/-- A table sends nobody back to where the trail began, to end there. -/
theorem Trail.url_ne (h : Trail peer r rs last) (htable : peer.IsTable)
    (hend : successor? peer last = none) (hlong : 1 < rs.length) : last.url ≠ r.url := by
  intro hsame
  have hmethod : last.method = r.method :=
    h.method_eq last (List.mem_of_getLast? h.getLast?_eq)
  cases h with
  | stay => exact absurd hlong (Nat.lt_irrefl 1)
  | step hnext rest =>
    -- the last request gets the reply to the first one, and that led on
    obtain ⟨status, location, hreply, htarget, -⟩ := answered_of_successor? hnext
    have hagain := (htable last _ hmethod hsame).trans hreply
    rw [successor?_of_answered hagain, hsame, htarget] at hend
    cases hend

/-! ## Phases with an answer -/

theorem Ends.successor?_eq_none {limit visited : Nat}
    (h : Ends peer limit visited last (.ok (v, status))) : successor? peer last = none := by
  cases h with
  | answer hreply hfinal => exact Redirect.successor?_eq_none hreply hfinal

theorem Ends.url_eq {limit visited : Nat} (h : Ends peer limit visited last (.ok (v, status))) :
    v = last.url := by
  cases h
  rfl

theorem Phase.filter_arrives (h : Phase peer client method u rs last (.ok (v, status))) :
    rs.filter (arrives peer) = rs := by
  refine h.trail.filter_arrives ?_
  cases h.ends with
  | answer hreply _ => simp [arrives, hreply]

/-- Where no redirect is followed, the address asked for has answered. -/
theorem Phase.eq_of_length (h : Phase peer client method u rs last (.ok (v, status)))
    (hlength : rs.length = 1) : v = u := by
  rw [h.ends.url_eq]
  cases h.trail with
  | stay => rfl
  | step _ rest =>
    have := rest.length_pos
    rw [List.length_cons] at hlength
    omega

/-- Where one is followed, another address has answered. -/
theorem Phase.ne_of_length (h : Phase peer client method u rs last (.ok (v, status)))
    (htable : peer.IsTable) (hlength : 1 < rs.length) : v ≠ u := by
  rw [h.ends.url_eq]
  exact h.trail.url_ne htable h.ends.successor?_eq_none hlength

theorem Phase.readable (h : Phase peer client method u rs last (.ok (v, status)))
    (hu : u.Readable) : v.Readable := by
  rw [h.ends.url_eq]
  exact h.trail.readable hu

/-- The phase whose answer is the result. -/
theorem Course.exists_phase (h : Course peer client u heads gets (.ok (v, status))) :
    ∃ method rs last, Phase peer client method u rs last (.ok (v, status)) ∧
      rs.length = followed heads gets + 1 := by
  cases h with
  | once head _ =>
    have hpos := head.trail.length_pos
    refine ⟨.head, heads, _, head, ?_⟩
    rw [followed, if_pos rfl]
    omega
  | twice head get =>
    have hpos := get.trail.length_pos
    refine ⟨.get, gets, _, get, ?_⟩
    rw [followed, if_neg (List.ne_nil_of_length_pos hpos)]
    omega

/-- Where no redirect is followed, the address asked for has answered. -/
theorem Course.eq_of_followed (h : Course peer client u heads gets (.ok (v, status)))
    (hnone : followed heads gets = 0) : v = u := by
  obtain ⟨method, rs, last, hphase, hlength⟩ := h.exists_phase
  exact hphase.eq_of_length (by omega)

/-- **A redirect of a table changes the text of the address.** -/
theorem Course.followed_eq_zero (h : Course peer client u heads gets (.ok (v, status)))
    (hu : u.Readable) (hweb : IsWeb u.scheme) (htable : peer.IsTable)
    (hsame : v.render = u.render) : followed heads gets = 0 := by
  obtain ⟨method, rs, last, hphase, hlength⟩ := h.exists_phase
  have heq : v = u := (hu.eq_of_render (hphase.readable hu) hweb hsame.symm).symm
  rcases Nat.eq_zero_or_pos (followed heads gets) with hnone | hsome
  · exact hnone
  · exact absurd heq (hphase.ne_of_length htable (by omega))

theorem Course.filter_arrives (h : Course peer client u heads gets (.ok (v, status))) :
    (heads ++ gets).filter (arrives peer) = heads ++ gets := by
  rw [List.filter_append]
  cases h with
  | once head _ => rw [head.filter_arrives, List.filter_nil]
  | twice head get => rw [head.filter_arrives, get.filter_arrives]

/-! ## Reports -/

/-- A session that is told of the same address finds the same plugin, whether it asks or not. -/
theorem resolve_eq_of_target {P : Type} {s : Session P} {url : String}
    {redirects : Session.Redirects}
    (hlead : (redirects (Session.normalized url)).target = .ok (Session.normalized url))
    (hmiss : ∀ follow, (s.cache.get ⟨Session.normalized url, follow⟩).1 = none) :
    (s.resolve redirects url true).1 = (s.resolve redirects url false).1 := by
  have hasked : (Session.target redirects (Session.normalized url) true).1 =
      .ok (Session.normalized url) := hlead
  have hplain : (Session.target redirects (Session.normalized url) false).1 =
      .ok (Session.normalized url) := rfl
  rw [Session.resolve_of_miss (hmiss true) hasked, Session.resolve_of_miss (hmiss false) hplain]

/-- **A redirect is reported if the text has changed.** If an address is
found for a text, it is the one that has answered the last request, and a
redirect is reported exactly if it is not written like the text. Without any
redirect it is the one asked for, as it is written after it was read; and
only then, if the other side answers by a table. So for a text that is
written as its address is, a redirect is reported exactly if one was
followed, and without one a session finds the same plugin in both modes. -/
theorem redirect_is_told_by_text {text reached : String}
    (h : (resolve peer client text).outcome = .ok reached) :
    ∃ u heads gets v status, requestUrl? text = some u ∧
      Course peer client u heads gets (.ok (v, status)) ∧
      (resolve peer client text).requests = heads ++ gets ∧ reached = v.render ∧
      (resolve peer client text).reports =
        (if reached = text then [] else [.redirected text reached]) ∧
      (followed heads gets = 0 → reached = u.render) ∧
      (peer.IsTable → reached = u.render → followed heads gets = 0) ∧
      (u.render = text → peer.IsTable →
        ((resolve peer client text).reports = [] ↔ followed heads gets = 0)) ∧
      (u.render = text → followed heads gets = 0 → reached = text ∧
        ∀ (P : Type) (s : Session P) (url : String), Session.normalized url = text →
          (∀ follow, (s.cache.get ⟨text, follow⟩).1 = none) →
          (s.resolve (.overHttp peer client) url true).1 =
            (s.resolve (.overHttp peer client) url false).1) := by
  cases hu : requestUrl? text with
  | none =>
    simp only [resolve, hu] at h
    cases h
  | some u =>
    obtain ⟨hreadable, hweb⟩ := readable_of_requestUrl? hu
    obtain ⟨heads, gets, found, hcourse, hresolve⟩ := exists_course peer client hu
    rw [hresolve, outcome_conclude] at h
    cases found with
    | error e => cases h
    | ok answer =>
      obtain ⟨v, status⟩ := answer
      obtain rfl : v.render = reached := Except.ok.inj h
      have hstay (hnone : followed heads gets = 0) : v.render = u.render :=
        congrArg render (hcourse.eq_of_followed hnone)
      have hmove (htable : peer.IsTable) (hsame : v.render = u.render) :
          followed heads gets = 0 := hcourse.followed_eq_zero hreadable hweb htable hsame
      have hreports : (resolve peer client text).reports =
          if v.render = text then [] else [.redirected text v.render] := by
        rw [hresolve]
        rfl
      refine ⟨u, heads, gets, v, status, rfl, hcourse, ?_, rfl, hreports, hstay, hmove, ?_, ?_⟩
      · rw [hresolve, requests_conclude, hcourse.filter_arrives]
      -- a text that is written as its address is may stand for it in the comparison
      · intro hspelled htable
        rw [hreports, ← hspelled]
        constructor
        · intro hquiet
          by_cases hsame : v.render = u.render
          · exact hmove htable hsame
          · rw [if_neg hsame] at hquiet
            cases hquiet
        · intro hnone
          rw [if_pos (hstay hnone)]
      · intro hspelled hnone
        have hreached : v.render = text := (hstay hnone).trans hspelled
        refine ⟨hreached, fun P s url hurl hmiss => ?_⟩
        subst hurl
        refine resolve_eq_of_target ?_ hmiss
        show (resolve peer client (Session.normalized url)).outcome = _
        rw [hresolve, outcome_conclude]
        exact congrArg Except.ok hreached

theorem eq_ok_of_toOption {ε α : Type} {x : Except ε α} {a : α} (h : x.toOption = some a) :
    x = .ok a := by
  cases x with
  | error e => cases h
  | ok b => exact congrArg Except.ok (Option.some.inj h)

/-- A redirect from an address that is asked for as it is written is reported. -/
theorem redirect_of_written_address_is_reported :
    (resolve onward (agent 10) "http://[::1]/a").outcome = .ok "http://[::1]/b" ∧
      (resolve onward (agent 10) "http://[::1]/a").reports =
        [.redirected "http://[::1]/a" "http://[::1]/b"] ∧
      ∃ heads gets found, Course onward (agent 10) (here "a") heads gets found ∧
        followed heads gets ≠ 0 := by
  have houtcome : (resolve onward (agent 10) "http://[::1]/a").outcome = .ok "http://[::1]/b" :=
    eq_ok_of_toOption (by decide +kernel)
  obtain ⟨u, heads, gets, v, status, hu, hcourse, -, -, hreports, -, -, htold, -⟩ :=
    redirect_is_told_by_text houtcome
  obtain rfl : here "a" = u := Option.some.inj (requestUrl?_here.symm.trans hu)
  have hspelled : (here "a").render = "http://[::1]/a" := by decide +kernel
  have htable : onward.IsTable := by
    intro r s _ hurl
    rw [onward, onward, hurl]
  rw [if_neg (by decide)] at hreports
  refine ⟨houtcome, hreports, heads, gets, _, hcourse, fun hnone => ?_⟩
  rw [(htold hspelled htable).2 hnone] at hreports
  cases hreports

/-- Nothing leads anywhere. -/
def still : Peer := fun _ => .answered 200 none

/-- **A host alone.** The one request is answered at once, its address is
written with a slash, and that is reported as a redirect; a session that
asks does not match its plugins against the same text as one that does not. -/
theorem plain_answer_is_reported_as_redirect :
    (resolve still (agent 10) "http://[::1]").requests =
        [opening (agent 10) .head (here "")] ∧
      (resolve still (agent 10) "http://[::1]").outcome = .ok "http://[::1]/" ∧
      (resolve still (agent 10) "http://[::1]").reports =
        [.redirected "http://[::1]" "http://[::1]/"] ∧
      (Session.target (.overHttp still (agent 10)) "http://[::1]" true).1 = .ok "http://[::1]/" ∧
      (Session.target (.overHttp still (agent 10)) "http://[::1]" false).1 =
        .ok "http://[::1]" := by
  have houtcome : (resolve still (agent 10) "http://[::1]").outcome = .ok "http://[::1]/" :=
    eq_ok_of_toOption (by decide +kernel)
  exact ⟨by decide +kernel, houtcome, by decide +kernel, houtcome, rfl⟩

end StreamFinder.Web.Redirect
