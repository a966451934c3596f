import StreamFinder.Session.Basic
import StreamFinder.Web.Redirect.Trail
/-!
# Following redirects to the end

A chain of requests is a walk along a trail: it ends where the trail ends,
or else when it has visited as many addresses as it may. Its length is the
only measure, so it ends in a circle as well. The limit counts the address
that was asked for, which is visited without any redirect: a chain of as
many redirects as the limit says is not followed to its end, although the
limit is meant to count the redirects.
-/

namespace StreamFinder.Web.Redirect

variable {peer : Peer} {client : Client} {method : Method} {u v : Url}
variable {r next first last : Request} {rs : List Request} {status : Nat}
variable {found : Except RequestFailure (Url × Nat)}

/-! ## Trails -/

theorem successor?_of_answered {location : Option String}
    (h : peer r = .answered status location) :
    successor? peer r = (target? r.url status location).map fun next =>
      { r with
        url := next
        proxyAuthorization := if sameServer r.url next then r.proxyAuthorization else none } := by
  rw [successor?, h]

/-- A final answer leads nowhere. -/
theorem successor?_eq_none {location : Option String} (hreply : peer r = .answered status location)
    (hfinal : target? r.url status location = none) : successor? peer r = none := by
  rw [successor?_of_answered hreply, hfinal, Option.map_none]

/-- Without credentials only the address changes. -/
theorem successor?_of_target {location : Option String}
    (hreply : peer r = .answered status location) (htarget : target? r.url status location = some v)
    (hnone : r.proxyAuthorization = none) : successor? peer r = some { r with url := v } := by
  rw [successor?_of_answered hreply, htarget, Option.map_some, hnone, ite_self, ← hnone]

/-- What leads on has been answered with an address. -/
theorem answered_of_successor? (h : successor? peer r = some next) :
    ∃ status location, peer r = .answered status location ∧
      target? r.url status location = some next.url ∧
      next = { r with
        url := next.url
        proxyAuthorization :=
          if sameServer r.url next.url then r.proxyAuthorization else none } := by
  unfold successor? at h
  split at h
  · next status location hreply =>
    obtain ⟨address, htarget, rfl⟩ := Option.map_eq_some_iff.mp h
    exact ⟨status, location, hreply, htarget, rfl⟩
  · cases h
  · cases h

/-- A step keeps the method and the user agent. -/
theorem method_of_successor? (h : successor? peer r = some next) :
    next.method = r.method ∧ next.userAgent = r.userAgent := by
  obtain ⟨status, location, -, -, hnext⟩ := answered_of_successor? h
  rw [hnext]
  exact ⟨rfl, rfl⟩

theorem arrives_of_successor? (h : successor? peer r = some next) : arrives peer r = true := by
  obtain ⟨status, location, hreply, -, -⟩ := answered_of_successor? h
  simp [arrives, hreply]

namespace Trail

theorem length_pos (h : Trail peer r rs last) : 0 < rs.length := by
  cases h <;> exact Nat.zero_lt_succ _

theorem head?_eq (h : Trail peer r rs last) : rs.head? = some r := by
  cases h <;> rfl

theorem getLast?_eq (h : Trail peer r rs last) : rs.getLast? = some last := by
  induction h with
  | stay r => rfl
  | step _ rest ih =>
    rw [List.getLast?_cons_of_ne_nil (List.length_pos_iff.1 rest.length_pos), ih]

/-- Everything on a trail is asked in one method. -/
theorem method_eq (h : Trail peer r rs last) : ∀ s ∈ rs, s.method = r.method := by
  induction h with
  | stay r => simp
  | step hnext _ ih =>
    refine List.forall_mem_cons.2 ⟨rfl, fun s hs => ?_⟩
    rw [ih s hs, (method_of_successor? hnext).1]

/-- Only the last request of a trail may get nowhere. -/
theorem filter_arrives (h : Trail peer r rs last) (hlast : arrives peer last = true) :
    rs.filter (arrives peer) = rs := by
  induction h with
  | stay r => exact List.filter_cons_of_pos hlast
  | step hnext _ ih => rw [List.filter_cons_of_pos (arrives_of_successor? hnext), ih hlast]

/-- **Trails from one request do not part**: of two, the one that goes on for
longer begins with the other one. -/
theorem isPrefix (h : Trail peer r rs last) {ts : List Request} {final : Request}
    (ht : Trail peer r ts final) (hlength : rs.length ≤ ts.length) : rs <+: ts := by
  induction h generalizing ts with
  | stay r =>
    cases ht with
    | stay => exact List.prefix_rfl
    | step _ rest => exact ⟨_, rfl⟩
  | step hnext rest ih =>
    cases ht with
    | stay => exact absurd rest.length_pos (Nat.not_lt.2 (Nat.le_of_succ_le_succ hlength))
    | step hnext' rest' =>
      cases hnext.symm.trans hnext'
      exact (List.prefix_cons_inj _).2 (ih rest' (Nat.le_of_succ_le_succ hlength))

/-- No trail is longer than one that has come to its end. -/
theorem length_le (h : Trail peer r rs last) {ts : List Request} {final : Request}
    (ht : Trail peer r ts final) (hend : successor? peer final = none) :
    rs.length ≤ ts.length := by
  -- both trails take the same steps, and the complete one cannot be the first to stop
  induction h generalizing ts with
  | stay r => exact ht.length_pos
  | step hnext rest ih =>
    cases ht with
    | stay => cases hnext.symm.trans hend
    | step hnext' rest' =>
      cases hnext.symm.trans hnext'
      exact Nat.succ_le_succ (ih rest')

end Trail

/-! ## Chains -/

/-- One more address that may be visited, and one more that is. -/
theorem Ends.succ {limit visited : Nat} (h : Ends peer limit visited last found) :
    Ends peer (limit + 1) (visited + 1) last found := by
  cases h with
  | answer hreply hfinal => exact .answer hreply hfinal
  | limit hnext hspent => exact .limit hnext (congrArg Nat.succ hspent)
  | failure hreply => exact .failure hreply

/-- Where the last request has a final answer, that is the outcome. -/
theorem Ends.eq_ok {limit visited : Nat} {location : Option String}
    (h : Ends peer limit visited last found) (hreply : peer last = .answered status location)
    (hend : successor? peer last = none) : found = .ok (last.url, status) := by
  cases h with
  | answer hanswer _ =>
    cases hanswer.symm.trans hreply
    rfl
  | limit hnext _ => exact absurd hend hnext
  | failure hfailure => rcases hfailure with h | h <;> cases h.symm.trans hreply

/-- Where nothing is left to visit, or the trail ends, a chain stays. -/
theorem chase_stays (left : Nat) (hagent : r.userAgent = client.userAgent)
    (h : left = 0 ∨ successor? peer r = none) :
    Ends peer (left + 1) 1 r
        (chase peer client r.method left r.proxyAuthorization r.url).outcome ∧
      (chase peer client r.method left r.proxyAuthorization r.url).requests =
        [r].filter (arrives peer) := by
  rw [chase.eq_def, ← hagent]
  cases hreply : peer r with
  | unreachable =>
    simp only [hreply]
    exact ⟨.failure (.inr hreply), by simp [arrives, hreply]⟩
  | hungUp =>
    simp only [hreply]
    exact ⟨.failure (.inl hreply), by simp [arrives, hreply]⟩
  | answered status location =>
    have harrives : [r].filter (arrives peer) = [r] := by simp [arrives, hreply]
    have hnext := successor?_of_answered hreply
    rw [harrives]
    simp only [hreply]
    cases htarget : target? r.url status location with
    | none => exact ⟨.answer hreply htarget, rfl⟩
    | some address =>
      rw [htarget] at hnext
      obtain rfl : left = 0 := h.resolve_right (hnext ▸ nofun)
      exact ⟨.limit (hnext ▸ nofun) rfl, rfl⟩

/-- Otherwise it goes on to what the request leads on to. -/
theorem chase_goes_on (left : Nat) (hagent : r.userAgent = client.userAgent)
    (h : successor? peer r = some next) :
    chase peer client r.method (left + 1) r.proxyAuthorization r.url =
      let chain := chase peer client next.method left next.proxyAuthorization next.url
      { chain with requests := r :: chain.requests } := by
  obtain ⟨status, location, hreply, htarget, hnext⟩ := answered_of_successor? h
  rw [hnext, chase, ← hagent]
  simp only [hreply, htarget]

/-- **A chain walks along a trail**, one request for each address, and stops
at its end or when nothing is left to visit. -/
theorem exists_trail (peer : Peer) (left : Nat) (hagent : r.userAgent = client.userAgent) :
    let chain := chase peer client r.method left r.proxyAuthorization r.url
    ∃ rs last, Trail peer r rs last ∧ rs.length ≤ left + 1 ∧
      Ends peer (left + 1) rs.length last chain.outcome ∧
      chain.requests = rs.filter (arrives peer) := by
  -- what is left to visit gets less with every step, whatever request the step leads on to
  induction left generalizing r with
  | zero =>
    obtain ⟨hends, hrequests⟩ := chase_stays 0 hagent (.inl rfl)
    exact ⟨[r], r, .stay r, Nat.le_refl 1, hends, hrequests⟩
  | succ left ih =>
    cases hnext : successor? peer r with
    | none =>
      obtain ⟨hends, hrequests⟩ := chase_stays (left + 1) hagent (.inr hnext)
      exact ⟨[r], r, .stay r, Nat.le_add_left 1 _, hends, hrequests⟩
    | some next =>
      obtain ⟨rs, last, htrail, hlength, hends, hrequests⟩ :=
        ih ((method_of_successor? hnext).2.trans hagent)
      intro chain
      have hchain := chase_goes_on left hagent hnext
      refine ⟨r :: rs, last, .step hnext htrail, Nat.succ_le_succ hlength, ?_, ?_⟩
      · rw [show chain = _ from hchain]
        exact hends.succ
      · rw [show chain = _ from hchain, List.filter_cons_of_pos (arrives_of_successor? hnext),
          ← hrequests]

/-! ## Phases -/

/-- Every phase is one of requests in its method, and has an end. -/
theorem exists_phase (peer : Peer) (client : Client) (method : Method) (u : Url) :
    ∃ rs last, Phase peer client method u rs last (run peer client method u).outcome ∧
      (run peer client method u).requests = rs.filter (arrives peer) := by
  have hvisits : client.maxRedirects - 1 + 1 = visits client := by
    unfold visits
    omega
  have hagent : (opening client method u).userAgent = client.userAgent := rfl
  obtain ⟨rs, last, htrail, hlength, hends, hrequests⟩ :=
    exists_trail peer (client.maxRedirects - 1) hagent
  rw [hvisits] at hlength hends
  exact ⟨rs, last, ⟨htrail, hlength, hends⟩, hrequests⟩

theorem Phase.method_eq (h : Phase peer client method u rs last found) :
    ∀ r ∈ rs, r.method = method := h.trail.method_eq

theorem outcome_conclude (text : String) (requests : List Request) :
    (conclude text requests found).outcome = told found := by
  obtain _ | ⟨u, status⟩ := found <;> rfl

theorem requests_conclude (text : String) (requests : List Request) :
    (conclude text requests found).requests = requests := by
  obtain _ | ⟨u, status⟩ := found <;> rfl

/-! ## Addresses -/

/-- An address is followed in one phase or in two. -/
theorem exists_course (peer : Peer) (client : Client) {text : String}
    (hu : requestUrl? text = some u) :
    ∃ heads gets found, Course peer client u heads gets found ∧
      resolve peer client text = conclude text ((heads ++ gets).filter (arrives peer)) found := by
  obtain ⟨heads, tried, hhead, hheads⟩ := exists_phase peer client .head u
  unfold resolve
  simp only [hu, hheads]
  cases houtcome : (run peer client .head u).outcome with
  | error e =>
    rw [houtcome] at hhead
    exact ⟨heads, [], _, .once hhead nofun, by rw [List.append_nil]⟩
  | ok answer =>
    obtain ⟨address, status⟩ := answer
    rw [houtcome] at hhead
    by_cases hstatus : status = notImplemented
    · obtain ⟨gets, last, hget, hgets⟩ := exists_phase peer client .get u
      subst hstatus
      obtain rfl : address = tried.url := by
        cases hhead.ends
        rfl
      refine ⟨heads, gets, _, .twice hhead hget, (if_pos rfl).trans ?_⟩
      rw [List.filter_append, hgets]
    · have hother (url : Url) : (.ok (address, status) : Except RequestFailure (Url × Nat)) ≠
          .ok (url, notImplemented) := by
        intro h
        cases h
        exact hstatus rfl
      refine ⟨heads, [], _, .once hhead hother, (if_neg hstatus).trans ?_⟩
      rw [List.append_nil]

/-- **An address is followed with HEAD, and with GET where HEAD is not
implemented.** A text that is no address of the web is asked nothing.
Otherwise there are at most as many requests of either method as addresses
may be visited, in a circle as well, and the requests with GET begin again
with the address, after a chain of HEAD that has ended with status 501. The
result is the last address of the last chain, whatever its status, or the
failure that has ended it. -/
theorem resolve_follows_course (peer : Peer) (client : Client) (text : String) :
    match requestUrl? text with
    | none => resolve peer client text = ⟨.error (.request .malformed), [], []⟩
    | some u =>
      ∃ heads gets found, Course peer client u heads gets found ∧
        heads.length ≤ max 1 client.maxRedirects ∧ (∀ r ∈ heads, r.method = .head) ∧
        gets.length ≤ max 1 client.maxRedirects ∧ (∀ r ∈ gets, r.method = .get) ∧
        (gets ≠ [] → gets.head? = some (opening client .get u) ∧ ∃ refused,
          Phase peer client .head u heads refused (.ok (refused.url, notImplemented))) ∧
        (resolve peer client text).requests = (heads ++ gets).filter (arrives peer) ∧
        (resolve peer client text).outcome = told found := by
  cases hu : requestUrl? text with
  | none => simp only [resolve, hu]
  | some u =>
    obtain ⟨heads, gets, found, hcourse, hresolve⟩ := exists_course peer client hu
    refine ⟨heads, gets, found, hcourse, ?_⟩
    rw [hresolve, requests_conclude, outcome_conclude]
    cases hcourse with
    | once head =>
      exact ⟨head.bounded, head.method_eq, Nat.zero_le _, nofun, (absurd rfl ·), rfl, rfl⟩
    | twice head get =>
      exact ⟨head.bounded, head.method_eq, get.bounded, get.method_eq,
        fun _ => ⟨get.trail.head?_eq, _, head⟩, rfl, rfl⟩

/-! ## The limit -/

/-- A phase walks the whole trail, or as much of it as it may. -/
theorem Phase.eq_take {ts : List Request} {final : Request}
    (h : Phase peer client method u rs last found)
    (ht : Trail peer (opening client method u) ts final) (hend : successor? peer final = none) :
    rs = ts.take (visits client) ∧
      (ts.length ≤ visits client → last = final) ∧
      (visits client < ts.length → found = .error (.redirectLimit last.url.render)) := by
  have hle : rs.length ≤ ts.length := h.trail.length_le ht hend
  have hbegins : rs <+: ts := h.trail.isPrefix ht hle
  have htake : rs = ts.take rs.length := List.prefix_iff_eq_take.1 hbegins
  have hsame (heq : rs = ts) : last = final := by
    have hlast := h.trail.getLast?_eq
    rw [heq, ht.getLast?_eq] at hlast
    exact (Option.some.inj hlast).symm
  -- a walk that has come to an end of its own has walked the whole trail
  have hdone (hlast : successor? peer last = none) :
      rs = ts.take (visits client) ∧ (ts.length ≤ visits client → last = final) ∧
        (visits client < ts.length → found = .error (.redirectLimit last.url.render)) := by
    have heq : rs = ts := hbegins.eq_of_length_le (ht.length_le h.trail hlast)
    have hbounded : ts.length ≤ visits client := heq ▸ h.bounded
    refine ⟨?_, fun _ => hsame heq, fun hlt => absurd hbounded (Nat.not_le.2 hlt)⟩
    rw [List.take_of_length_le hbounded, heq]
  cases h.ends with
  | answer hreply hfinal => exact hdone (successor?_eq_none hreply hfinal)
  | limit hnext hspent =>
    refine ⟨hspent ▸ htake, fun hfits => ?_, fun _ => rfl⟩
    exact hsame (hbegins.eq_of_length_le (hspent.symm ▸ hfits))
  | failure hreply =>
    refine hdone ?_
    obtain hreply | hreply := hreply <;> rw [successor?, hreply]

/-- The limit of a session is the one of its configuration. -/
theorem maxRedirects_of_create {P : Type} {names : Names} {config : Session.SessionConfig}
    {session : Session P} (h : Session.create names config = .ok session) :
    session.client.maxRedirects = config.maxRedirects := by
  unfold Session.create at h
  split at h
  · cases h
  next client hbuild =>
  cases h
  unfold Client.build at hbuild
  split at hbuild
  · cases hbuild
  split at hbuild
  · cases hbuild
    rfl
  · cases hbuild

/-- **The limit counts the address that was asked for.** A chain of `k`
redirects to an answer that leads nowhere else is followed to its end if `k`
is less than the limit of the configuration, or if both are zero. Otherwise
the result is that the limit has been met, at the last address that might be
visited, and nobody was asked beyond. So a chain of exactly as many
redirects as the limit allows for fails, unless it is empty. -/
theorem limit_counts_first_address {P : Type} {names : Names} {config : Session.SessionConfig}
    {session : Session P} {text : String} {location : Option String} {k : Nat}
    (hcreate : Session.create names config = .ok session) (hu : requestUrl? text = some u)
    (htrail : Trail peer (opening session.client .head u) rs last) (hlength : rs.length = k + 1)
    (hreply : peer last = .answered status location)
    (hfinal : target? last.url status location = none) (hstatus : status ≠ notImplemented) :
    (k < max 1 config.maxRedirects →
      (resolve peer session.client text).outcome = .ok last.url.render ∧
      (resolve peer session.client text).requests = rs) ∧
    (max 1 config.maxRedirects ≤ k →
      ∃ stop, rs[max 1 config.maxRedirects - 1]? = some stop ∧
        (resolve peer session.client text).outcome =
          .error (.request (.redirectLimit stop.url.render)) ∧
        (resolve peer session.client text).requests = rs.take (max 1 config.maxRedirects)) := by
  have hvisits : visits session.client = max 1 config.maxRedirects := by
    rw [visits, maxRedirects_of_create hcreate]
  have hend := successor?_eq_none hreply hfinal
  have harrives : rs.filter (arrives peer) = rs := by
    refine htrail.filter_arrives ?_
    simp [arrives, hreply]
  obtain ⟨heads, gets, found, hcourse, hresolve⟩ := exists_course peer session.client hu
  rw [hresolve, outcome_conclude, requests_conclude, ← hvisits]
  cases hcourse with
  | once head hother =>
    obtain ⟨htake, hfits, hover⟩ := head.eq_take htrail hend
    rw [List.append_nil]
    constructor
    · intro hk
      obtain rfl := hfits (by omega)
      rw [head.ends.eq_ok hreply hend, htake, List.take_of_length_le (by omega), harrives]
      exact ⟨rfl, rfl⟩
    · intro hk
      refine ⟨_, ?_, congrArg told (hover (by omega)), ?_⟩
      · have hgetLast := head.trail.getLast?_eq
        rw [htake, List.getLast?_take, if_neg (by omega), List.getElem?_eq_getElem (by omega),
          Option.some_or] at hgetLast
        rw [List.getElem?_eq_getElem (by omega)]
        exact hgetLast
      · rw [htake, List.filter_eq_self]
        exact fun r hr => List.filter_eq_self.1 harrives r (List.mem_of_mem_take hr)
  | twice head get =>
    -- the last answer of the trail has another status, and beyond the limit there is none
    exfalso
    obtain ⟨-, hfits, hover⟩ := head.eq_take htrail hend
    rcases Nat.lt_or_ge (visits session.client) rs.length with hlt | hge
    · cases hover hlt
    · obtain rfl := hfits hge
      cases head.ends.eq_ok hreply hend
      exact hstatus rfl

/-- The path `/a` leads on to `/b`, and nothing else leads anywhere. -/
def onward : Peer := fun r =>
  if r.url.path = .segments ["a"] then .answered 302 (some "/b") else .answered 200 none

/-- A configuration with a limit. -/
def upTo (limit : Nat) : Session.SessionConfig :=
  { Session.SessionConfig.default with userAgent := "ua", maxRedirects := limit }

/-- The client of such a session. -/
def agent (limit : Nat) : Client := ⟨"ua", none, limit⟩

/-- An address of this machine. -/
def here (segment : String) : Url :=
  ⟨"http", "", "", some "[::1]", none, .segments [segment], none, none⟩

theorem create_upTo (limit : Nat) :
    ∃ session : Session Unit, Session.create localNames (upTo limit) = .ok session ∧
      session.client = agent limit := by
  have hvalue : Header.isValue "ua" = true := by decide
  refine ⟨⟨upTo limit, agent limit, .empty, .empty 128, .empty⟩, ?_, rfl⟩
  have hbuild : Client.build localNames (upTo limit).userAgent (upTo limit).effectiveProxy
      (upTo limit).maxRedirects = .ok (agent limit) := if_pos hvalue
  rw [Session.create, hbuild]
  rfl

theorem requestUrl?_here : requestUrl? "http://[::1]/a" = some (here "a") := by decide +kernel

theorem target?_here : target? (here "a") 302 (some "/b") = some (here "b") := by decide +kernel

theorem trail_onward (limit : Nat) :
    Trail onward (opening (agent limit) .head (here "a"))
      [opening (agent limit) .head (here "a"), opening (agent limit) .head (here "b")]
      (opening (agent limit) .head (here "b")) := by
  have hreply : onward (opening (agent limit) .head (here "a")) = .answered 302 (some "/b") := rfl
  have hnext : successor? onward (opening (agent limit) .head (here "a")) =
      some (opening (agent limit) .head (here "b")) := successor?_of_target hreply target?_here rfl
  exact .step hnext (.stay _)

/-- One redirect is followed where two addresses may be visited. -/
theorem one_redirect_of_two_addresses :
    ∃ session : Session Unit, Session.create localNames (upTo 2) = .ok session ∧
      (resolve onward session.client "http://[::1]/a").outcome = .ok "http://[::1]/b" := by
  obtain ⟨session, hcreate, hclient⟩ := create_upTo 2
  have htrail := trail_onward 2
  rw [← hclient] at htrail
  have hreply : onward (opening (agent 2) .head (here "b")) = .answered 200 none := rfl
  have hlimit := limit_counts_first_address (k := 1) hcreate requestUrl?_here htrail rfl hreply rfl
    (by decide)
  have hrender : (here "b").render = "http://[::1]/b" := by decide +kernel
  exact ⟨session, hcreate, hrender ▸ (hlimit.1 (by decide)).1⟩

/-- **One redirect where one is allowed for.** The trail ends after one
redirect with a plain answer, and the limit of one is met before. -/
theorem one_redirect_exceeds_limit_of_one :
    ∃ session : Session Unit, Session.create localNames (upTo 1) = .ok session ∧
      (upTo 1).maxRedirects = 1 ∧ requestUrl? "http://[::1]/a" = some (here "a") ∧
      (∃ first last, first = opening session.client .head (here "a") ∧
        Trail onward first [first, last] last ∧ onward last = .answered 200 none) ∧
      (resolve onward session.client "http://[::1]/a").outcome =
        .error (.request (.redirectLimit "http://[::1]/a")) := by
  obtain ⟨session, hcreate, hclient⟩ := create_upTo 1
  refine ⟨session, hcreate, rfl, requestUrl?_here,
    ⟨_, _, hclient ▸ rfl, trail_onward 1, rfl⟩, ?_⟩
  have hreply : onward (opening (agent 1) .head (here "a")) = .answered 302 (some "/b") := rfl
  have hrun : (run onward (agent 1) .head (here "a")).outcome =
      .error (.redirectLimit (here "a").render) := by
    show (chase onward (agent 1) .head 0 none (here "a")).outcome = _
    unfold chase
    simp only [show onward ⟨.head, here "a", (agent 1).userAgent, none⟩ = _ from hreply,
      target?_here]
  have hrender : (here "a").render = "http://[::1]/a" := by decide +kernel
  rw [hclient]
  simp only [resolve, requestUrl?_here, hrun, outcome_conclude, told, hrender]

end StreamFinder.Web.Redirect
