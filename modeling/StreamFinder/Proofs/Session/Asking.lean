import StreamFinder.Proofs.Session.Freshness
/-!
# When the collaborator is asked

The collaborator that knows where addresses lead is slow and may fail, and
so it matters when it is asked and what a failure leaves behind. It is
asked once by a resolve that is to follow redirects and finds no decision
in the cache, and by nothing else (`askedUrls_events`). A failure leaves
the session as it was but for one more miss, so that the same resolve asks
again; otherwise the decision is cached, whether a class has won or none.
-/

namespace StreamFinder.Session

open Plugin

/-! ## Asking -/

namespace Event

@[simp] theorem askedUrls_nil : askedUrls [] = [] := rfl

@[simp] theorem askedUrls_append (events more : List Event) :
    askedUrls (events ++ more) = askedUrls events ++ askedUrls more :=
  List.filterMap_append

@[simp] theorem askedUrls_asked (url : String) (events : List Event) :
    askedUrls (.asked url :: events) = url :: askedUrls events := rfl

@[simp] theorem askedUrls_reported (report : Report) (events : List Event) :
    askedUrls (.reported report :: events) = askedUrls events := rfl

@[simp] theorem askedUrls_map_reported (reports : List Report) :
    askedUrls (reports.map .reported) = [] := by
  induction reports with
  | nil => rfl
  | cons report reports ih => exact ih

end Event

variable {P : Type} {s : Session P} {history : List (Moment P)}
variable {names : Web.Names} {config : SessionConfig}
variable {redirects : Redirects} {url : String} {follow : Bool}

theorem askedUrls_target (redirects : Redirects) (url : String) (follow : Bool) :
    Event.askedUrls (target redirects url follow).2 = if follow then [url] else [] := by
  cases follow <;> simp [target]

theorem askedUrls_bind (decision : Decision P) : Event.askedUrls (bind decision).2 = [] := by
  cases decision <;> rfl

theorem askedUrls_decide (s : Session P) (lead : String) :
    Event.askedUrls (s.decide lead).2.2 = [] :=
  Event.askedUrls_map_reported _

/-- **A resolve asks when it follows redirects and misses**, and then once. -/
theorem askedUrls_resolve (s : Session P) (redirects : Redirects) (url : String) (follow : Bool) :
    Event.askedUrls (s.resolve redirects url follow).2.2 =
      if follow = true ∧ (s.cache.get ⟨normalized url, follow⟩).1 = none then [normalized url]
      else [] := by
  cases hg : (s.cache.get ⟨normalized url, follow⟩).1 with
  | some decision => simp [resolve_of_hit hg, askedUrls_bind]
  | none =>
    cases ht : (target redirects (normalized url) follow).1 with
    | error e => simp [resolve_of_failure hg ht, askedUrls_target]
    | ok lead =>
      simp [resolve_of_miss hg ht, askedUrls_target, askedUrls_decide, askedUrls_bind]

theorem askedUrls_events (m : Moment P) : Event.askedUrls m.events = m.question?.toList := by
  obtain ⟨s, a⟩ := m
  cases a with
  | change c => rfl
  | clearCache => rfl
  | resolve redirects url follow =>
    refine (askedUrls_resolve s redirects url follow).trans ?_
    cases follow with
    | false => rfl
    | true =>
      cases hg : (s.cache.get ⟨normalized url, true⟩).1 <;>
        simp [Moment.question?, Moment.misses, hg]

/-- **All that was ever asked** are the questions of the steps, in order. -/
theorem askedUrls_story (history : List (Moment P)) :
    Event.askedUrls (story history) = history.reverse.filterMap Moment.question? := by
  unfold story
  induction history.reverse with
  | nil => rfl
  | cons m later ih =>
    rw [List.flatMap_cons, Event.askedUrls_append, askedUrls_events, ih, List.filterMap_cons]
    cases m.question? <;> rfl

/-! ## Room for decisions -/

/-- The cache of a session has the room that the configuration gives it, and keeps to it. -/
structure Roomy (s : Session P) (config : SessionConfig) : Prop where
  capacity : s.cache.capacity = config.cacheCapacity
  fits : s.cache.Fits

theorem Roomy.created (registry : Registry P) (h : create names config = .ok s) :
    Roomy (s.withRegistry registry) config := by
  unfold create at h
  split at h
  · cases h
  · cases h
    exact ⟨rfl, Cache.fits_empty _⟩

theorem Roomy.resolve (h : Roomy s config) (redirects : Redirects) (url : String)
    (follow : Bool) : Roomy (s.resolve redirects url follow).2.1 config := by
  have hcapacity : (s.cache.get ⟨normalized url, follow⟩).2.capacity = config.cacheCapacity :=
    (Cache.capacity_get _ _).trans h.capacity
  cases hg : (s.cache.get ⟨normalized url, follow⟩).1 with
  | some decision =>
    rw [resolve_of_hit hg]
    exact ⟨hcapacity, h.fits.get _⟩
  | none =>
    cases ht : (target redirects (normalized url) follow).1 with
    | error e =>
      rw [resolve_of_failure hg ht]
      exact ⟨hcapacity, h.fits.get _⟩
    | ok lead =>
      rw [resolve_of_miss hg ht]
      exact ⟨hcapacity, Cache.fits_insert _ _ _⟩

theorem Roomy.next (h : Roomy s config) (a : Step P) : Roomy (s.next a).1 config := by
  cases a with
  | change c => exact ⟨h.capacity, h.fits⟩
  | clearCache => exact ⟨h.capacity, Cache.fits_empty _⟩
  | resolve redirects url follow => exact h.resolve redirects url follow

theorem Run.roomy (h : Run names config s history) : Roomy s config := by
  induction h with
  | created registry hs => exact .created registry hs
  | step a _ ih => exact ih.next a

/-! ## What a miss leaves -/

/-- **A failure leaves the session as it was**, but for one more miss. -/
theorem resolve_snd_of_failure {e : Web.HttpError}
    (hg : (s.cache.get ⟨normalized url, follow⟩).1 = none)
    (ht : (target redirects (normalized url) follow).1 = .error e) :
    (s.resolve redirects url follow).2.1 =
      { s with cache := { s.cache with misses := s.cache.misses + 1 } } := by
  rw [resolve_of_failure hg ht, Cache.get_of_eq_none hg]

/-- **Any other outcome is cached.** -/
theorem cache_resolve_of_miss {lead : String}
    (hg : (s.cache.get ⟨normalized url, follow⟩).1 = none)
    (ht : (target redirects (normalized url) follow).1 = .ok lead) :
    (s.resolve redirects url follow).2.1.cache =
      Cache.insert { s.cache with misses := s.cache.misses + 1 } ⟨normalized url, follow⟩
        (.make s.registry lead) := by
  rw [resolve_of_miss hg ht, Cache.get_of_eq_none hg]

/-- A question is asked only in the mode that follows redirects. -/
theorem follow_of_failure {e : Web.HttpError}
    (ht : (target redirects (normalized url) follow).1 = .error e) : follow = true := by
  cases follow with
  | true => rfl
  | false => cases ht

/-- What is in the cache is answered from there, and nobody is asked. -/
theorem resolve_again {url' : String} {redirects' : Redirects} {t : Session P} {lead : String}
    (hg : (t.cache.get ⟨normalized url, follow⟩).1 = some (.make s.registry lead))
    (hurl : normalized url' = normalized url) :
    (t.resolve redirects' url' follow).1 = freshAnswer s.registry lead ∧
      Event.askedUrls (t.resolve redirects' url' follow).2.2 = [] := by
  rw [← hurl] at hg
  rw [resolve_of_hit hg]
  exact ⟨bind_make _ _, by simp [askedUrls_bind]⟩

/-- **The collaborator is asked once by each resolve that follows redirects
and misses the cache**, about the normalized address, and by nothing else;
without room in the cache every resolve misses. When it fails, its failure
is the answer, only the count of misses has changed, and the next resolve
of the address asks again. When it does not, the decision is stored,
whether a class has won or none, and where there is room for it the next
resolve of the address gives the same answer and asks nobody. -/
theorem asks_once_per_miss (h : Run names config s history) (redirects : Redirects)
    (url : String) (follow : Bool) :
    let key : CacheKey := ⟨normalized url, follow⟩
    let later := (s.resolve redirects url follow).2.1
    Event.askedUrls (story history) = history.reverse.filterMap Moment.question? ∧
    Event.askedUrls (s.resolve redirects url follow).2.2 =
      (if follow = true ∧ (s.cache.get key).1 = none then [normalized url] else []) ∧
    (config.cacheCapacity = 0 → (s.cache.get key).1 = none) ∧
    (∀ e, (s.cache.get key).1 = none → (target redirects (normalized url) follow).1 = .error e →
      (s.resolve redirects url follow).1 = .error (.http e) ∧
      later = { s with cache := { s.cache with misses := s.cache.misses + 1 } } ∧
      ∀ redirects' url', normalized url' = normalized url →
        Event.askedUrls (later.resolve redirects' url' follow).2.2 = [normalized url]) ∧
    ∀ lead, (s.cache.get key).1 = none → (target redirects (normalized url) follow).1 = .ok lead →
      later.cache = Cache.insert { s.cache with misses := s.cache.misses + 1 } key
        (.make s.registry lead) ∧
      (0 < config.cacheCapacity → ∀ redirects' url', normalized url' = normalized url →
        (later.resolve redirects' url' follow).1 = (s.resolve redirects url follow).1 ∧
        Event.askedUrls (later.resolve redirects' url' follow).2.2 = []) := by
  intro key later
  refine ⟨askedUrls_story history, askedUrls_resolve s redirects url follow,
    fun hc => h.roomy.fits.get_eq_none (h.roomy.capacity.trans hc) key, fun e hg ht => ?_,
    fun lead hg ht => ?_⟩
  · have hlater : later = _ := resolve_snd_of_failure hg ht
    refine ⟨by rw [resolve_of_failure hg ht], hlater, fun redirects' url' hurl => ?_⟩
    have hmiss : (later.cache.get ⟨normalized url', follow⟩).1 = none := by
      rw [hlater, hurl, Cache.get_fst, ← Cache.get_fst s.cache key]
      exact hg
    rw [askedUrls_resolve, if_pos ⟨follow_of_failure ht, hmiss⟩, hurl]
  · have hcache : later.cache = _ := cache_resolve_of_miss hg ht
    refine ⟨hcache, fun hroom redirects' url' hurl => ?_⟩
    have hfound : (later.cache.get key).1 = some (.make s.registry lead) := by
      rw [hcache, Cache.get_insert_self]
      exact if_neg (h.roomy.capacity ▸ Nat.ne_of_gt hroom)
    have hanswer : (s.resolve redirects url follow).1 = freshAnswer s.registry lead := by
      rw [resolve_of_miss hg ht]
    rw [hanswer]
    exact resolve_again hfound hurl

/-- A collaborator that never gets an answer. -/
def outage : Redirects := fun _ => ⟨.error (.other "no answer"), []⟩

/-- An address is asked about again after a failure, and not after it was
resolved. -/
theorem failed_question_is_repeated :
    let failed := (soleClass.next (.resolve outage "https://a" true)).1
    let resolved := (failed.next (.resolve direct "https://a" true)).1
    Run Web.localNames oneEntry failed [⟨soleClass, .resolve outage "https://a" true⟩] ∧
      (soleClass.resolve outage "https://a" true).1 = .error (.http (.other "no answer")) ∧
      failed = { soleClass with cache := { soleClass.cache with misses := 1 } } ∧
      Event.askedUrls (failed.resolve direct "https://a" true).2.2 = ["https://a"] ∧
      Event.askedUrls (resolved.resolve outage "https://a" true).2.2 = [] := by
  intro failed resolved
  have hopened : Run Web.localNames oneEntry soleClass [] :=
    .created (s := { soleClass with registry := .empty }) soleClass.registry rfl
  have hfailed : Run Web.localNames oneEntry failed
      [⟨soleClass, .resolve outage "https://a" true⟩] := .step _ hopened
  have hurl : normalized "https://a" = "https://a" := by decide
  obtain ⟨-, -, -, hfailure, -⟩ := asks_once_per_miss hopened outage "https://a" true
  obtain ⟨hanswer, hlater, hagain⟩ := hfailure (.other "no answer") rfl rfl
  obtain ⟨-, -, -, -, hmiss⟩ := asks_once_per_miss hfailed direct "https://a" true
  obtain ⟨-, hcached⟩ := hmiss "https://a" rfl (by rw [hurl]; rfl)
  exact ⟨hfailed, hanswer, hlater, (hagain direct _ rfl).trans (by rw [hurl]),
    (hcached (by decide) outage _ rfl).2⟩

end StreamFinder.Session
