import StreamFinder.Proofs.Session.Resolve
/-!
# How old an answer can be

A cached decision is not the decision of today: the registry may have
changed since it was made, and so may the place where its address leads.
This file says which day it is from. `Faithful` ties every entry of the
cache to the latest miss of its key, and every step keeps it; evictions
and new orders of the entries only take entries away. So an answer is the
fresh answer of the latest miss, and where nothing has changed since the
cache was cleared it is the answer of a session without a cache.
-/

namespace StreamFinder.Session

open Plugin

variable {P : Type} {s : Session P} {history : List (Moment P)} {key : CacheKey}
variable {names : Web.Names} {config : SessionConfig}

/-! ## The latest miss -/

/-- A step that looks a key up does not clear the cache. -/
theorem clears_of_misses {m : Moment P} (h : m.misses key = true) : m.clears = false := by
  obtain ⟨t, a⟩ := m
  cases a with
  | change c => rfl
  | clearCache => cases h
  | resolve redirects url follow => rfl

/-- A miss is the latest one of its key. -/
theorem latestMiss_cons_of_misses {m : Moment P} (h : m.misses key = true) :
    latestMiss key (m :: history) = some m := by
  simp [latestMiss, sinceClear, clears_of_misses h, h]

/-- What neither clears the cache nor misses the key leaves its latest miss. -/
theorem latestMiss_cons_of_not_misses {m : Moment P} (hc : m.clears = false)
    (hm : m.misses key = false) : latestMiss key (m :: history) = latestMiss key history := by
  simp [latestMiss, sinceClear, hc, hm]

theorem mem_sinceClear_of_latestMiss {m : Moment P} (h : latestMiss key history = some m) :
    m ∈ sinceClear history :=
  List.mem_of_find?_eq_some h

theorem misses_resolve {redirects : Redirects} {url : String} {follow : Bool} :
    (⟨s, .resolve redirects url follow⟩ : Moment P).misses key = true ↔
      ⟨normalized url, follow⟩ = key ∧ (s.cache.get key).1 = none := by
  simp [Moment.misses]

/-- Resolving leaves the latest miss of every other key, and that of its own key on a hit. -/
theorem latestMiss_cons_resolve {redirects : Redirects} {url : String} {follow : Bool}
    (h : ⟨normalized url, follow⟩ = key → (s.cache.get key).1 ≠ none) :
    latestMiss key (⟨s, .resolve redirects url follow⟩ :: history) = latestMiss key history := by
  refine latestMiss_cons_of_not_misses rfl ?_
  rw [Bool.eq_false_iff, ne_eq, misses_resolve]
  exact fun hmiss => h hmiss.1 hmiss.2

/-! ## What the entries of a cache remember -/

/-- The decision that a step comes to under a key, when it finds none in the cache. -/
def Moment.Decides (m : Moment P) (key : CacheKey) (decision : Decision P) : Prop :=
  ∃ redirects url lead, m.step = .resolve redirects url key.followed ∧ normalized url = key.url ∧
    (target redirects key.url key.followed).1 = .ok lead ∧
    decision = .make m.session.registry lead

/-- Every entry is the decision of the latest miss of its key. -/
def Faithful (s : Session P) (history : List (Moment P)) : Prop :=
  ∀ e ∈ s.cache.entries, ∃ m, latestMiss e.1 history = some m ∧ m.Decides e.1 e.2

/-- A session that is just opened has nothing to remember. -/
theorem Faithful.created (registry : Registry P) (h : create names config = .ok s) :
    Faithful (s.withRegistry registry) [] := by
  unfold create at h
  split at h
  · cases h
  · cases h
    intro e he
    cases he

/-- **Resolving keeps what the entries remember.** A hit moves entries; a
miss that fails leaves them, and none of them is of its key; a miss that
succeeds puts its own decision in the place of whatever was there. -/
theorem Faithful.resolve (h : Faithful s history) (redirects : Redirects) (url : String)
    (follow : Bool) :
    Faithful (s.resolve redirects url follow).2.1
      (⟨s, .resolve redirects url follow⟩ :: history) := by
  cases hg : (s.cache.get ⟨normalized url, follow⟩).1 with
  | some decision =>
    rw [resolve_of_hit hg]
    intro e he
    obtain ⟨m, hm, hd⟩ := h e (Cache.mem_entries_of_mem_get he)
    refine ⟨m, ?_, hd⟩
    rw [latestMiss_cons_resolve, hm]
    intro hk
    rw [← hk, hg]
    simp
  | none =>
    -- an entry of another key remembers what it did before
    have others : ∀ e ∈ s.cache.entries, e.1 ≠ ⟨normalized url, follow⟩ →
        ∃ m, latestMiss e.1 (⟨s, .resolve redirects url follow⟩ :: history) = some m ∧
          m.Decides e.1 e.2 := by
      intro e he hne
      obtain ⟨m, hm, hd⟩ := h e he
      exact ⟨m, by rw [latestMiss_cons_resolve fun hk => absurd hk.symm hne, hm], hd⟩
    cases ht : (target redirects (normalized url) follow).1 with
    | error failure =>
      rw [resolve_of_failure hg ht]
      intro e he
      have hmem := Cache.mem_entries_of_mem_get he
      exact others e hmem (Cache.ne_of_get_eq_none hg hmem)
    | ok lead =>
      rw [resolve_of_miss hg ht]
      intro e he
      rcases Cache.eq_or_mem_of_mem_insert he with rfl | ⟨hmem, hne⟩
      · exact ⟨_, latestMiss_cons_of_misses (misses_resolve.2 ⟨rfl, hg⟩),
          redirects, url, lead, rfl, rfl, ht, rfl⟩
      · exact others e (Cache.mem_entries_of_mem_get hmem) hne

/-- **Every step keeps what the entries remember.** -/
theorem Faithful.next (h : Faithful s history) (a : Step P) :
    Faithful (s.next a).1 (⟨s, a⟩ :: history) := by
  cases a with
  | change c =>
    intro e he
    obtain ⟨m, hm, hd⟩ := h e he
    exact ⟨m, by rw [latestMiss_cons_of_not_misses rfl rfl, hm], hd⟩
  | clearCache =>
    intro e he
    cases he
  | resolve redirects url follow => exact h.resolve redirects url follow

/-- So it holds in every history. -/
theorem Run.faithful (h : Run names config s history) : Faithful s history := by
  induction h with
  | created registry hs => exact Faithful.created registry hs
  | step a _ ih => exact ih.next a

/-! ## The answers -/

/-- **An answer is the fresh answer of the latest miss**, unless the
collaborator has failed just now. -/
theorem Faithful.resolve_eq (h : Faithful s history) (redirects : Redirects) (url : String)
    (follow : Bool) :
    (∃ e, (⟨s, .resolve redirects url follow⟩ : Moment P).misses ⟨normalized url, follow⟩ = true ∧
      (target redirects (normalized url) follow).1 = .error e ∧
      (s.resolve redirects url follow).1 = .error (.http e)) ∨
    ∃ m redirects' url' lead,
      latestMiss ⟨normalized url, follow⟩ (⟨s, .resolve redirects url follow⟩ :: history) = some m ∧
      m.step = .resolve redirects' url' follow ∧ normalized url' = normalized url ∧
      (target redirects' (normalized url) follow).1 = .ok lead ∧
      (s.resolve redirects url follow).1 = freshAnswer m.session.registry lead := by
  cases hg : (s.cache.get ⟨normalized url, follow⟩).1 with
  | some decision =>
    obtain ⟨m, hm, redirects', url', lead, hstep, hurl, ht, hd⟩ :=
      h _ (Cache.mem_entries_of_get hg)
    refine Or.inr ⟨m, redirects', url', lead, ?_, hstep, hurl, ht, ?_⟩
    · rw [latestMiss_cons_resolve fun _ => by simp [hg], hm]
    · rw [resolve_of_hit hg, ← bind_make, ← hd]
  | none =>
    have hmiss : (⟨s, .resolve redirects url follow⟩ : Moment P).misses
        ⟨normalized url, follow⟩ = true := misses_resolve.2 ⟨rfl, hg⟩
    cases ht : (target redirects (normalized url) follow).1 with
    | error e => exact Or.inl ⟨e, hmiss, rfl, by rw [resolve_of_failure hg ht]⟩
    | ok lead =>
      exact Or.inr ⟨_, redirects, url, lead, latestMiss_cons_of_misses hmiss, rfl, rfl, ht,
        by rw [resolve_of_miss hg ht]⟩

/-- Collaborators that answer alike lead to the same targets. -/
theorem target_congr {redirects redirects' : Redirects} {url : String} {follow : Bool}
    (h : ∀ u, (redirects' u).target = (redirects u).target) :
    (target redirects' url follow).1 = (target redirects url follow).1 := by
  unfold target
  split
  · exact h url
  · rfl

/-- **An unchanged session answers as without a cache**, hit or miss: what
the latest miss has found is what would be found today. -/
theorem Faithful.resolve_eq_uncachedAnswer (h : Faithful s history) {redirects : Redirects}
    {url : String} {follow : Bool}
    (hsame : ∀ m ∈ sinceClear history, m.session.registry = s.registry ∧
      ∀ redirects' url' follow', m.step = .resolve redirects' url' follow' →
        ∀ u, (redirects' u).target = (redirects u).target) :
    (s.resolve redirects url follow).1 = s.uncachedAnswer redirects url follow := by
  rcases h.resolve_eq redirects url follow with
    ⟨e, -, ht, ha⟩ | ⟨m, redirects', url', lead, hm, hstep, -, ht, ha⟩
  · rw [ha, uncachedAnswer, ht]
  · -- the latest miss is this very step or one of those that the hypothesis speaks of
    rcases List.mem_cons.1 (mem_sinceClear_of_latestMiss hm) with rfl | hmem
    · cases hstep
      rw [ha, uncachedAnswer, ht]
    · obtain ⟨hregistry, htable⟩ := hsame m hmem
      rw [target_congr (htable _ _ _ hstep)] at ht
      rw [ha, hregistry, uncachedAnswer, ht]

/-- **A hit has a miss before it** that was asked in the same mode. -/
theorem Faithful.exists_miss_of_hit (h : Faithful s history) {decision : Decision P}
    (hg : (s.cache.get key).1 = some decision) :
    ∃ m ∈ sinceClear history, ∃ redirects url,
      m.step = .resolve redirects url key.followed ∧ normalized url = key.url := by
  obtain ⟨m, hm, redirects, url, -, hstep, hurl, -, -⟩ := h _ (Cache.mem_entries_of_get hg)
  exact ⟨m, mem_sinceClear_of_latestMiss hm, redirects, url, hstep, hurl⟩

/-- **How old an answer is.** In every history, whatever was evicted,
renamed or replaced meanwhile: an answer that the collaborator has not
failed is the fresh answer of the latest miss of its key since the cache
was cleared, which is this very step when it misses. Where neither the
registry nor the collaborator has changed since then, it is the answer of
a session without a cache. And a key that was not asked for in this mode
is not in the cache, whatever was asked in the other one. -/
theorem resolve_answers_latest_miss (h : Run names config s history) (redirects : Redirects)
    (url : String) (follow : Bool) :
    ((∃ e,
        (⟨s, .resolve redirects url follow⟩ : Moment P).misses ⟨normalized url, follow⟩ = true ∧
        (target redirects (normalized url) follow).1 = .error e ∧
        (s.resolve redirects url follow).1 = .error (.http e)) ∨
      ∃ m redirects' url' lead,
        latestMiss ⟨normalized url, follow⟩ (⟨s, .resolve redirects url follow⟩ :: history) =
          some m ∧
        m.step = .resolve redirects' url' follow ∧ normalized url' = normalized url ∧
        (target redirects' (normalized url) follow).1 = .ok lead ∧
        (s.resolve redirects url follow).1 = freshAnswer m.session.registry lead) ∧
    ((∀ m ∈ sinceClear history, m.session.registry = s.registry ∧
        ∀ redirects' url' follow', m.step = .resolve redirects' url' follow' →
          ∀ u, (redirects' u).target = (redirects u).target) →
      (s.resolve redirects url follow).1 = s.uncachedAnswer redirects url follow) ∧
    ((∀ m ∈ sinceClear history, ∀ redirects' url', m.step = .resolve redirects' url' follow →
        normalized url' ≠ normalized url) →
      (⟨s, .resolve redirects url follow⟩ : Moment P).misses ⟨normalized url, follow⟩ = true) := by
  refine ⟨h.faithful.resolve_eq redirects url follow, h.faithful.resolve_eq_uncachedAnswer, ?_⟩
  intro hnew
  refine misses_resolve.2 ⟨rfl, ?_⟩
  cases hg : (s.cache.get ⟨normalized url, follow⟩).1 with
  | none => rfl
  | some decision =>
    obtain ⟨m, hm, redirects', url', hstep, hurl⟩ := h.faithful.exists_miss_of_hit hg
    exact absurd hurl (hnew m hm redirects' url' hstep)

/-- A configuration with room for one decision. -/
def oneEntry : SessionConfig := { SessionConfig.default with userAgent := "a", cacheCapacity := 1 }

/-- A collaborator that knows of no redirects. -/
def direct : Redirects := fun url => ⟨.ok url, []⟩

/-- A session with one class, which claims every address. -/
def soleClass : Session Input :=
  ⟨oneEntry, ⟨"a", none, 10⟩, ⟨[⟨"any", .legacy ⟨fun _ => true, none⟩, id⟩]⟩, .empty 1, .empty⟩

/-- An address is resolved, and then the class is removed. -/
def removal : List (Moment Input) :=
  [⟨(soleClass.next (.resolve direct "https://a" true)).1, .change (.unregister "any")⟩,
    ⟨soleClass, .resolve direct "https://a" true⟩]

/-- The removed class still answers, since it has won at the latest miss;
in the other mode the address misses; and until the removal the answer is
the one of a session without a cache. -/
theorem removed_class_answers :
    let visited := (soleClass.next (.resolve direct "https://a" true)).1
    let s := (visited.next (.change (.unregister "any"))).1
    Run Web.localNames oneEntry s removal ∧
      (s.resolve direct "https://a" true).1 = freshAnswer soleClass.registry "https://a" ∧
      (⟨s, .resolve direct "https://a" false⟩ : Moment Input).misses
        ⟨normalized "https://a", false⟩ = true ∧
      (visited.resolve direct "https://a" true).1 =
        visited.uncachedAnswer direct "https://a" true := by
  intro visited s
  have hvisited : Run Web.localNames oneEntry visited removal.tail :=
    .step _ (.created (s := { soleClass with registry := .empty }) soleClass.registry rfl)
  have hrun : Run Web.localNames oneEntry s removal := .step _ hvisited
  refine ⟨hrun, ?_, (resolve_answers_latest_miss hrun direct "https://a" false).2.2 ?_,
    (resolve_answers_latest_miss hvisited direct "https://a" true).2.1 ?_⟩
  · rcases (resolve_answers_latest_miss hrun direct "https://a" true).1 with
      ⟨e, -, ht, -⟩ | ⟨m, redirects', url', lead, hm, hstep, -, ht, ha⟩
    · cases ht
    · have hmiss : some m = some ⟨soleClass, .resolve direct "https://a" true⟩ := hm.symm.trans rfl
      cases hmiss
      cases hstep
      cases ht
      exact ha
  · intro m hm redirects' url' hstep
    simp [sinceClear, removal, Moment.clears] at hm
    rcases hm with rfl | rfl <;> cases hstep
  · intro m hm
    simp [sinceClear, removal, Moment.clears] at hm
    subst hm
    refine ⟨rfl, ?_⟩
    rintro _ _ _ hstep u
    cases hstep
    rfl

end StreamFinder.Session
