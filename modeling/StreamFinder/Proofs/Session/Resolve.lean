import StreamFinder.Session.History
/-!
# The three ways of a resolve

A resolve finds its decision in the cache, or it is let down by the
collaborator, or it decides anew. Each way has one equation, and what a
whole history keeps is read off these three; a decision is bound in the
same way whether it is new or was cached.
-/

namespace StreamFinder.Session

open Plugin

variable {P : Type} {s : Session P} {redirects : Redirects} {url : String} {follow : Bool}

/-- **Binding a decision answers what the selection has found.** -/
theorem bind_make (registry : Registry P) (target : String) :
    (bind (.make registry target)).1 = freshAnswer registry target := by
  unfold freshAnswer Decision.make
  cases Contender.best? (Contender.listOf registry.classes target) with
  | none => rfl
  | some x => rfl

/-- A decision that is cached is bound, and only the order of the entries
and the count of hits have changed. -/
theorem resolve_of_hit {decision : Decision P}
    (h : (s.cache.get ⟨normalized url, follow⟩).1 = some decision) :
    s.resolve redirects url follow =
      ((bind decision).1, { s with cache := (s.cache.get ⟨normalized url, follow⟩).2 },
        .reported (.cacheHit (normalized url) follow) :: (bind decision).2) := by
  have hg : s.cache.get ⟨normalized url, follow⟩ = (some decision, _) := Prod.ext h rfl
  simp only [resolve]
  rw [hg]

/-- Where the collaborator fails, its failure is the answer, and only the
miss is counted. -/
theorem resolve_of_failure {e : Web.HttpError}
    (h : (s.cache.get ⟨normalized url, follow⟩).1 = none)
    (ht : (target redirects (normalized url) follow).1 = .error e) :
    s.resolve redirects url follow =
      (.error (.http e), { s with cache := (s.cache.get ⟨normalized url, follow⟩).2 },
        (target redirects (normalized url) follow).2) := by
  have hg : s.cache.get ⟨normalized url, follow⟩ = (none, _) := Prod.ext h rfl
  have hl : target redirects (normalized url) follow = (.error e, _) := Prod.ext ht rfl
  simp only [resolve]
  rw [hg, hl]

/-- Otherwise the registry decides about the target, and the decision is
cached before it is bound. -/
theorem resolve_of_miss {lead : String}
    (h : (s.cache.get ⟨normalized url, follow⟩).1 = none)
    (ht : (target redirects (normalized url) follow).1 = .ok lead) :
    s.resolve redirects url follow =
      (freshAnswer s.registry lead,
        { s with
          cache := (s.cache.get ⟨normalized url, follow⟩).2.insert ⟨normalized url, follow⟩
            (.make s.registry lead)
          notices := (s.decide lead).2.1.notices },
        (target redirects (normalized url) follow).2 ++ (s.decide lead).2.2 ++
          (bind (.make s.registry lead)).2) := by
  have hg : s.cache.get ⟨normalized url, follow⟩ = (none, _) := Prod.ext h rfl
  have hl : target redirects (normalized url) follow = (.ok lead, _) := Prod.ext ht rfl
  rw [← bind_make]
  simp only [resolve]
  rw [hg, hl]
  rfl

end StreamFinder.Session
