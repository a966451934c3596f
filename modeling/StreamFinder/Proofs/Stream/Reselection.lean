import StreamFinder.Proofs.Stream.Choosing
/-!
# Selecting from what has been selected

A catalog with aliases can be selected from again. No alias tells a
quality, so the candidates are the same as before (`listOf_select`), and
what was written under an alias is never chosen again, but only written
over. It shows through in one case: where the second exclusions keep
nothing, the best and the worst stream are not written, and those of the
first selection stay.
-/

namespace StreamFinder.Stream

open Quality Candidate

variable {c : Catalog} {E F : Exclusions} {role name : String}

/-! ## The candidates are the same -/

/-- Storing what a filter drops changes nothing that it keeps. -/
theorem filterMap_storeEntry {α : Type} {f : String × Handle → Option α}
    (hdrop : ∀ h, f (name, h) = none) (h : Handle) (l : List (String × Handle)) :
    (storeEntry name h l).filterMap f = l.filterMap f := by
  induction l with
  | nil => simp [storeEntry, hdrop]
  | cons e l ih =>
    obtain ⟨name', h'⟩ := e
    simp only [storeEntry]
    split
    · rw [List.filterMap_cons_none (hdrop h)]
    · split
      · next heq =>
        subst heq
        rw [List.filterMap_cons_none (hdrop h), List.filterMap_cons_none (hdrop h')]
      · rw [List.filterMap_cons, List.filterMap_cons, ih]

theorem listOf_writeAlias (hrole : role ∈ aliasNames) (target : Option Candidate) (c : Catalog) :
    listOf (writeAlias role target c) = listOf c := by
  cases target with
  | none => rfl
  | some t =>
    refine filterMap_storeEntry (fun h => ?_) t.handle c.entries
    simp [Weight.key?, not_isSortable_of_mem_aliasNames hrole]

/-- **Selecting adds no candidates and removes none.** -/
theorem listOf_select (c : Catalog) (exclusions : Exclusions) :
    listOf (select c exclusions) = listOf c := by
  unfold select
  rw [listOf_writeAlias (by decide), listOf_writeAlias (by decide),
    listOf_writeAlias (by decide), listOf_writeAlias (by decide)]

theorem chosen?_select (c : Catalog) (E F : Exclusions) (role : String) :
    chosen? (select c E) F role = chosen? c F role := by
  simp only [chosen?, keptOf, listOf_select]

/-! ## What shows through -/

/-- Whatever is excluded, the unfiltered aliases are written for the same candidates. -/
theorem chosen?_congr (hbest : role ≠ bestName) (hworst : role ≠ worstName) :
    chosen? c E role = chosen? c F role := by
  simp [chosen?, hbest, hworst]

/-- Where something is kept, the best and the worst stream are written. -/
theorem isSome_chosen? (hname : Kept c E name) (hrole : role = bestName ∨ role = worstName) :
    (chosen? c E role).isSome = true := by
  obtain ⟨x, hx, -⟩ := kept_iff.1 hname
  rcases hrole with rfl | rfl
  · obtain ⟨y, -, hbest, -⟩ := exists_best? (pairwise_keptOf c E) hx
    simp [hbest]
  · obtain ⟨y, -, hworst, -⟩ := exists_worst? (pairwise_keptOf c E) hx
    simp [hworst]

/-- Where nothing is kept, they are not. -/
theorem chosen?_eq_none (hnone : ∀ name, ¬ Kept c E name)
    (hrole : role = bestName ∨ role = worstName) : chosen? c E role = none := by
  have hempty : keptOf c E = [] :=
    List.eq_nil_iff_forall_not_mem.2 fun x hx => hnone _ (kept_iff.2 ⟨x, hx, rfl⟩)
  rcases hrole with rfl | rfl <;> simp [hempty, best?, worst?]

/-- What the second selection finds under a name: what it has chosen
itself, else what the first one has chosen, else what was there. -/
theorem get?_select_select (c : Catalog) (E F : Exclusions) (role : String) :
    (select (select c E) F).get? role =
      ((chosen? c F role).map handle).or (((chosen? c E role).map handle).or (c.get? role)) := by
  rw [get?_select, get?_select, chosen?_select]

theorem get?_select_select_of_isSome (h : (chosen? c F role).isSome = true) :
    (select (select c E) F).get? role = (select c F).get? role := by
  obtain ⟨x, hx⟩ := Option.isSome_iff_exists.1 h
  rw [get?_select_select, get?_select, hx]
  rfl

theorem get?_select_select_of_ne (hbest : role ≠ bestName) (hworst : role ≠ worstName) :
    (select (select c E) F).get? role = (select c F).get? role := by
  rw [get?_select_select, get?_select, chosen?_congr (E := E) (F := F) hbest hworst,
    ← Option.or_assoc, Option.or_self]

/-- **Aliases do not feed back into selection.** Selecting again gives
what selecting once with the second exclusions gives, except perhaps for
the best and the worst stream, and also for them if the second exclusions
keep anything. If they keep nothing, selecting again changes nothing. And
with the same exclusions it changes nothing in any case. -/
theorem reselecting_forgets_aliases (c : Catalog) (E F : Exclusions) :
    (∀ role, role ≠ bestName → role ≠ worstName →
      (select (select c E) F).get? role = (select c F).get? role) ∧
    ((∃ name, Kept c F name) → select (select c E) F = select c F) ∧
    ((∀ name, ¬ Kept c F name) → select (select c E) F = select c E) ∧
    select (select c E) E = select c E := by
  refine ⟨fun role => get?_select_select_of_ne, fun ⟨name, hname⟩ => ?_, fun hnone => ?_, ?_⟩
  · refine Catalog.ext_get? fun role => ?_
    by_cases hrole : role = bestName ∨ role = worstName
    · exact get?_select_select_of_isSome (isSome_chosen? hname hrole)
    · rw [not_or] at hrole
      exact get?_select_select_of_ne hrole.1 hrole.2
  · refine Catalog.ext_get? fun role => ?_
    rw [get?_select_select, get?_select]
    by_cases hrole : role = bestName ∨ role = worstName
    · rw [chosen?_eq_none hnone hrole]
      rfl
    · rw [not_or] at hrole
      rw [chosen?_congr (E := F) (F := E) hrole.1 hrole.2, ← Option.or_assoc, Option.or_self]
  · refine Catalog.ext_get? fun role => ?_
    rw [get?_select_select, get?_select, ← Option.or_assoc, Option.or_self]

/-- The rule that excludes every name. -/
def everything : Exclusions := [.predicate fun _ => true]

/-- With exclusions that keep a stream the second selection is as good as
the first one; with exclusions that keep none, the best stream of the
first one shows through, where the plugin's own would have stayed. -/
theorem tied_shows_through :
    (Kept tied [.named "720p"] "0720p" ∧
      select (select tied []) [.named "720p"] = select tied [.named "720p"]) ∧
    ((∀ name, ¬ Kept tied everything name) ∧
      select (select tied []) everything = select tied [] ∧
      (select tied []).get? bestName = tied.get? "720p" ∧
      (select tied everything).get? bestName = tied.get? "best") ∧
    (bestUnfilteredName ≠ bestName ∧ bestUnfilteredName ≠ worstName ∧
      (select (select tied []) everything).get? bestUnfilteredName =
        (select tied everything).get? bestUnfilteredName) :=
  have hkept : Kept tied [.named "720p"] "0720p" := ⟨⟨by decide, by decide⟩, by decide⟩
  have hnone : ∀ name, ¬ Kept tied everything name := fun _ hname =>
    Bool.true_eq_false.mp (hname.2 _ List.mem_cons_self)
  ⟨⟨hkept, (reselecting_forgets_aliases tied [] [.named "720p"]).2.1 ⟨_, hkept⟩⟩,
    ⟨hnone, (reselecting_forgets_aliases tied [] everything).2.2.1 hnone, by decide, by decide⟩,
    by decide, by decide,
    (reselecting_forgets_aliases tied [] everything).1 _ (by decide) (by decide)⟩

end StreamFinder.Stream
