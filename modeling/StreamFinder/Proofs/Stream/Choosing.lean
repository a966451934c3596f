import Mathlib.Data.List.Chain
import StreamFinder.Proofs.Stream.Alias
/-!
# How exclusions narrow the choice

An alias is written for one candidate (`chosen?`) or not at all, and that
is all that selecting does (`get?_select`). Of the exclusions the choice
sees no more than which candidates they keep, so their order and their
repetitions make no difference. More rules keep fewer candidates, and the
two ends of fewer candidates are nearer to each other: the choices under
two lists of rules, one within the other, stand in one chain, between
those of all candidates.
-/

namespace StreamFinder.Stream

open Quality Candidate

variable {c : Catalog} {E F : Exclusions} {role name : String} {x : Candidate} {l : List Candidate}

/-! ## What is chosen -/

/-- The candidates that no rule excludes. -/
def keptOf (c : Catalog) (exclusions : Exclusions) : List Candidate :=
  (listOf c).filter fun x => !exclusions.excludes x.name

/-- The candidate that an alias is written for. -/
def chosen? (c : Catalog) (exclusions : Exclusions) (role : String) : Option Candidate :=
  if role = bestName then best? (keptOf c exclusions)
  else if role = worstName then worst? (keptOf c exclusions)
  else if role = bestUnfilteredName then best? (listOf c)
  else if role = worstUnfilteredName then worst? (listOf c)
  else none

/-- The name that an alias is written for. -/
def chosenName? (c : Catalog) (exclusions : Exclusions) (role : String) : Option String :=
  (chosen? c exclusions role).map Candidate.name

@[simp] theorem chosen?_bestName : chosen? c E bestName = best? (keptOf c E) := rfl

@[simp] theorem chosen?_worstName : chosen? c E worstName = worst? (keptOf c E) := rfl

@[simp] theorem chosen?_bestUnfilteredName :
    chosen? c E bestUnfilteredName = best? (listOf c) := rfl

@[simp] theorem chosen?_worstUnfilteredName :
    chosen? c E worstUnfilteredName = worst? (listOf c) := rfl

theorem mem_aliasNames : role ∈ aliasNames ↔ role = bestName ∨ role = worstName ∨
    role = bestUnfilteredName ∨ role = worstUnfilteredName := by
  simp [aliasNames]

/-- No alias tells a quality. -/
theorem not_isSortable_of_mem_aliasNames (h : role ∈ aliasNames) :
    (weigh role).isSortable = false := by
  rcases mem_aliasNames.1 h with rfl | rfl | rfl | rfl <;> decide

theorem chosen?_of_notMem (h : role ∉ aliasNames) : chosen? c E role = none := by
  simp only [mem_aliasNames, not_or] at h
  simp [chosen?, h]

/-- **Selecting writes what is chosen**, and leaves the rest. -/
theorem get?_select (c : Catalog) (exclusions : Exclusions) (role : String) :
    (select c exclusions).get? role =
      ((chosen? c exclusions role).map handle).or (c.get? role) := by
  by_cases h : role ∈ aliasNames
  · -- the four names differ, so each alias is read past the writes of the others
    rcases mem_aliasNames.1 h with rfl | rfl | rfl | rfl <;>
      simp [select, get?_writeAlias, chosen?, keptOf, bestName, worstName, bestUnfilteredName,
        worstUnfilteredName]
  · rw [chosen?_of_notMem h]
    simp only [mem_aliasNames, not_or] at h
    simp [select, get?_writeAlias, h]

theorem sublist_keptOf (c : Catalog) (exclusions : Exclusions) :
    (keptOf c exclusions).Sublist (listOf c) := List.filter_sublist

theorem pairwise_keptOf (c : Catalog) (exclusions : Exclusions) :
    (keptOf c exclusions).Pairwise fun a b => a.name < b.name :=
  (pairwise_listOf c).sublist (sublist_keptOf c exclusions)

/-! ## The ends of some candidates -/

section Extreme

/-! Some candidates and an end of them, in one order or in the other. -/

variable {found : Option Candidate} {related : Candidate → Candidate → Prop}

theorem mem_of_extreme
    (hfound : l = [] ∧ found = none ∨ ∃ y ∈ l, found = some y ∧ ∀ x ∈ l, related x y)
    (h : found = some x) : x ∈ l := by
  rcases hfound with ⟨-, hnone⟩ | ⟨y, hy, hsome, -⟩
  · cases hnone.symm.trans h
  · exact Option.some.inj (hsome.symm.trans h) ▸ hy

theorem exists_extreme
    (hfound : l = [] ∧ found = none ∨ ∃ y ∈ l, found = some y ∧ ∀ x ∈ l, related x y)
    (hx : x ∈ l) : ∃ y ∈ l, found = some y ∧ related x y := by
  rcases hfound with ⟨rfl, -⟩ | ⟨y, hy, hsome, hall⟩
  · cases hx
  · exact ⟨y, hy, hsome, hall x hx⟩

end Extreme

/-- The best of some candidates is at least as good as each of them. -/
theorem exists_best? (hl : l.Pairwise fun a b => a.name < b.name) (hx : x ∈ l) :
    ∃ y ∈ l, best? l = some y ∧ NoBetter x.standing y.standing :=
  exists_extreme (best?_greatest hl) hx

/-- The worst of some candidates is no better than each of them. -/
theorem exists_worst? (hl : l.Pairwise fun a b => a.name < b.name) (hx : x ∈ l) :
    ∃ y ∈ l, worst? l = some y ∧ NoBetter y.standing x.standing :=
  exists_extreme (worst?_least hl) hx

/-- What is chosen is a candidate. -/
theorem mem_of_chosen? (h : chosen? c E role = some x) : x ∈ listOf c := by
  by_cases hrole : role ∈ aliasNames
  · rcases mem_aliasNames.1 hrole with rfl | rfl | rfl | rfl
    · exact (sublist_keptOf c E).mem (mem_of_extreme (best?_greatest (pairwise_keptOf c E)) h)
    · exact (sublist_keptOf c E).mem (mem_of_extreme (worst?_least (pairwise_keptOf c E)) h)
    · exact mem_of_extreme (best?_greatest (pairwise_listOf c)) h
    · exact mem_of_extreme (worst?_least (pairwise_listOf c)) h
  · rw [chosen?_of_notMem hrole] at h
    cases h

/-- An alias stands for a name that tells a quality. -/
theorem sortable_of_chosenName? (h : chosenName? c E role = some name) :
    Sortable c name ∧ (select c E).get? role = c.get? name := by
  obtain ⟨x, hx, rfl⟩ := Option.map_eq_some_iff.1 h
  have hmem := mem_of_chosen? hx
  refine ⟨sortable_iff.2 ⟨x, hmem, rfl⟩, ?_⟩
  rw [get?_select, hx, (mem_listOf.1 hmem).1]
  rfl

/-- And such a name is no alias. -/
theorem Sortable.notMem_aliasNames (h : Sortable c name) : name ∉ aliasNames := fun hmem =>
  Bool.false_ne_true ((not_isSortable_of_mem_aliasNames hmem).symm.trans h.2)

/-! ## Fewer candidates -/

theorem mem_keptOf : x ∈ keptOf c E ↔ x ∈ listOf c ∧ ∀ rule ∈ E, rule.excludes x.name = false := by
  simp [keptOf, Exclusions.excludes]

/-- More rules keep fewer candidates. -/
theorem mem_keptOf_mono (h : ∀ rule ∈ E, rule ∈ F) (hx : x ∈ keptOf c F) : x ∈ keptOf c E := by
  rw [mem_keptOf] at hx ⊢
  exact ⟨hx.1, fun rule hrule => hx.2 rule (h rule hrule)⟩

theorem Kept.mono (h : ∀ rule ∈ E, rule ∈ F) (hname : Kept c F name) : Kept c E name :=
  ⟨hname.1, fun rule hrule => hname.2 rule (h rule hrule)⟩

/-- **Only the set of the rules counts.** -/
theorem keptOf_congr (h : ∀ rule, rule ∈ E ↔ rule ∈ F) : keptOf c E = keptOf c F := by
  have hsame : ∀ name, E.excludes name = F.excludes name := fun name => by
    rw [Bool.eq_iff_iff, Exclusions.excludes, Exclusions.excludes]
    simp only [List.any_eq_true, h]
  exact List.filter_congr fun x _ => congrArg not (hsame x.name)

/-- Candidates stand to each other as their names do. -/
theorem noBetter_quality {x y : Candidate} (hx : x ∈ listOf c) (hy : y ∈ listOf c)
    (h : NoBetter x.standing y.standing) : NoBetter (quality x.name) (quality y.name) := by
  rwa [(mem_listOf.1 hx).2.2, (mem_listOf.1 hy).2.2] at h

/-- The six choices stand in one chain: the worst of all, the worst under
fewer rules, the worst under more, and the best under more rules, under
fewer, and of all. -/
def ChoicesNest (c : Catalog) (fewer more : Exclusions) : Prop :=
  ∃ worst worstOfMany worstOfFew bestOfFew bestOfMany best,
    chosenName? c more worstUnfilteredName = some worst ∧
    chosenName? c fewer worstName = some worstOfMany ∧
    chosenName? c more worstName = some worstOfFew ∧
    chosenName? c more bestName = some bestOfFew ∧
    chosenName? c fewer bestName = some bestOfMany ∧
    chosenName? c more bestUnfilteredName = some best ∧
    List.IsChain (fun a b => NoBetter (quality a) (quality b))
      [worst, worstOfMany, worstOfFew, bestOfFew, bestOfMany, best]

/-- **Fewer candidates have nearer ends**, as long as there are any. -/
theorem choicesNest (h : ∀ rule ∈ E, rule ∈ F) (hname : Kept c F name) : ChoicesNest c E F := by
  obtain ⟨x, hx, -⟩ := kept_iff.1 hname
  have hall : ∀ E, ∀ y ∈ keptOf c E, y ∈ listOf c := fun E _ => (sublist_keptOf c E).mem
  -- the chain is built from its middle to both ends
  obtain ⟨wF, hwF, hworstF, -⟩ := exists_worst? (pairwise_keptOf c F) hx
  obtain ⟨bF, hbF, hbestF, hmiddle⟩ := exists_best? (pairwise_keptOf c F) hwF
  obtain ⟨wE, hwE, hworstE, hworse⟩ :=
    exists_worst? (pairwise_keptOf c E) (mem_keptOf_mono h hwF)
  obtain ⟨bE, hbE, hbestE, hbetter⟩ := exists_best? (pairwise_keptOf c E) (mem_keptOf_mono h hbF)
  obtain ⟨w, hw, hworst, hleast⟩ := exists_worst? (pairwise_listOf c) (hall E _ hwE)
  obtain ⟨b, hb, hbest, hgreatest⟩ := exists_best? (pairwise_listOf c) (hall E _ hbE)
  refine ⟨_, _, _, _, _, _, congrArg _ hworst, congrArg _ hworstE, congrArg _ hworstF,
    congrArg _ hbestF, congrArg _ hbestE, congrArg _ hbest, ?_⟩
  simp only [List.isChain_cons_cons, List.isChain_singleton, and_true]
  exact ⟨noBetter_quality hw (hall E _ hwE) hleast,
    noBetter_quality (hall E _ hwE) (hall F _ hwF) hworse,
    noBetter_quality (hall F _ hwF) (hall F _ hbF) hmiddle,
    noBetter_quality (hall F _ hbF) (hall E _ hbE) hbetter,
    noBetter_quality (hall E _ hbE) hb hgreatest⟩

/-- **Exclusions narrow the choice.** An alias is written for a name that
tells a quality. Where all rules of one list are in another, what the
other keeps the one keeps as well, and if it keeps anything, the choices
nest. Lists of the same rules, in any order and with any repetitions,
select alike. -/
theorem exclusions_narrow_choice (c : Catalog) :
    (∀ E role name, chosenName? c E role = some name →
      Sortable c name ∧ (select c E).get? role = c.get? name) ∧
    (∀ E F : Exclusions, (∀ rule ∈ E, rule ∈ F) →
      (∀ name, Kept c F name → Kept c E name) ∧
      ((∃ name, Kept c F name) → ChoicesNest c E F)) ∧
    (∀ E F : Exclusions, (∀ rule, rule ∈ E ↔ rule ∈ F) → select c E = select c F) := by
  refine ⟨fun E role name => sortable_of_chosenName?,
    fun E F h => ⟨fun _ => .mono h, fun ⟨_, hname⟩ => choicesNest h hname⟩, fun E F h => ?_⟩
  refine Catalog.ext_get? fun role => ?_
  rw [get?_select, get?_select]
  simp only [chosen?, keptOf_congr h]

/-- Two resolutions of one weight, and two bitrates. -/
def ladder : Catalog := .ofOffers [
  ("01080p", ⟨"http", none, 0⟩), ("1080p", ⟨"http", none, 1⟩), ("1500k", ⟨"http", none, 2⟩),
  ("350k", ⟨"http", none, 3⟩)]

/-- One name is excluded. -/
def fewRules : Exclusions := [.named "1080p"]

/-- The name is excluded twice, and with it all high resolutions and low bitrates. -/
def moreRules : Exclusions :=
  [.named "1080p", .compare .ge ⟨.resolution, 1000⟩, .named "1080p", .compare .lt ⟨.bitrate, 1000⟩]

/-- The choice on the ladder is narrowed from both ends, whether the rules
are given in one order or in the other. -/
theorem ladder_narrows :
    (chosenName? ladder fewRules bestName = some "01080p" ∧
      (select ladder fewRules).get? bestName = ladder.get? "01080p") ∧
    ((∀ rule ∈ fewRules, rule ∈ moreRules) ∧ Kept ladder moreRules "1500k" ∧
      Kept ladder fewRules "1500k" ∧ ChoicesNest ladder fewRules moreRules ∧
      [worstUnfilteredName, worstName].map (chosenName? ladder fewRules) =
        [some "350k", some "350k"] ∧
      [worstName, bestName].map (chosenName? ladder moreRules) = [some "1500k", some "1500k"] ∧
      [bestName, bestUnfilteredName].map (chosenName? ladder fewRules) =
        [some "01080p", some "1080p"]) ∧
    ((∀ rule, rule ∈ moreRules ↔ rule ∈ moreRules.reverse) ∧
      select ladder moreRules = select ladder moreRules.reverse) :=
  have hlaw := exclusions_narrow_choice ladder
  have hchosen : chosenName? ladder fewRules bestName = some "01080p" := by decide
  have hmore : ∀ rule ∈ fewRules, rule ∈ moreRules := by simp [fewRules, moreRules]
  have hkept : Kept ladder moreRules "1500k" := ⟨⟨by decide, by decide⟩, by decide⟩
  have hsame : ∀ rule, rule ∈ moreRules ↔ rule ∈ moreRules.reverse :=
    fun _ => List.mem_reverse.symm
  ⟨⟨hchosen, (hlaw.1 _ _ _ hchosen).2⟩,
    ⟨hmore, hkept, (hlaw.2.1 _ _ hmore).1 _ hkept, (hlaw.2.1 _ _ hmore).2 ⟨_, hkept⟩,
      by decide, by decide, by decide⟩,
    hsame, hlaw.2.2 _ _ hsame⟩

end StreamFinder.Stream
