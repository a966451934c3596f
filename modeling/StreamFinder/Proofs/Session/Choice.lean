import StreamFinder.Session.Decision
/-!
# Two choices in a row are one choice

A decision is taken on two levels: every class puts its own best claim
forward, and then the classes compete with these. Ties go to what comes
first on both levels, and so both together choose as one look over all
claims of all classes does (`best?_flatMap`): they take the first claim of
greatest priority, which `IsFirstBest` says without an algorithm. On the
level of the classes it makes no difference either whether the best is
looked for or the first entry of a stable sort is taken
(`head?_mergeSort`).
-/

namespace StreamFinder.Session

open Plugin

variable {P : Type}

namespace Contender

variable {x : Contender P} {l : List (Contender P)} {entrant : PluginClass P} {url : String}

/-- The contender is the first one of greatest priority: all before it are
weaker, and none behind it is stronger. -/
def IsFirstBest (x : Contender P) (l : List (Contender P)) : Prop :=
  ∃ before after, l = before ++ x :: after ∧
    (∀ y ∈ before, y.claim.priority.level < x.claim.priority.level) ∧
    ∀ y ∈ after, y.claim.priority.level ≤ x.claim.priority.level

/-- Whether the first contender is no weaker than the second. -/
def atLeast (x y : Contender P) : Bool := y.claim.priority.level ≤ x.claim.priority.level

/-- The claims that the matchers from a place on make, in their order. -/
def ofMatchers (entrant : PluginClass P) (url : String) (ms : List Matcher) (place : Nat) :
    List (Contender P) :=
  (ms.zipIdx place).filterMap fun (m, i) =>
    if m.isMatch url then some ⟨entrant, ⟨m.priority, some i⟩⟩ else none

/-- Every claim that a class can make on an address: one for each matcher
that matches, or one for a predicate that holds. -/
def ofClass (url : String) (entrant : PluginClass P) : List (Contender P) :=
  match entrant.strategy with
  | .matchers ms => ofMatchers entrant url ms 0
  | .legacy p => if p.test url then [⟨entrant, ⟨p.priority url, none⟩⟩] else []

/-- Every claim on an address, class by class. -/
def everyOf (classes : List (PluginClass P)) (url : String) : List (Contender P) :=
  classes.flatMap (ofClass url)

/-! ## The best of a list -/

theorem better_of_lt {x y : Contender P} (h : x.claim.priority.level < y.claim.priority.level) :
    better x y = y := if_pos h

theorem better_of_le {x y : Contender P} (h : y.claim.priority.level ≤ x.claim.priority.level) :
    better x y = x := if_neg (Nat.not_lt.2 h)

theorem better_assoc (x y z : Contender P) : better (better x y) z = better x (better y z) := by
  rcases Nat.lt_or_ge x.claim.priority.level y.claim.priority.level with hxy | hxy <;>
    rcases Nat.lt_or_ge y.claim.priority.level z.claim.priority.level with hyz | hyz
  · rw [better_of_lt hxy, better_of_lt hyz, better_of_lt (Nat.lt_trans hxy hyz)]
  · rw [better_of_lt hxy, better_of_le hyz, better_of_lt hxy]
  · rw [better_of_le hxy, better_of_lt hyz]
  · rw [better_of_le hxy, better_of_le hyz, better_of_le hxy, better_of_le (Nat.le_trans hyz hxy)]

instance : Std.Associative (better (P := P)) := ⟨better_assoc⟩

theorem merge_better_assoc (x y z : Option (Contender P)) :
    (x.merge better y).merge better z = x.merge better (y.merge better z) :=
  (inferInstance : Std.Associative (Option.merge (better (P := P)))).assoc x y z

@[simp] theorem best?_nil : best? ([] : List (Contender P)) = none := rfl

@[simp] theorem best?_cons (x : Contender P) (l : List (Contender P)) :
    best? (x :: l) = (some x).merge better (best? l) := by
  cases l with
  | nil => rfl
  | cons y l => exact congrArg some List.foldl_assoc

@[simp] theorem best?_eq_none_iff : best? l = none ↔ l = [] := by
  cases l <;> simp [best?]

theorem best?_append (l m : List (Contender P)) :
    best? (l ++ m) = (best? l).merge better (best? m) := by
  induction l with
  | nil => exact Option.merge_none_left.symm
  | cons x l ih =>
    rw [List.cons_append, best?_cons, best?_cons, ih, merge_better_assoc]

/-- **Choosing in groups and then among the winners is choosing at once.** -/
theorem best?_flatMap {α : Type} (f : α → List (Contender P)) (l : List α) :
    best? (l.flatMap f) = best? (l.filterMap fun a => best? (f a)) := by
  induction l with
  | nil => rfl
  | cons a l ih =>
    rw [List.flatMap_cons, best?_append, ih]
    cases h : best? (f a) with
    | none => simp [h]
    | some x => simp [h]

/-- **What is chosen is the first best.** -/
theorem best?_eq_some_iff : best? l = some x ↔ IsFirstBest x l := by
  induction l generalizing x with
  | nil => simp [IsFirstBest]
  | cons a l ih =>
    rw [best?_cons]
    constructor
    · intro h
      cases hl : best? l with
      | none =>
        rw [hl] at h
        cases h
        cases best?_eq_none_iff.1 hl
        exact ⟨[], [], rfl, by simp, by simp⟩
      | some y =>
        obtain ⟨before, after, rfl, hbefore, hafter⟩ := ih.1 hl
        rw [hl] at h
        cases h
        -- the head gives way to the best of the rest only if it is strictly weaker
        rcases Nat.lt_or_ge a.claim.priority.level y.claim.priority.level with hay | hya
        · refine ⟨a :: before, after, by rw [better_of_lt hay]; rfl, ?_, ?_⟩
          · rw [better_of_lt hay]
            exact List.forall_mem_cons.2 ⟨hay, hbefore⟩
          · rwa [better_of_lt hay]
        · rw [better_of_le hya]
          refine ⟨[], before ++ y :: after, rfl, by simp, fun z hz => ?_⟩
          rcases List.mem_append.1 hz with hz | hz
          · exact Nat.le_trans (Nat.le_of_lt (hbefore z hz)) hya
          · rcases List.mem_cons.1 hz with rfl | hz
            · exact hya
            · exact Nat.le_trans (hafter z hz) hya
    · rintro ⟨before, after, heq, hbefore, hafter⟩
      cases before with
      | nil =>
        cases heq
        cases hl : best? l with
        | none => rfl
        | some y =>
          obtain ⟨_, _, rfl, -, -⟩ := ih.1 hl
          exact congrArg some (better_of_le (hafter y (by simp)))
      | cons b before =>
        cases heq
        rw [ih.2 ⟨before, after, rfl, fun y hy => hbefore y (List.mem_cons_of_mem _ hy), hafter⟩]
        exact congrArg some (better_of_lt (hbefore _ List.mem_cons_self))

/-- **Sorting first comes to the same**: the head of the contenders in
descending order, equal ones left in their order, is the first best. -/
theorem head?_mergeSort (l : List (Contender P)) : (l.mergeSort atLeast).head? = best? l := by
  have htrans : ∀ x y z : Contender P, atLeast x y = true → atLeast y z = true →
      atLeast x z = true := by
    simp only [atLeast, decide_eq_true_eq]
    omega
  have htotal : ∀ x y : Contender P, (atLeast x y || atLeast y x) = true := by
    simp only [atLeast, Bool.or_eq_true, decide_eq_true_eq]
    omega
  induction l with
  | nil => simp
  | cons x l ih =>
    obtain ⟨above, below, hsorted, hl, habove⟩ := List.mergeSort_cons htrans htotal x l
    have horder := List.pairwise_mergeSort htrans htotal (x :: l)
    rw [hl] at ih
    rw [hsorted] at horder ⊢
    rw [best?_cons, ← ih]
    cases above with
    | nil =>
      cases below with
      | nil => rfl
      | cons y below =>
        have hxy := List.rel_of_pairwise_cons horder (List.mem_cons_self (a := y))
        exact congrArg some (better_of_le (of_decide_eq_true hxy)).symm
    | cons y above =>
      have hxy := habove y List.mem_cons_self
      simp only [atLeast, Bool.not_eq_true', decide_eq_false_iff_not] at hxy
      exact congrArg some (better_of_lt (Nat.lt_of_not_le hxy)).symm

/-! ## The claim of a class -/

@[simp] theorem ofMatchers_nil (entrant : PluginClass P) (url : String) (place : Nat) :
    ofMatchers entrant url [] place = [] := rfl

/-- The claims of a list of matchers are those of its head and those of the rest. -/
theorem ofMatchers_cons (entrant : PluginClass P) (url : String) (m : Matcher) (ms : List Matcher)
    (place : Nat) :
    ofMatchers entrant url (m :: ms) place =
      (if m.isMatch url then [⟨entrant, ⟨m.priority, some place⟩⟩] else []) ++
        ofMatchers entrant url ms (place + 1) := by
  cases hm : m.isMatch url <;> simp [ofMatchers, List.zipIdx_cons, hm]

/-- Going through the matchers keeps the better of what was found before
and what is still to come. -/
theorem map_bestClaim (entrant : PluginClass P) (url : String) (ms : List Matcher) (place : Nat)
    (found : Option Claim) :
    (Strategy.bestClaim url ms place found).map (⟨entrant, ·⟩) =
      (found.map (⟨entrant, ·⟩)).merge better (best? (ofMatchers entrant url ms place)) := by
  induction ms generalizing place found with
  | nil => cases found <;> rfl
  | cons m ms ih =>
    rw [ofMatchers_cons, best?_append, ← merge_better_assoc]
    cases hm : m.isMatch url with
    | false => cases found <;> simp [Strategy.bestClaim, hm, ih]
    | true =>
      cases found with
      | none => simp [Strategy.bestClaim, hm, ih]
      | some b =>
        by_cases hlt : b.priority.level < m.priority.level <;>
          simp [Strategy.bestClaim, hm, ih, hlt, better, Option.merge_none_right]

/-- **A class claims with the first best of its claims.** -/
theorem map_claim? (entrant : PluginClass P) (url : String) :
    (entrant.strategy.claim? url).map (⟨entrant, ·⟩) = best? (ofClass url entrant) := by
  unfold Strategy.claim? ofClass
  cases entrant.strategy with
  | matchers ms => exact (map_bestClaim entrant url ms 0 none).trans Option.merge_none_left
  | legacy p => by_cases h : p.test url <;> simp [h]

/-- The best of the classes' own best claims is the best of all claims. -/
theorem best?_listOf (classes : List (PluginClass P)) (url : String) :
    best? (listOf classes url) = best? (everyOf classes url) := by
  rw [everyOf, best?_flatMap]
  exact congrArg (fun f => best? (classes.filterMap f)) (funext fun c => map_claim? c url)

end Contender

open Contender

/-- **The two levels choose as one.** The address goes to the class that
makes the first of all claims of greatest priority, with the place of the
matcher that makes it, and to nobody exactly when there is no claim at
all. Sorting the classes by their own best claims, equal ones left in
their order, puts the same claim first. So a claim that has no rival wins,
whatever its priority. -/
theorem make_takes_first_best (registry : Registry P) (url : String) :
    (∀ winner target matcher, Decision.make registry url = .resolved winner target matcher ↔
      target = url ∧ ∃ x, IsFirstBest x (everyOf registry.classes url) ∧
        x.entrant = winner ∧ x.claim.matcher = matcher) ∧
    (∀ target, Decision.make registry url = .noMatch target ↔
      target = url ∧ everyOf registry.classes url = []) ∧
    (∀ x, ((listOf registry.classes url).mergeSort atLeast).head? = some x ↔
      IsFirstBest x (everyOf registry.classes url)) ∧
    ∀ x, everyOf registry.classes url = [x] →
      Decision.make registry url = .resolved x.entrant url x.claim.matcher := by
  refine ⟨fun winner target matcher => ?_, fun target => ?_, fun x => ?_, fun x hx => ?_⟩
  · rw [Decision.make, best?_listOf]
    simp only [← best?_eq_some_iff]
    cases best? (everyOf registry.classes url) with
    | none => simp
    | some x =>
      constructor
      · intro h
        cases h
        exact ⟨rfl, x, rfl, rfl, rfl⟩
      · rintro ⟨rfl, y, hy, rfl, rfl⟩
        cases hy
        rfl
  · rw [Decision.make, best?_listOf, ← best?_eq_none_iff]
    cases best? (everyOf registry.classes url) with
    | none => simp [eq_comm]
    | some x => simp
  · rw [head?_mergeSort, best?_listOf, best?_eq_some_iff]
  · rw [Decision.make, best?_listOf, hx]
    rfl

/-- The matcher of the empty pattern, which is found everywhere. -/
def matchAll (priority : Priority) : Matcher := ⟨"", ⟨.empty, []⟩, priority⟩

@[simp] theorem priority_matchAll (priority : Priority) : (matchAll priority).priority = priority :=
  rfl

@[simp] theorem isMatch_matchAll (priority : Priority) : (matchAll priority).isMatch "a" = true := by
  simp [matchAll, Matcher.isMatch, Pattern.isMatch, Pattern.search, Pattern.scan, Pattern.visit,
    Pattern.explore, Pattern.settle, Pattern.Unfolding.once, Pattern.Unfolding.add,
    Pattern.Unfolding.start]

/-- A class that claims everything and yields to every other claim. -/
def yielding : PluginClass Input := ⟨"yielding", .matchers [matchAll .no], id⟩

/-- A class with two equal claims behind a weaker one. -/
def threefold : PluginClass Input :=
  ⟨"threefold", .matchers [matchAll .low, matchAll .high, matchAll .high], id⟩

/-- A class that claims everything in the deprecated way. -/
def eager : PluginClass Input := ⟨"eager", .legacy ⟨fun _ => true, some fun _ => .high⟩, id⟩

/-- Among rivals the second matcher of the first strong class wins, and a
class that yields to every other claim wins where there is none. -/
theorem yielding_class_wins_alone :
    Decision.make ⟨[yielding, threefold, eager]⟩ "a" = .resolved threefold "a" (some 1) ∧
      everyOf [yielding] "a" = [⟨yielding, ⟨.no, some 0⟩⟩] ∧
      Decision.make ⟨[yielding]⟩ "a" = .resolved yielding "a" (some 0) := by
  have hlone : everyOf [yielding] "a" = [⟨yielding, ⟨.no, some 0⟩⟩] := by
    simp [everyOf, ofClass, yielding, ofMatchers_cons]
  have hall : everyOf [yielding, threefold, eager] "a" =
      [⟨yielding, ⟨.no, some 0⟩⟩, ⟨threefold, ⟨.low, some 0⟩⟩] ++
        ⟨threefold, ⟨.high, some 1⟩⟩ ::
          [⟨threefold, ⟨.high, some 2⟩⟩, ⟨eager, ⟨.high, none⟩⟩] := by
    simp [everyOf, ofClass, yielding, threefold, eager, ofMatchers_cons, Predicate.priority]
  refine ⟨((make_takes_first_best _ _).1 _ _ _).2 ⟨rfl, _, ⟨_, _, hall, ?_, ?_⟩, rfl, rfl⟩, hlone,
    (make_takes_first_best ⟨[yielding]⟩ "a").2.2.2 _ hlone⟩
  · simp [Priority.level]
  · simp [Priority.level]

end StreamFinder.Session
