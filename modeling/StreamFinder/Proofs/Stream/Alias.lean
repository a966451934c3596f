import StreamFinder.Stream.Select
/-!
# What the aliases stand for

The candidates are scanned in the order of their names, and a tie goes to
the later one for the best and to the earlier one for the worst. Both
rules say the same: candidates are compared by class, then by value, then
by name, and this is a total order of which the scans find the two ends
(`foldl_extreme`). An alias without candidates is not written, and then
it is whatever the catalog had under that name.
-/

namespace StreamFinder.Stream

open Quality

variable {c : Catalog} {name role : String} {target : Option Candidate}

/-! ## The order -/

/-- What a name is compared by: the rank of its class, its value, and the name itself. -/
def quality (name : String) : Nat × Nat × String :=
  ((weigh name).kind.rank, (weigh name).value, name)

/-- The order of qualities: by class, then by value, then by name. -/
def NoBetter (a b : Nat × Nat × String) : Prop :=
  a.1 < b.1 ∨ a.1 = b.1 ∧ (a.2.1 < b.2.1 ∨ a.2.1 = b.2.1 ∧ a.2.2 ≤ b.2.2)

theorem NoBetter.refl (a : Nat × Nat × String) : NoBetter a a :=
  .inr ⟨rfl, .inr ⟨rfl, String.le_refl _⟩⟩

theorem NoBetter.trans {a b c : Nat × Nat × String} (hab : NoBetter a b) (hbc : NoBetter b c) :
    NoBetter a c := by
  rcases hab with h | ⟨h, h' | ⟨h', hname⟩⟩ <;> rcases hbc with k | ⟨k, k' | ⟨k', kname⟩⟩
  case inr.inr.inr.inr => exact .inr ⟨h.trans k, .inr ⟨h'.trans k', String.le_trans hname kname⟩⟩
  all_goals first | exact .inl (by omega) | exact .inr ⟨by omega, .inl (by omega)⟩

namespace Candidate

variable {l : List Candidate} {x y : Candidate}

/-- What a candidate is compared by. -/
def standing (x : Candidate) : Nat × Nat × String := (x.key.1, x.key.2, x.name)

/-- Where the weights do not decide, the names do: the later candidate is the better one. -/
theorem noBetter_of_atMost (h : x.name < y.name) (hle : atMost x.key y.key = true) :
    NoBetter x.standing y.standing := by
  simp only [atMost, Bool.or_eq_true, Bool.and_eq_true, decide_eq_true_eq] at hle
  rcases hle with hclass | ⟨hclass, hvalue⟩
  · exact .inl hclass
  · rcases Nat.lt_or_eq_of_le hvalue with hlt | heq
    · exact .inr ⟨hclass, .inl hlt⟩
    · exact .inr ⟨hclass, .inr ⟨heq, String.not_lt.1 (String.lt_asymm h)⟩⟩

theorem noBetter_of_not_atMost (hnle : ¬ atMost x.key y.key = true) :
    NoBetter y.standing x.standing := by
  simp only [atMost, Bool.or_eq_true, Bool.and_eq_true, decide_eq_true_eq, not_or] at hnle
  obtain ⟨hclass, hvalue⟩ := hnle
  rcases Nat.lt_or_ge y.key.1 x.key.1 with hlt | hge
  · exact .inl hlt
  · have heq : x.key.1 = y.key.1 := by omega
    exact .inr ⟨heq.symm, .inl (Nat.lt_of_not_le fun hle => hvalue ⟨heq, hle⟩)⟩

/-! ## The ends of the order -/

/-- **A scan finds an end.** If of two candidates in the order of their
names the scan keeps one that is related to both, it keeps in the end one
that is related to all. -/
theorem foldl_extreme (keep : Candidate → Candidate → Candidate)
    (related : Candidate → Candidate → Prop) (hrefl : ∀ a, related a a)
    (htrans : ∀ a b c, related a b → related b c → related a c)
    (hkeep : ∀ a b, a.name < b.name →
      (keep a b = a ∨ keep a b = b) ∧ related a (keep a b) ∧ related b (keep a b))
    (h : (x :: l).Pairwise fun a b => a.name < b.name) :
    l.foldl keep x ∈ x :: l ∧ ∀ y ∈ x :: l, related y (l.foldl keep x) := by
  -- what is kept of the first two stands for both in the rest of the scan
  induction l generalizing x with
  | nil => simp [hrefl]
  | cons z l ih =>
    obtain ⟨hx, hz, hl⟩ := List.pairwise_cons.1 h |>.imp id List.pairwise_cons.1
    obtain ⟨hone, hxk, hzk⟩ := hkeep x z (hx z List.mem_cons_self)
    have hordered : (keep x z :: l).Pairwise fun a b => a.name < b.name := by
      refine List.pairwise_cons.2 ⟨fun y hy => ?_, hl⟩
      rcases hone with h | h <;> rw [h]
      · exact hx y (List.mem_cons_of_mem _ hy)
      · exact hz y hy
    obtain ⟨hmem, hall⟩ := ih hordered
    have hkept := hall _ List.mem_cons_self
    refine ⟨?_, fun y hy => ?_⟩
    · rcases List.mem_cons.1 hmem with heq | hmem
      · rw [List.foldl_cons, heq]
        rcases hone with h | h <;> simp [h]
      · simp [hmem]
    · rcases List.mem_cons.1 hy with rfl | hy
      · exact htrans _ _ _ hxk hkept
      · rcases List.mem_cons.1 hy with rfl | hy
        · exact htrans _ _ _ hzk hkept
        · exact hall y (List.mem_cons_of_mem _ hy)

theorem better_extreme (x y : Candidate) (h : x.name < y.name) :
    (better x y = x ∨ better x y = y) ∧ NoBetter x.standing (better x y).standing ∧
      NoBetter y.standing (better x y).standing := by
  unfold better
  split
  · next hle => exact ⟨.inr rfl, noBetter_of_atMost h hle, .refl _⟩
  · next hnle => exact ⟨.inl rfl, .refl _, noBetter_of_not_atMost hnle⟩

theorem worse_extreme (x y : Candidate) (h : x.name < y.name) :
    (worse x y = x ∨ worse x y = y) ∧ NoBetter (worse x y).standing x.standing ∧
      NoBetter (worse x y).standing y.standing := by
  unfold worse
  split
  · next hle => exact ⟨.inl rfl, .refl _, noBetter_of_atMost h hle⟩
  · next hnle => exact ⟨.inr rfl, noBetter_of_not_atMost hnle, .refl _⟩

/-- The best candidate is the greatest. -/
theorem best?_greatest (h : l.Pairwise fun a b => a.name < b.name) :
    l = [] ∧ best? l = none ∨
      ∃ x ∈ l, best? l = some x ∧ ∀ y ∈ l, NoBetter y.standing x.standing := by
  cases l with
  | nil => exact .inl ⟨rfl, rfl⟩
  | cons x l =>
    obtain ⟨hmem, hall⟩ := foldl_extreme better (fun a b => NoBetter a.standing b.standing)
      (fun _ => .refl _) (fun _ _ _ => .trans) better_extreme h
    exact .inr ⟨_, hmem, rfl, hall⟩

/-- The worst candidate is the least. -/
theorem worst?_least (h : l.Pairwise fun a b => a.name < b.name) :
    l = [] ∧ worst? l = none ∨
      ∃ x ∈ l, worst? l = some x ∧ ∀ y ∈ l, NoBetter x.standing y.standing := by
  cases l with
  | nil => exact .inl ⟨rfl, rfl⟩
  | cons x l =>
    obtain ⟨hmem, hall⟩ := foldl_extreme worse (fun a b => NoBetter b.standing a.standing)
      (fun _ => .refl _) (fun _ _ _ hab hbc => hbc.trans hab) worse_extreme h
    exact .inr ⟨_, hmem, rfl, hall⟩

/-! ## The candidates of a catalog -/

theorem key?_eq_some_iff {w : Weight} {key : Nat × Nat} :
    w.key? = some key ↔ w.isSortable = true ∧ key = (w.kind.rank, w.value) := by
  unfold Weight.key?
  split <;> simp [*, eq_comm]

/-- The candidates are the sortable names, each with its stream. -/
theorem mem_listOf : x ∈ listOf c ↔
    c.get? x.name = some x.handle ∧ (weigh x.name).isSortable = true ∧
      x.standing = quality x.name := by
  simp only [listOf, List.mem_filterMap, Option.map_eq_some_iff, key?_eq_some_iff,
    c.get?_eq_some_iff, standing, quality]
  constructor
  · rintro ⟨⟨name, h⟩, hmem, key, ⟨hsortable, rfl⟩, rfl⟩
    exact ⟨hmem, hsortable, rfl⟩
  · rintro ⟨hmem, hsortable, hkey⟩
    refine ⟨_, hmem, _, ⟨hsortable, rfl⟩, ?_⟩
    obtain ⟨name, key, handle⟩ := x
    simp only [Prod.mk.injEq, and_true] at hkey
    simp [← hkey.1, ← hkey.2]

theorem pairwise_listOf (c : Catalog) : (listOf c).Pairwise fun a b => a.name < b.name := by
  refine c.ordered.filterMap _ fun a b hab x hx y hy => ?_
  obtain ⟨_, _, rfl⟩ := Option.map_eq_some_iff.1 hx
  obtain ⟨_, _, rfl⟩ := Option.map_eq_some_iff.1 hy
  exact hab

end Candidate

open Candidate

/-! ## The aliases -/

/-- The names of the aliases. -/
def aliasNames : List String := [bestName, worstName, bestUnfilteredName, worstUnfilteredName]

/-- A name of the catalog that tells a quality. -/
def Sortable (c : Catalog) (name : String) : Prop :=
  c.contains name = true ∧ (weigh name).isSortable = true

/-- A name of the catalog that tells a quality and that no rule excludes. -/
def Kept (c : Catalog) (exclusions : Exclusions) (name : String) : Prop :=
  Sortable c name ∧ ∀ rule ∈ exclusions, rule.excludes name = false

/-- After `c` has become `d`, an alias is the stream of the name at the
upper end of an order of qualities among the eligible names; if none is
eligible, it is what it was. -/
def Heads (c d : Catalog) (order : Nat × Nat × String → Nat × Nat × String → Prop)
    (eligible : String → Prop) (role : String) : Prop :=
  (∃ name, eligible name ∧ (∀ other, eligible other → order (quality other) (quality name)) ∧
      d.get? role = c.get? name) ∨
    (∀ name, ¬ eligible name) ∧ d.get? role = c.get? role

theorem get?_writeAlias (name role : String) (target : Option Candidate) (c : Catalog) :
    (writeAlias name target c).get? role =
      if role = name then (target.map handle).or (c.get? role) else c.get? role := by
  cases target with
  | none => simp [writeAlias]
  | some t =>
    split
    · next heq => simp [writeAlias, heq]
    · next hne => exact c.get?_insert_of_ne hne t.handle

theorem sortable_iff : Sortable c name ↔ ∃ x ∈ listOf c, x.name = name := by
  simp only [Sortable, Catalog.contains, Option.isSome_iff_exists, mem_listOf]
  constructor
  · rintro ⟨⟨h, hget⟩, hsortable⟩
    exact ⟨⟨name, ((weigh name).kind.rank, (weigh name).value), h⟩, ⟨hget, hsortable, rfl⟩, rfl⟩
  · rintro ⟨x, ⟨hget, hsortable, -⟩, rfl⟩
    exact ⟨⟨_, hget⟩, hsortable⟩

theorem kept_iff {exclusions : Exclusions} : Kept c exclusions name ↔
    ∃ x ∈ (listOf c).filter fun x => !exclusions.excludes x.name, x.name = name := by
  simp only [Kept, sortable_iff, List.mem_filter, Exclusions.excludes, Bool.not_eq_true',
    List.any_eq_false, Bool.not_eq_true]
  constructor
  · rintro ⟨⟨x, hx, rfl⟩, hrules⟩
    exact ⟨x, ⟨hx, hrules⟩, rfl⟩
  · rintro ⟨x, ⟨hx, hrules⟩, rfl⟩
    exact ⟨⟨x, hx, rfl⟩, hrules⟩

/-- **What is written under an alias heads its candidates**: the end of
the order among them, if there are any. -/
theorem heads_of_extreme {d : Catalog} {order : Nat × Nat × String → Nat × Nat × String → Prop}
    {eligible : String → Prop} {l : List Candidate} (hl : l.Sublist (listOf c))
    (heligible : ∀ name, eligible name ↔ ∃ x ∈ l, x.name = name)
    (htarget : l = [] ∧ target = none ∨
      ∃ x ∈ l, target = some x ∧ ∀ y ∈ l, order y.standing x.standing)
    (hget : d.get? role = (target.map handle).or (c.get? role)) :
    Heads c d order eligible role := by
  rcases htarget with ⟨rfl, rfl⟩ | ⟨x, hx, rfl, hextreme⟩
  · exact .inr ⟨fun name hname => by simpa using (heligible name).1 hname, hget⟩
  · obtain ⟨hstream, -, hstanding⟩ := mem_listOf.1 (hl.mem hx)
    refine .inl ⟨x.name, (heligible _).2 ⟨x, hx, rfl⟩, fun other hother => ?_, ?_⟩
    · obtain ⟨y, hy, rfl⟩ := (heligible other).1 hother
      have horder := hextreme y hy
      rwa [(mem_listOf.1 (hl.mem hy)).2.2, hstanding] at horder
    · exact hget.trans hstream.symm

/-- **Selecting only writes the aliases, and each stands for an end of the
order.** The best and the worst stream, exclusions aside, are the greatest
and the least of all names that tell a quality; the best and the worst are
those of the names that no rule excludes. Without such names the aliases
are what they were. -/
theorem select_heads (c : Catalog) (exclusions : Exclusions) :
    (∀ name, name ∉ aliasNames → (select c exclusions).get? name = c.get? name) ∧
    Heads c (select c exclusions) NoBetter (Sortable c) bestUnfilteredName ∧
    Heads c (select c exclusions) (flip NoBetter) (Sortable c) worstUnfilteredName ∧
    Heads c (select c exclusions) NoBetter (Kept c exclusions) bestName ∧
    Heads c (select c exclusions) (flip NoBetter) (Kept c exclusions) worstName := by
  have hall := pairwise_listOf c
  have hkept := hall.filter fun x => !exclusions.excludes x.name
  have hsub : ((listOf c).filter fun x => !exclusions.excludes x.name).Sublist (listOf c) :=
    List.filter_sublist
  -- the four names differ, so each alias is read past the writes of the others
  refine ⟨fun name hname => ?_, ?_, ?_, ?_, ?_⟩
  · simp only [aliasNames, List.mem_cons, List.not_mem_nil, or_false, not_or] at hname
    simp [select, get?_writeAlias, hname]
  · refine heads_of_extreme (.refl _) (fun _ => sortable_iff) (best?_greatest hall) ?_
    simp [select, get?_writeAlias, bestName, worstName, bestUnfilteredName, worstUnfilteredName]
  · refine heads_of_extreme (.refl _) (fun _ => sortable_iff) (worst?_least hall) ?_
    simp [select, get?_writeAlias, bestName, worstName, bestUnfilteredName, worstUnfilteredName]
  · refine heads_of_extreme hsub (fun _ => kept_iff) (best?_greatest hkept) ?_
    simp [select, get?_writeAlias, bestName, worstName, bestUnfilteredName, worstUnfilteredName]
  · refine heads_of_extreme hsub (fun _ => kept_iff) (worst?_least hkept) ?_
    simp [select, get?_writeAlias, bestName, worstName, bestUnfilteredName, worstUnfilteredName]

/-- Two names of one weight, a lesser one, and a stream that a plugin has called the best. -/
def tied : Catalog := .ofOffers [
  ("0720p", ⟨"http", none, 0⟩), ("720p", ⟨"http", none, 1⟩), ("360p", ⟨"http", none, 2⟩),
  ("best", ⟨"http", none, 3⟩)]

/-- A tie goes to the later name, and to the other one when that is excluded. -/
theorem excluded_tie_leaves_the_other :
    "720p" ∉ aliasNames ∧
      (select tied [.named "720p"]).get? "720p" = tied.get? "720p" ∧
      (select tied [.named "720p"]).get? bestUnfilteredName = tied.get? "720p" ∧
      (select tied [.named "720p"]).get? bestName = tied.get? "0720p" :=
  ⟨by decide, (select_heads tied [.named "720p"]).1 "720p" (by decide), by decide, by decide⟩

end StreamFinder.Stream
