import StreamFinder.Proofs.Pattern.Meaning

/-!
# Unfolding at one place

The unfolding of frames is a walk along their one-step successors
(`nexts`), which ends where a character or the end of the pattern is next
(`Stands`). A walk that skips what it has seen need not have finished what
it skips: a repetition comes back to itself while its first round is still
being unfolded. So nothing is said of a single call but what it adds: all
successors of newly seen frames are seen when it returns (`Grows`). Once
all calls have returned, the frames seen are closed under successors, and
what can be completed from any of them can be completed from a thread.
-/

namespace StreamFinder.Pattern

open Text Unfolding

/-! ## Successors -/

/-- What a repetition in front of `rest` is unfolded to. -/
def nextRounds (e : Expr) (more : Option Nat) (greedy : Bool) (rest : List Frame) :
    Nat → List (List Frame)
  | min + 1 => [.run e :: .again e min more greedy :: rest]
  | 0 =>
    match more with
    | some 0 => [rest]
    | some (k + 1) => [.run e :: .again e 0 (some k) greedy :: rest, rest]
    | none => [.run e :: .again e 0 none greedy :: rest, rest]

/-- What frames are unfolded to in one step at a place. -/
def nexts (p : Place) : List Frame → List (List Frame)
  | [] => []
  | .shut _ :: rest => [rest]
  | .again e min more greedy :: rest => nextRounds e more greedy rest min
  | .run e :: rest =>
    match e with
    | .empty => [rest]
    | .set _ => []
    | .look b => if b.holds p.before p.after then [rest] else []
    | .group index e => [.run e :: .shut index :: rest]
    | .cat a b => [.run a :: .run b :: rest]
    | .alt a b => [.run a :: rest, .run b :: rest]
    | .times e min more greedy => nextRounds e more greedy rest min

/-- Whether frames stand before a character, or at the end of the pattern. -/
def Stands : List Frame → Prop
  | [] => True
  | .run (.set _) :: _ => True
  | _ => False

/-- The place behind so many characters of a text. -/
def IsPlace (text : List Char) (i : Nat) (p : Place) : Prop :=
  p.before = before? text i ∧ p.after = text[i]?

variable {p : Place} {text : List Char} {i k : Nat} {e : Expr} {rest : List Frame}
variable {more : Option Nat} {greedy : Bool}

/-- A repetition is completed by a round that its bounds allow, or left. -/
theorem completes_of_mem_nextRounds {min : Nat} {h : List Frame}
    (hmem : h ∈ nextRounds e more greedy rest min) (hh : Completes text h i) :
    Completes text (.again e min more greedy :: rest) i := by
  have hround {min' : Nat} {more' : Option Nat} (hmin : min ≤ min' + 1)
      (hmore : ∀ n, (∀ k ∈ more', n ≤ min' + k) → ∀ k ∈ more, n + 1 ≤ min + k)
      (hh : Completes text (.run e :: .again e min' more' greedy :: rest) i) :
      Completes text (.again e min more greedy :: rest) i := by
    obtain ⟨k, he, j, ⟨n, hn, hbound, hrounds⟩, hrest⟩ := hh
    exact ⟨j, ⟨n + 1, by omega, hmore n hbound, k, he, hrounds⟩, hrest⟩
  have hleave (hmin : min = 0) (hh : Completes text rest i) :
      Completes text (.again e min more greedy :: rest) i := by
    subst hmin
    exact ⟨i, ⟨0, Nat.le_refl _, fun k _ => Nat.zero_le _, rfl⟩, hh⟩
  cases min with
  | succ min =>
    simp only [nextRounds, List.mem_singleton] at hmem
    subst hmem
    exact hround (Nat.le_refl _) (fun n hn k hk => by have := hn k hk; omega) hh
  | zero =>
    match more with
    | some 0 =>
      simp only [nextRounds, List.mem_singleton] at hmem
      exact hleave rfl (hmem ▸ hh)
    | some (m + 1) =>
      simp only [nextRounds, List.mem_cons, List.not_mem_nil, or_false] at hmem
      obtain rfl | rfl := hmem
      · exact hround (Nat.zero_le _) (fun n hn k hk => by have := hn m rfl; cases hk; omega) hh
      · exact hleave rfl hh
    | none =>
      simp only [nextRounds, List.mem_cons, List.not_mem_nil, or_false] at hmem
      obtain rfl | rfl := hmem
      · exact hround (Nat.zero_le _) (fun n _ k hk => by cases hk) hh
      · exact hleave rfl hh

/-- **What can be completed from a successor can be completed.** -/
theorem completes_of_mem_nexts {g h : List Frame} (hp : IsPlace text i p)
    (hmem : h ∈ nexts p g) (hh : Completes text h i) : Completes text g i := by
  match g with
  | [] => simp [nexts] at hmem
  | .shut _ :: rest =>
    simp only [nexts, List.mem_singleton] at hmem
    exact ⟨i, rfl, hmem ▸ hh⟩
  | .again .. :: rest => exact completes_of_mem_nextRounds hmem hh
  | .run .empty :: rest =>
    simp only [nexts, List.mem_singleton] at hmem
    exact ⟨i, rfl, hmem ▸ hh⟩
  | .run (.set _) :: rest => simp [nexts] at hmem
  | .run (.look b) :: rest =>
    rw [nexts] at hmem
    split at hmem
    · next hholds =>
      rw [hp.1, hp.2] at hholds
      rw [List.mem_singleton] at hmem
      exact ⟨i, ⟨rfl, hholds⟩, hmem ▸ hh⟩
    · simp at hmem
  | .run (.group ..) :: rest =>
    simp only [nexts, List.mem_singleton] at hmem
    subst hmem
    obtain ⟨k, he, _, rfl, hrest⟩ := hh
    exact ⟨k, he, hrest⟩
  | .run (.cat a b) :: rest =>
    simp only [nexts, List.mem_singleton] at hmem
    subst hmem
    obtain ⟨k, ha, j, hb, hrest⟩ := hh
    exact ⟨j, ⟨k, ha, hb⟩, hrest⟩
  | .run (.alt a b) :: rest =>
    simp only [nexts, List.mem_cons, List.not_mem_nil, or_false] at hmem
    obtain rfl | rfl := hmem
    · obtain ⟨k, ha, hrest⟩ := hh
      exact ⟨k, .inl ha, hrest⟩
    · obtain ⟨k, hb, hrest⟩ := hh
      exact ⟨k, .inr hb, hrest⟩
  | .run (.times ..) :: rest => exact completes_of_mem_nextRounds hmem hh

/-! ## Sets of frames that are closed under successors -/

/-- Whether one of the frames of a set that stand can be completed if the
given ones belong to it. -/
def Arrives (C : List Frame → Prop) (text : List Char) (i : Nat) (g : List Frame) : Prop :=
  C g → ∃ h, C h ∧ Stands h ∧ Completes text h i

section Closed

variable {C : List Frame → Prop} {g h : List Frame}

theorem arrives_of_mem_nexts (hC : ∀ g, C g → ∀ h ∈ nexts p g, C h) (hmem : h ∈ nexts p g)
    (hh : Arrives C text i h) : Arrives C text i g :=
  fun hg => hh (hC g hg h hmem)

/-- A repetition arrives if its rounds do. Only rounds at the place where it
begins matter, so the induction is on their number, and behind an empty
round one fewer is left. -/
theorem arrives_rounds (hC : ∀ g, C g → ∀ h ∈ nexts p g, C h)
    (he : ∀ rest k, e.Spans text i k → Completes text rest k →
      (k = i → Arrives C text i rest) → Arrives C text i (.run e :: rest))
    (hcompletes : Completes text rest k) (hrest : k = i → Arrives C text i rest) {n min : Nat}
    (hmin : min ≤ n) (hmore : ∀ k ∈ more, n ≤ min + k) (hrounds : Rounds (e.Spans text) n i k)
    (hg : nexts p g = nextRounds e more greedy rest min) : Arrives C text i g := by
  induction n generalizing min more g with
  | zero =>
    obtain rfl : min = 0 := by omega
    obtain rfl : i = k := hrounds
    have hmem : rest ∈ nexts p g := by
      rw [hg]
      match more with
      | some 0 | some (_ + 1) | none => simp [nextRounds]
    exact arrives_of_mem_nexts hC hmem (hrest rfl)
  | succ n ih =>
    obtain ⟨m, hfirst, hrounds⟩ := hrounds
    have hround (min' : Nat) (more' : Option Nat) (hmin : min' ≤ n)
        (hmore : ∀ k ∈ more', n ≤ min' + k)
        (hmem : (.run e :: .again e min' more' greedy :: rest) ∈ nexts p g) :
        Arrives C text i g := by
      have htail : Completes text (.again e min' more' greedy :: rest) m :=
        ⟨k, ⟨n, hmin, hmore, hrounds⟩, hcompletes⟩
      refine arrives_of_mem_nexts hC hmem (he _ m hfirst htail ?_)
      rintro rfl
      exact ih hmin hmore hrounds rfl
    match min, more with
    | min + 1, more =>
      exact hround min more (by omega) (fun k hk => by have := hmore k hk; omega)
        (by simp [hg, nextRounds])
    | 0, some 0 => exact absurd (hmore 0 rfl) (by omega)
    | 0, some (j + 1) =>
      have hbound := hmore (j + 1) rfl
      exact hround 0 (some j) (Nat.zero_le _) (fun k hk => by cases hk; omega)
        (by simp [hg, nextRounds])
    | 0, none =>
      exact hround 0 none (Nat.zero_le _) (fun k hk => by cases hk) (by simp [hg, nextRounds])

/-- An expression arrives if what follows it does where it matches the empty text. -/
theorem arrives_run (hp : IsPlace text i p) (hC : ∀ g, C g → ∀ h ∈ nexts p g, C h)
    (hspans : e.Spans text i k) (hcompletes : Completes text rest k)
    (hrest : k = i → Arrives C text i rest) : Arrives C text i (.run e :: rest) := by
  induction e generalizing rest k with
  | empty =>
    obtain rfl : i = k := hspans
    exact arrives_of_mem_nexts hC (by simp [nexts]) (hrest rfl)
  | set s => exact fun hg => ⟨_, hg, trivial, k, hspans, hcompletes⟩
  | look b =>
    obtain ⟨rfl, hholds⟩ := hspans
    rw [← hp.1, ← hp.2] at hholds
    exact arrives_of_mem_nexts hC (by simp [nexts, hholds]) (hrest rfl)
  | group index e ih =>
    have htail : Completes text (.shut index :: rest) k := ⟨k, rfl, hcompletes⟩
    refine arrives_of_mem_nexts hC (by simp [nexts]) (ih hspans htail ?_)
    exact fun hk => arrives_of_mem_nexts hC (by simp [nexts]) (hrest hk)
  | cat a b iha ihb =>
    obtain ⟨m, ha, hb⟩ := hspans
    have htail : Completes text (.run b :: rest) m := ⟨k, hb, hcompletes⟩
    refine arrives_of_mem_nexts hC (by simp [nexts]) (iha ha htail ?_)
    rintro rfl
    exact ihb hb hcompletes hrest
  | alt a b iha ihb =>
    obtain ha | hb := hspans
    · exact arrives_of_mem_nexts hC (by simp [nexts]) (iha ha hcompletes hrest)
    · exact arrives_of_mem_nexts hC (by simp [nexts]) (ihb hb hcompletes hrest)
  | times e min more greedy ih =>
    obtain ⟨n, hmin, hmore, hrounds⟩ := hspans
    exact arrives_rounds hC (fun _ _ => ih) hcompletes hrest hmin hmore hrounds rfl

/-- **In a set that is closed under successors, what can be completed can be
completed from frames that stand.** -/
theorem arrives (hp : IsPlace text i p) (hC : ∀ g, C g → ∀ h ∈ nexts p g, C h)
    (hcompletes : Completes text g i) : Arrives C text i g := by
  induction g with
  | nil => exact fun hg => ⟨[], hg, trivial, hcompletes⟩
  | cons f rest ih =>
    obtain ⟨k, hf, hrest⟩ := hcompletes
    cases f with
    | run e => exact arrives_run hp hC hf hrest fun hk => ih (hk ▸ hrest)
    | again e min more greedy =>
      obtain ⟨n, hmin, hmore, hrounds⟩ := hf
      exact arrives_rounds hC (fun _ _ => arrives_run hp hC) hrest (fun hk => ih (hk ▸ hrest))
        hmin hmore hrounds rfl
    | shut index =>
      obtain rfl : i = k := hf
      exact arrives_of_mem_nexts hC (by simp [nexts]) (ih hrest)

end Closed

/-! ## What a walk adds -/

/-- Whether all that follows from seeing frames has been noted. -/
structure Settled (p : Place) (u : Unfolding) (g : List Frame) : Prop where
  seen : ∀ h ∈ nexts p g, h ∈ u.seen
  found : Stands g → ∃ t ∈ u.found, t.frames = g

/-- One unfolding goes on from another: what is newly seen is settled, and
threads are only found among the frames of a set. -/
structure Grows (p : Place) (S : List Frame → Prop) (u u' : Unfolding) : Prop where
  seen : ∀ g ∈ u.seen, g ∈ u'.seen
  found : ∀ t ∈ u.found, t ∈ u'.found
  settled : ∀ g ∈ u'.seen, g ∈ u.seen ∨ Settled p u' g
  sound : ∀ t ∈ u'.found, t ∈ u.found ∨ S t.frames

variable {S : List Frame → Prop} {u u' u'' : Unfolding} {g : List Frame}

theorem Settled.mono (h : Settled p u g) (hu : Grows p S u u') : Settled p u' g where
  seen f hf := hu.seen f (h.seen f hf)
  found hg := by
    obtain ⟨t, ht, hframes⟩ := h.found hg
    exact ⟨t, hu.found t ht, hframes⟩

namespace Grows

theorem refl (u : Unfolding) : Grows p S u u :=
  ⟨fun _ h => h, fun _ h => h, fun _ h => .inl h, fun _ h => .inl h⟩

theorem trans (h : Grows p S u u') (h' : Grows p S u' u'') : Grows p S u u'' where
  seen g hg := h'.seen g (h.seen g hg)
  found t ht := h'.found t (h.found t ht)
  settled g hg := by
    obtain hg | hg := h'.settled g hg
    · exact (h.settled g hg).imp_right fun hg => hg.mono h'
    · exact .inr hg
  sound t ht := by
    obtain ht | ht := h'.sound t ht
    · exact h.sound t ht
    · exact .inr ht

end Grows

/-- A step that is to see some frames, once others have been seen. -/
def Covers (p : Place) (S : List Frame → Prop) (before : List (List Frame)) (f : Step)
    (goals : List (List Frame)) : Prop :=
  (∀ h ∈ goals, S h) → ∀ slots u, (∀ g ∈ before, g ∈ u.seen) →
    Grows p S u (f slots u) ∧ ∀ h ∈ goals, h ∈ (f slots u).seen

/-- A step that is to settle frames that have been seen, once others have been seen, too. -/
def Settles (p : Place) (S : List Frame → Prop) (before : List (List Frame)) (f : Step)
    (g : List Frame) : Prop :=
  S g → ∀ slots u, g ∈ u.seen → (∀ h ∈ before, h ∈ u.seen) →
    Grows p S u (f slots u) ∧ Settled p (f slots u) g

variable {before : List (List Frame)} {f f' : Step} {goals goals' : List (List Frame)}

theorem Covers.mono (h : Covers p S before f goals) (extra : List Frame) :
    Covers p S (extra :: before) f goals :=
  fun hS slots u hu => h hS slots u fun g hg => hu g (List.mem_cons_of_mem _ hg)

/-- What a step settles counts as seen before it. -/
theorem Settles.self (h : Settles p S (g :: before) f g) : Settles p S before f g := by
  intro hS slots u hg hu
  refine h hS slots u hg ?_
  rintro h' (_ | ⟨_, hh'⟩)
  · exact hg
  · exact hu h' hh'

/-- Frames that do not stand are settled by covering their successors. -/
theorem Covers.settles (hS : ∀ g, S g → ∀ h ∈ nexts p g, S h) (hg : ¬ Stands g)
    (h : Covers p S before f (nexts p g)) : Settles p S before f g := by
  intro hSg slots u _ hu
  obtain ⟨hgrows, hseen⟩ := h (hS g hSg) slots u hu
  exact ⟨hgrows, hseen, fun hst => absurd hst hg⟩

/-- Frames that are settled where they are seen first are covered. -/
theorem Settles.covers_once (h : Settles p S before f g) : Covers p S before (once g f) [g] := by
  intro hS slots u hu
  have hSg : S g := hS g (List.mem_singleton_self g)
  unfold once
  split
  · next hg => exact ⟨.refl u, fun h hh => List.mem_singleton.mp hh ▸ hg⟩
  · next hg =>
    let u₁ : Unfolding := { u with seen := u.seen.insert g }
    have hseen : ∀ {h}, h ∈ u₁.seen ↔ g = h ∨ h ∈ u.seen := by simp [u₁]
    obtain ⟨hgrows, hsettled⟩ := h hSg slots u₁ (hseen.mpr (.inl rfl))
      fun h hh => hseen.mpr (.inr (hu h hh))
    refine ⟨⟨fun h hh => hgrows.seen h (hseen.mpr (.inr hh)), hgrows.found, fun h hh => ?_,
      hgrows.sound⟩, fun h hh => ?_⟩
    · obtain hh | hh := hgrows.settled h hh
      · obtain rfl | hh := hseen.mp hh
        · exact .inr hsettled
        · exact .inl hh
      · exact .inr hh
    · obtain rfl := List.mem_singleton.mp hh
      exact hgrows.seen _ (hseen.mpr (.inl rfl))

/-- Two steps, one after the other. -/
theorem Covers.andThen (h : Covers p S before f goals) (h' : Covers p S before f' goals') :
    Covers p S before (fun slots u => f' slots (f slots u)) (goals ++ goals') := by
  intro hS slots u hu
  obtain ⟨hgrows, hseen⟩ := h (fun g hg => hS g (List.mem_append_left _ hg)) slots u hu
  obtain ⟨hgrows', hseen'⟩ := h' (fun g hg => hS g (List.mem_append_right _ hg)) slots _
    fun g hg => hgrows.seen g (hu g hg)
  refine ⟨hgrows.trans hgrows', fun g hg => ?_⟩
  obtain hg | hg := List.mem_append.mp hg
  · exact hgrows'.seen g (hseen g hg)
  · exact hseen' g hg

/-- The order of the goals does not count. -/
theorem Covers.of_subset (h : Covers p S before f goals) (hsub : goals' ⊆ goals)
    (hsup : goals ⊆ goals') : Covers p S before f goals' := by
  intro hS slots u hu
  obtain ⟨hgrows, hseen⟩ := h (fun g hg => hS g (hsup hg)) slots u hu
  exact ⟨hgrows, fun g hg => hseen g (hsub hg)⟩

theorem Covers.prefer (greedy : Bool) (h : Covers p S before f goals)
    (h' : Covers p S before f' goals') :
    Covers p S before (prefer greedy f f') (goals ++ goals') := by
  cases greedy with
  | true => exact h.andThen h'
  | false => exact (h'.andThen h).of_subset (by grind) (by grind)

/-! ## The walk of the search -/

variable {body : List Frame → Step → Step} {leave : Step}

/-- Unfolding a repeated expression settles it, whatever follows. -/
def SettlesBody (p : Place) (S : List Frame → Prop) (e : Expr)
    (body : List Frame → Step → Step) : Prop :=
  ∀ before rest next, Covers p S before next [rest] →
    Settles p S before (body rest next) (.run e :: rest)

/-- A round is unfolded if what follows it settles: the round itself has
been seen by then. -/
theorem covers_round (hbody : SettlesBody p S e body) {tail : List Frame} {next : Step}
    (hnext : Settles p S ((.run e :: tail) :: before) next tail) :
    Covers p S before (round body e tail next) [.run e :: tail] :=
  (hbody _ _ _ hnext.covers_once).self.covers_once

/-- An unbounded repetition does not start over behind an empty round, and
need not: its round has been seen. -/
theorem settles_unbounded (hS : ∀ g, S g → ∀ h ∈ nexts p g, S h)
    (hleave : Covers p S before leave [rest]) :
    Settles p S ((.run e :: .again e 0 none greedy :: rest) :: before) leave
      (.again e 0 none greedy :: rest) := by
  intro hSg slots u _ hu
  have hrest : S rest := hS _ hSg rest (by simp [nexts, nextRounds])
  obtain ⟨hgrows, hseen⟩ := hleave (fun h hh => List.mem_singleton.mp hh ▸ hrest) slots u
    fun h hh => hu h (List.mem_cons_of_mem _ hh)
  refine ⟨hgrows, fun h hh => ?_, fun hst => absurd hst id⟩
  simp only [nexts, nextRounds, List.mem_cons, List.not_mem_nil, or_false] at hh
  obtain rfl | rfl := hh
  · exact hgrows.seen _ (hu _ List.mem_cons_self)
  · exact hseen _ (List.mem_singleton_self _)

theorem covers_optionalRounds (hS : ∀ g, S g → ∀ h ∈ nexts p g, S h)
    (hbody : SettlesBody p S e body) (hleave : Covers p S before leave [rest]) :
    Covers p S before (optionalRounds body e greedy rest leave more)
      (nextRounds e more greedy rest 0) := by
  cases more with
  | none => exact (covers_round hbody (settles_unbounded hS hleave)).prefer greedy hleave
  | some k =>
    rw [optionalRounds]
    induction k with
    | zero => exact hleave
    | succ k ih =>
      exact (covers_round hbody ((ih.mono _).settles hS id)).prefer greedy hleave

theorem covers_rounds (hS : ∀ g, S g → ∀ h ∈ nexts p g, S h)
    (hbody : SettlesBody p S e body) (hleave : Covers p S before leave [rest]) (min : Nat) :
    Covers p S before (rounds body e more greedy rest leave min)
      (nextRounds e more greedy rest min) := by
  induction min with
  | zero => exact covers_optionalRounds hS hbody hleave
  | succ min ih => exact covers_round hbody ((ih.mono _).settles hS id)

/-- The slots do not count. -/
theorem Covers.comap (h : Covers p S before f goals) (φ : Slots → Slots) :
    Covers p S before (fun slots u => f (φ slots) u) goals :=
  fun hS slots u hu => h hS (φ slots) u hu

/-- A thread that is added stands. -/
theorem settles_add (hg : nexts p g = []) : Settles p S before (add g) g := by
  intro hSg slots u hseen _
  refine ⟨⟨fun _ h => h, fun t ht => List.mem_cons_of_mem _ ht, fun h hh => .inl hh,
    fun t ht => ?_⟩, by simp [hg], fun _ => ⟨⟨g, slots⟩, List.mem_cons_self, rfl⟩⟩
  obtain rfl | ht := List.mem_cons.mp ht
  · exact .inr hSg
  · exact .inl ht

/-- **Unfolding an expression settles it.** -/
theorem settles_explore (hS : ∀ g, S g → ∀ h ∈ nexts p g, S h) (e : Expr) :
    SettlesBody p S e (explore p e) := by
  induction e with
  | empty => exact fun before rest next hnext => hnext.settles hS id
  | set s => exact fun before rest next _ => settles_add rfl
  | look b =>
    -- where the condition fails there is nothing to go on to
    intro before rest next hnext
    refine Covers.settles hS id fun hgoals slots u hu => ?_
    cases hb : b.holds p.before p.after with
    | true =>
      simp only [nexts, explore, hb, if_true] at hgoals ⊢
      exact hnext hgoals slots u hu
    | false => exact ⟨by simpa [explore, hb] using .refl u, by simp [nexts, hb]⟩
  | group index e ih =>
    -- from the end of the group backwards: the end, then what leads to it
    intro before rest next hnext
    have htail := ((hnext.comap (·.shutting index p.index)).settles hS id
      (g := .shut index :: rest)).covers_once
    exact ((ih _ _ _ htail).covers_once.comap (·.opening index p.index)).settles hS id
  | cat a b iha ihb =>
    intro before rest next hnext
    have htail := (ihb _ _ _ hnext).covers_once
    exact (iha _ _ _ htail).covers_once.settles hS id
  | alt a b iha ihb =>
    intro before rest next hnext
    exact ((iha _ _ _ hnext).covers_once.andThen (ihb _ _ _ hnext).covers_once).settles hS id
  | times e min more greedy ih =>
    exact fun before rest next hnext => (covers_rounds hS ih hnext min).settles hS id

/-- **Unfolding frames covers them.** -/
theorem covers_visit (hS : ∀ g, S g → ∀ h ∈ nexts p g, S h) (g : List Frame) :
    Covers p S [] (visit p g) [g] := by
  induction g with
  | nil => exact (settles_add rfl).covers_once
  | cons f rest ih =>
    cases f with
    | run e => exact (settles_explore hS e _ _ _ ih).covers_once
    | shut index => exact ((ih.comap (·.shutting index p.index)).settles hS id).covers_once
    | again e min more greedy =>
      exact ((covers_rounds hS (settles_explore hS e) ih min).settles hS id).covers_once

/-! ## All walks at one place -/

/-- Unfold the frames of threads, one thread after the other. -/
def unfoldAll (p : Place) (threads : List Thread) (u : Unfolding) : Unfolding :=
  threads.foldl (fun u t => visit p t.frames t.slots u) u

theorem grows_unfoldAll (hS : ∀ g, S g → ∀ h ∈ nexts p g, S h) {threads : List Thread}
    (hthreads : ∀ t ∈ threads, S t.frames) (u : Unfolding) :
    Grows p S u (unfoldAll p threads u) ∧
      ∀ t ∈ threads, t.frames ∈ (unfoldAll p threads u).seen := by
  induction threads generalizing u with
  | nil => exact ⟨.refl u, fun t ht => by cases ht⟩
  | cons t threads ih =>
    have ht : ∀ h ∈ [t.frames], S h := fun h hh =>
      List.mem_singleton.mp hh ▸ hthreads t List.mem_cons_self
    obtain ⟨hgrows, hseen⟩ := covers_visit hS t.frames ht t.slots u fun _ h => by cases h
    obtain ⟨hgrows', hseen'⟩ := ih (fun t ht => hthreads t (List.mem_cons_of_mem _ ht))
      (visit p t.frames t.slots u)
    refine ⟨hgrows.trans hgrows', fun t' ht' => ?_⟩
    obtain rfl | ht' := List.mem_cons.mp ht'
    · exact hgrows'.seen _ (hseen _ (List.mem_singleton_self _))
    · exact hseen' t' ht'

/-- **What can be completed from a thread that is found can be completed
from one of the threads that were unfolded.** -/
theorem completes_of_found (hp : IsPlace text i p) {threads : List Thread} {t : Thread}
    (ht : t ∈ (unfoldAll p threads .start).found) (hcompletes : Completes text t.frames i) :
    ∃ t ∈ threads, Completes text t.frames i := by
  -- what holds of all frames that are unfolded
  let S (g : List Frame) : Prop :=
    Completes text g i → ∃ t ∈ threads, Completes text t.frames i
  have hS (g) (hg : S g) (h) (hmem : h ∈ nexts p g) : S h :=
    fun hh => hg (completes_of_mem_nexts hp hmem hh)
  have hgrows := (grows_unfoldAll hS (fun t ht (hh : Completes text t.frames i) => ⟨t, ht, hh⟩)
    .start).1
  obtain hstart | hsound := hgrows.sound t ht
  · cases hstart
  · exact hsound hcompletes

/-- **What can be completed from one of the threads that were unfolded can be
completed from a thread that is found and stands.** -/
theorem exists_found_of_completes (hp : IsPlace text i p) {threads : List Thread} {t : Thread}
    (ht : t ∈ threads) (hcompletes : Completes text t.frames i) :
    ∃ t ∈ (unfoldAll p threads .start).found, Stands t.frames ∧ Completes text t.frames i := by
  obtain ⟨hgrows, hseen⟩ := grows_unfoldAll (p := p) (S := fun _ => True)
    (fun _ _ _ _ => trivial) (fun t (_ : t ∈ threads) => trivial) .start
  have hsettled (g) (hg : g ∈ (unfoldAll p threads .start).seen) :
      Settled p (unfoldAll p threads .start) g := by
    obtain hstart | hsettled := hgrows.settled g hg
    · simp [start] at hstart
    · exact hsettled
  obtain ⟨g, hg, hstands, hcompletes⟩ :=
    arrives hp (fun g hg => (hsettled g hg).seen) hcompletes (hseen t ht)
  obtain ⟨t, ht, rfl⟩ := (hsettled g hg).found hstands
  exact ⟨t, ht, hstands, hcompletes⟩

end StreamFinder.Pattern
