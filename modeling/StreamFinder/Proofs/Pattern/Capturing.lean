import StreamFinder.Proofs.Pattern.Searching
/-!
# What the groups of a match are

Of an expression that matches, the search answers where its groups started
and ended. Whichever match it prefers, these are the notes of some run of
the expression (`Runs`): from a place on, frames are unfolded one step at a
time, what a group takes is noted, and characters are read, until nothing
is left to match.

The walk of the unfolding drops what it has seen, so it need not find every
run; but each thread that it finds is on a run of a thread that was unfolded
(`Finds`). Hence all that is answered is the outcome of a run that begins
somewhere in the text (`exists_runs_of_search`).
-/

namespace StreamFinder.Pattern

open Text Unfolding

/-! ## Runs -/

/-- The place behind so many characters of a text. -/
def placeAt (text : List Char) (i : Nat) : Place := ⟨i, before? text i, text[i]?⟩

/-- What is noted when frames are unfolded at a place: that a group starts, or that it ends. -/
def noted (p : Place) : List Frame → Slots → Slots
  | .run (.group index _) :: _, slots => slots.opening index p.index
  | .shut index :: _, slots => slots.shutting index p.index
  | _, slots => slots

/-- Whether frames, from a place and some slots on, can be run to their end with other slots. -/
inductive Runs (text : List Char) : List Frame → Nat → Slots → Slots → Prop where
  | done {i : Nat} {slots : Slots} : Runs text [] i slots slots
  | read {s : CodeSet} {rest : List Frame} {i : Nat} {slots final : Slots} {c : Char}
    (hc : text[i]? = some c) (hs : s.hasChar c = true) (h : Runs text rest (i + 1) slots final) :
    Runs text (.run (.set s) :: rest) i slots final
  | unfold {g g' : List Frame} {i : Nat} {slots final : Slots}
    (hmem : g' ∈ nexts (placeAt text i) g)
    (h : Runs text g' i (noted (placeAt text i) g slots) final) : Runs text g i slots final

variable {text : List Char} {i : Nat} {e a b : Expr} {rest : List Frame} {slots final : Slots}

/-- What runs to its end can be completed. -/
theorem Runs.completes {g : List Frame} (h : Runs text g i slots final) : Completes text g i := by
  induction h with
  | done => trivial
  | read hc hs _ ih => exact completes_set.2 ⟨_, hc, hs, ih⟩
  | unfold hmem _ ih => exact completes_of_mem_nexts ⟨rfl, rfl⟩ hmem ih

@[simp] theorem runs_nil : Runs text [] i slots final ↔ final = slots := by
  constructor
  · intro h
    cases h with
    | done => rfl
    | unfold hmem _ => simp [nexts] at hmem
  · rintro rfl
    exact .done

@[simp] theorem runs_set {s : CodeSet} : Runs text (.run (.set s) :: rest) i slots final ↔
    ∃ c, text[i]? = some c ∧ s.hasChar c = true ∧ Runs text rest (i + 1) slots final := by
  constructor
  · intro h
    cases h with
    | read hc hs h => exact ⟨_, hc, hs, h⟩
    | unfold hmem _ => simp [nexts] at hmem
  · rintro ⟨c, hc, hs, h⟩
    exact .read hc hs h

/-- Frames that neither are at their end nor stand before a character are unfolded. -/
theorem runs_iff_of_not_stands {g : List Frame} (hg : ¬ Stands g) :
    Runs text g i slots final ↔
      ∃ g' ∈ nexts (placeAt text i) g, Runs text g' i (noted (placeAt text i) g slots) final := by
  constructor
  · intro h
    cases h with
    | done => exact absurd trivial hg
    | read => exact absurd trivial hg
    | unfold hmem h => exact ⟨_, hmem, h⟩
  · rintro ⟨g', hmem, h⟩
    exact .unfold hmem h

@[simp] theorem runs_look {b : Boundary} : Runs text (.run (.look b) :: rest) i slots final ↔
    b.holds (before? text i) text[i]? = true ∧ Runs text rest i slots final := by
  rw [runs_iff_of_not_stands id]
  cases hb : b.holds (before? text i) text[i]? <;> simp [nexts, noted, placeAt, hb]

@[simp] theorem runs_cat : Runs text (.run (.cat a b) :: rest) i slots final ↔
    Runs text (.run a :: .run b :: rest) i slots final := by
  rw [runs_iff_of_not_stands id]
  simp [nexts, noted]

@[simp] theorem runs_group {index : Nat} : Runs text (.run (.group index e) :: rest) i slots final ↔
    Runs text (.run e :: .shut index :: rest) i (slots.opening index i) final := by
  rw [runs_iff_of_not_stands id]
  simp [nexts, noted, placeAt]

@[simp] theorem runs_shut {index : Nat} : Runs text (.shut index :: rest) i slots final ↔
    Runs text rest i (slots.shutting index i) final := by
  rw [runs_iff_of_not_stands id]
  simp [nexts, noted, placeAt]

@[simp] theorem runs_times_succ {min : Nat} {more : Option Nat} {greedy : Bool} :
    Runs text (.run (.times e (min + 1) more greedy) :: rest) i slots final ↔
      Runs text (.run e :: .again e min more greedy :: rest) i slots final := by
  rw [runs_iff_of_not_stands id]
  simp [nexts, nextRounds, noted]

/-- Characters of a set, as many as there are: whatever follows may begin behind any of them. -/
theorem runs_again_set {s : CodeSet} {greedy : Bool} :
    Runs text (.again (.set s) 0 none greedy :: rest) i slots final ↔
      ∃ n, (∀ k < n, ∃ c, text[i + k]? = some c ∧ s.hasChar c = true) ∧
        Runs text rest (i + n) slots final := by
  have hnext {i : Nat} : Runs text (.again (.set s) 0 none greedy :: rest) i slots final ↔
      Runs text (.run (.set s) :: .again (.set s) 0 none greedy :: rest) i slots final ∨
        Runs text rest i slots final := by
    rw [runs_iff_of_not_stands id]
    simp [nexts, nextRounds, noted]
  constructor
  · -- each round reads a character, so the induction is on how many are left
    intro h
    induction hleft : text.length - i using Nat.strongRecOn generalizing i with
    | _ m ih =>
      obtain h | h := hnext.1 h
      · obtain ⟨c, hc, hs, h⟩ := runs_set.1 h
        have hlt : i < text.length := (List.getElem?_eq_some_iff.1 hc).1
        obtain ⟨n, hall, hrest⟩ := ih (text.length - (i + 1)) (by omega) h rfl
        refine ⟨n + 1, fun k hk => ?_, by rwa [Nat.add_right_comm] at hrest⟩
        cases k with
        | zero => exact ⟨c, hc, hs⟩
        | succ k =>
          have hk' := hall k (by omega)
          rwa [Nat.add_right_comm] at hk'
      · exact ⟨0, fun k hk => absurd hk (Nat.not_lt_zero k), h⟩
  · rintro ⟨n, hall, hrest⟩
    induction n generalizing i with
    | zero => exact hnext.2 (.inr hrest)
    | succ n ih =>
      obtain ⟨c, hc, hs⟩ := hall 0 (Nat.zero_lt_succ n)
      refine hnext.2 (.inl (runs_set.2 ⟨c, hc, hs, ih (fun k hk => ?_) ?_⟩))
      · have hk' := hall (k + 1) (by omega)
        rwa [← Nat.add_assoc, Nat.add_right_comm] at hk'
      · rwa [← Nat.add_assoc, Nat.add_right_comm] at hrest

/-! ## Threads on the way -/

/-- Whether a step finds only threads of a set. -/
def Finds (S : Thread → Prop) (step : Step) (slots : Slots) : Prop :=
  ∀ u, ∀ t ∈ (step slots u).found, t ∈ u.found ∨ S t

/-- A set of threads that holds what is unfolded from them. -/
def IsClosed (p : Place) (S : Thread → Prop) : Prop :=
  ∀ g slots, S ⟨g, slots⟩ → ∀ g' ∈ nexts p g, S ⟨g', noted p g slots⟩

section Finding

variable {S : Thread → Prop} {p : Place} {g : List Frame} {next enter leave : Step}
variable {body : List Frame → Step → Step} {more : Option Nat} {greedy : Bool}

theorem finds_once (h : Finds S next slots) : Finds S (once g next) slots := by
  intro u t ht
  unfold once at ht
  split at ht
  · exact .inl ht
  · exact h { u with seen := u.seen.insert g } t ht

theorem finds_add (h : S ⟨g, slots⟩) : Finds S (add g) slots := by
  intro u t ht
  obtain rfl | ht := List.mem_cons.1 ht
  · exact .inr h
  · exact .inl ht

theorem Finds.andThen (h : Finds S enter slots) (h' : Finds S leave slots) :
    Finds S (fun slots u => leave slots (enter slots u)) slots := by
  intro u t ht
  obtain ht | ht := h' _ t ht
  · exact h u t ht
  · exact .inr ht

theorem finds_prefer (h : Finds S enter slots) (h' : Finds S leave slots) :
    Finds S (prefer greedy enter leave) slots := by
  cases greedy with
  | true => exact h.andThen h'
  | false => exact h'.andThen h

/-- Whether an expression is unfolded soundly in front of whatever follows it. -/
def FindsIn (S : Thread → Prop) (e : Expr) (body : List Frame → Step → Step) : Prop :=
  ∀ rest next slots, S ⟨.run e :: rest, slots⟩ →
    (∀ slots, S ⟨rest, slots⟩ → Finds S next slots) → Finds S (body rest next) slots

theorem finds_round (hbody : FindsIn S e body) (hround : S ⟨.run e :: rest, slots⟩)
    (hnext : ∀ slots, S ⟨rest, slots⟩ → Finds S next slots) :
    Finds S (round body e rest next) slots :=
  finds_once (hbody rest _ slots hround fun slots hs => finds_once (hnext slots hs))

theorem finds_roundsWithin (hS : IsClosed p S) (hbody : FindsIn S e body)
    (hleave : ∀ slots, S ⟨rest, slots⟩ → Finds S leave slots) (k : Nat)
    (hnexts : ∀ g ∈ nextRounds e (some k) greedy rest 0, S ⟨g, slots⟩) :
    Finds S (roundsWithin body e greedy rest leave k) slots := by
  induction k generalizing slots with
  | zero => exact hleave slots (hnexts rest (by simp [nextRounds]))
  | succ k ih =>
    refine finds_prefer (finds_round hbody (hnexts _ (by simp [nextRounds])) fun slots hs => ?_)
      (hleave slots (hnexts rest (by simp [nextRounds])))
    exact ih (hS _ slots hs)

/-- A repetition is unfolded soundly if all that it is unfolded to belongs to the set. -/
theorem finds_rounds (hS : IsClosed p S) (hbody : FindsIn S e body)
    (hleave : ∀ slots, S ⟨rest, slots⟩ → Finds S leave slots) (min : Nat)
    (hnexts : ∀ g ∈ nextRounds e more greedy rest min, S ⟨g, slots⟩) :
    Finds S (rounds body e more greedy rest leave min) slots := by
  induction min generalizing slots with
  | zero =>
    cases more with
    | some k => exact finds_roundsWithin hS hbody hleave k hnexts
    | none =>
      refine finds_prefer (finds_round hbody (hnexts _ (by simp [nextRounds])) fun slots hs => ?_)
        (hleave slots (hnexts rest (by simp [nextRounds])))
      exact hleave slots (hS _ slots hs rest (by simp [nexts, nextRounds]))
  | succ min ih =>
    exact finds_round hbody (hnexts _ (by simp [nextRounds])) fun slots hs => ih (hS _ slots hs)

/-- An expression is unfolded soundly, by cases of what it is made of. -/
theorem finds_explore (hS : IsClosed p S) (e : Expr) : FindsIn S e (explore p e) := by
  induction e with
  | empty =>
    exact fun rest next slots hs hnext => hnext slots (hS _ slots hs rest (by simp [nexts]))
  | set s => exact fun rest next slots hs hnext => finds_add hs
  | look b =>
    intro rest next slots hs hnext
    cases hb : b.holds p.before p.after with
    | true =>
      have hrest := hnext slots (hS _ slots hs rest (by simp [nexts, hb]))
      simpa only [Finds, explore, hb, if_true] using hrest
    | false =>
      intro u t ht
      simp only [explore, hb, Bool.false_eq_true, if_false] at ht
      exact .inl ht
  | group index e ih =>
    intro rest next slots hs hnext
    refine finds_once (ih _ _ _ (hS _ slots hs _ (by simp [nexts])) fun slots hs => finds_once ?_)
    exact hnext _ (hS _ slots hs rest (by simp [nexts]))
  | cat a b iha ihb =>
    intro rest next slots hs hnext
    refine finds_once (iha _ _ _ (hS _ slots hs _ (by simp [nexts])) fun slots hs => finds_once ?_)
    exact ihb _ _ _ hs hnext
  | alt a b iha ihb =>
    intro rest next slots hs hnext
    exact (finds_once (iha _ _ _ (hS _ slots hs _ (by simp [nexts])) hnext)).andThen
      (finds_once (ihb _ _ _ (hS _ slots hs _ (by simp [nexts])) hnext))
  | times e min more greedy ih =>
    exact fun rest next slots hs hnext => finds_rounds hS ih hnext min (hS _ slots hs)

/-- **Unfolding finds only what can be reached.** -/
theorem finds_visit (hS : IsClosed p S) (h : S ⟨g, slots⟩) : Finds S (visit p g) slots := by
  induction g generalizing slots with
  | nil => exact finds_once (finds_add h)
  | cons f rest ih =>
    cases f with
    | run e => exact finds_once (finds_explore hS e _ _ _ h fun slots hs => ih hs)
    | shut index => exact finds_once (ih (hS _ slots h rest (by simp [nexts])))
    | again e min more greedy =>
      exact finds_once (finds_rounds hS (finds_explore hS e) (fun slots hs => ih hs) min
        (hS _ slots h))

theorem mem_found_unfoldAll (hS : IsClosed p S) {threads : List Thread}
    (hthreads : ∀ t ∈ threads, S t) {u : Unfolding} {t : Thread}
    (ht : t ∈ (unfoldAll p threads u).found) : t ∈ u.found ∨ S t := by
  induction threads generalizing u with
  | nil => exact .inl ht
  | cons t' threads ih =>
    rw [List.forall_mem_cons] at hthreads
    obtain ht | ht := ih hthreads.2 ht
    · exact finds_visit hS hthreads.1 u t ht
    · exact .inr ht

end Finding

/-! ## From place to place -/

variable {threads : List Thread} {begins : Nat → Bool} {entry : Place → Unfolding → Unfolding}

/-- Whether one of some threads runs to its end with these slots. -/
def RunsOne (text : List Char) (threads : List Thread) (i : Nat) (final : Slots) : Prop :=
  ∃ t ∈ threads, Runs text t.frames i t.slots final

/-- A thread that is found is on a run of one that was unfolded. -/
theorem runsOne_of_mem_standing {t : Thread} (ht : t ∈ standing (placeAt text i) threads)
    (h : Runs text t.frames i t.slots final) : RunsOne text threads i final := by
  -- the set of the threads that are on such a run
  let S (t : Thread) : Prop := Runs text t.frames i t.slots final → RunsOne text threads i final
  have hS : IsClosed (placeAt text i) S := fun g slots hg g' hmem hrun => hg (.unfold hmem hrun)
  obtain hstart | hfound := mem_found_unfoldAll hS (fun t ht hrun => ⟨t, ht, hrun⟩)
    (List.mem_reverse.1 ht)
  · cases hstart
  · exact hfound h

theorem mem_of_mem_settle {t : Thread} (h : t ∈ (settle threads).1) : t ∈ threads := by
  induction threads with
  | nil => exact h
  | cons t' threads ih =>
    by_cases ht' : t'.frames = []
    · simp [settle, ht'] at h
    · simp only [settle, ht', if_false, List.mem_cons] at h ⊢
      exact h.imp_right ih

theorem exists_of_settle (h : (settle threads).2 = some final) :
    ∃ t ∈ threads, t.frames = [] ∧ t.slots = final := by
  induction threads with
  | nil => cases h
  | cons t threads ih =>
    by_cases ht : t.frames = []
    · simp only [settle, ht, if_true, Option.some.injEq] at h
      exact ⟨t, List.mem_cons_self, ht, h⟩
    · simp only [settle, ht, if_false] at h
      obtain ⟨t', ht', hframes⟩ := ih h
      exact ⟨t', List.mem_cons_of_mem t ht', hframes⟩

/-- A thread that is complete has run to its end. -/
theorem runsOne_of_settle (h : (settle (standing (placeAt text i) threads)).2 = some final) :
    RunsOne text threads i final := by
  obtain ⟨t, ht, hframes, hslots⟩ := exists_of_settle h
  exact runsOne_of_mem_standing ht (by rw [hframes, hslots]; exact .done)

/-- A thread that goes on behind a character ran to its end in front of it. -/
theorem runs_of_read? {t t' : Thread} {c : Char} (hc : text[i]? = some c)
    (ht : t.read? c = some t') (h : Runs text t'.frames (i + 1) t'.slots final) :
    Runs text t.frames i t.slots final := by
  unfold Thread.read? at ht
  split at ht
  · next s rest hframes =>
    rw [hframes]
    split at ht
    · next hs =>
      cases ht
      exact .read hc hs h
    · cases ht
  · cases ht

/-- The threads that are unfolded at a place; none begins there once there is a match. -/
def unfolded (begins : Nat → Bool) (e : Expr) (i : Nat) (threads : List Thread)
    (best : Option Slots) : List Thread :=
  if best.isNone then started begins e i threads else threads

/-- One place of a scan. -/
theorem scan_eq (hentry : Enters e begins entry) (rest : List Char) (before : Option Char)
    (best : Option Slots) :
    scan entry rest i before threads best =
      let stand := standing ⟨i, before, rest.head?⟩ (unfolded begins e i threads best)
      let best := (settle stand).2.or best
      match rest with
      | [] => best
      | c :: rest =>
        scan entry rest (i + 1) (some c) ((settle stand).1.filterMap (·.read? c)) best := by
  cases best with
  | none =>
    rw [scan_none hentry]
    cases rest <;> simp [unfolded]
  | some slots =>
    rw [scan]
    rfl

/-- A thread that is unfolded has come this far, or begins here. -/
theorem runsOne_unfolded {best : Option Slots} (hi : i ≤ text.length)
    (h : RunsOne text (unfolded begins e i threads best) i final) :
    RunsOne text threads i final ∨
      ∃ k, i ≤ k ∧ k ≤ text.length ∧ begins k = true ∧ Runs text [.run e] k .none final := by
  obtain ⟨t, ht, hrun⟩ := h
  have hstarted : t ∈ started begins e i threads := by
    unfold unfolded at ht
    split at ht
    · exact ht
    · exact List.mem_append_left _ ht
  obtain ht | ht := List.mem_append.1 hstarted
  · exact .inl ⟨t, ht, hrun⟩
  · split at ht
    · next hbegins =>
      obtain rfl := List.mem_singleton.1 ht
      exact .inr ⟨i, Nat.le_refl i, hi, hbegins, hrun⟩
    · cases ht

/-- **What a scan answers** is the outcome of a run of a thread that has come this far, or of one
that begins from here on, unless it has been answered before. -/
theorem exists_runs_of_scan (hentry : Enters e begins entry) {rest : List Char}
    {before : Option Char} {best : Option Slots} (hrest : text.drop i = rest)
    (hi : i ≤ text.length) (hbefore : before = before? text i)
    (h : scan entry rest i before threads best = some final) :
    best = some final ∨ RunsOne text threads i final ∨
      ∃ k, i ≤ k ∧ k ≤ text.length ∧ begins k = true ∧ Runs text [.run e] k .none final := by
  induction rest generalizing i before threads best with
  | nil =>
    have hplace : (⟨i, before, [].head?⟩ : Place) = placeAt text i := by
      rw [placeAt, hbefore, ← List.head?_drop, hrest]
    rw [scan_eq hentry, hplace] at h
    obtain hnow | ⟨-, hbest⟩ := Option.or_eq_some_iff.1 h
    · exact .inr (runsOne_unfolded hi (runsOne_of_settle hnow))
    · exact .inl hbest
  | cons c rest ih =>
    have hchar : text[i]? = some c := by rw [← List.head?_drop, hrest, List.head?_cons]
    have hlt : i < text.length := (List.getElem?_eq_some_iff.1 hchar).1
    have hnext : text.drop (i + 1) = rest := by rw [← List.drop_drop, hrest]; rfl
    have hplace : (⟨i, before, (c :: rest).head?⟩ : Place) = placeAt text i := by
      rw [placeAt, hbefore, ← List.head?_drop, hrest]
    rw [scan_eq hentry, hplace] at h
    obtain hbest | ⟨t', ht', hrun⟩ | ⟨k, hk, hk', hbegins, hrun⟩ := ih hnext hlt hchar.symm h
    · obtain hnow | ⟨-, hbest⟩ := Option.or_eq_some_iff.1 hbest
      · exact .inr (runsOne_unfolded hi (runsOne_of_settle hnow))
      · exact .inl hbest
    · -- the thread was found at this place, so it is on a run of one that was unfolded here
      obtain ⟨t, ht, hread⟩ := List.mem_filterMap.1 ht'
      exact .inr (runsOne_unfolded hi (runsOne_of_mem_standing (mem_of_mem_settle ht)
        (runs_of_read? hchar hread hrun)))
    · exact .inr (.inr ⟨k, by omega, hk', hbegins, hrun⟩)

/-- **The groups of a match** are those of a run that begins somewhere in the text. -/
theorem exists_runs_of_search (h : search e text = some final) :
    ∃ i, i ≤ text.length ∧ Runs text [.run e] i .none final := by
  have hentry : Enters e (fun _ => true) fun p u => visit p [.run e] .none u := fun _ _ => rfl
  obtain hbest | ⟨t, ht, -⟩ | ⟨k, -, hk, -, hrun⟩ :=
    exists_runs_of_scan hentry List.drop_zero (Nat.zero_le _) rfl h
  · cases hbest
  · cases ht
  · exact ⟨k, hk, hrun⟩

/-- Where an expression can be run, the search finds a match. -/
theorem isSome_search_of_runs (hi : i ≤ text.length) (h : Runs text [.run e] i .none final) :
    (search e text).isSome = true :=
  isSome_search.2 ⟨i, hi, completes_run.1 h.completes⟩

end StreamFinder.Pattern
