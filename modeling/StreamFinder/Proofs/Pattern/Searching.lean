import StreamFinder.Proofs.Pattern.Unfolding

/-!
# What a search finds

A search finds a match if and only if the expression matches the text
somewhere; the order of preference decides which match it is, not whether
there is one. The scan carries the reason from place to place: the threads
that are alive can be completed from here, or a match begins later, or
there is a match already.
-/

namespace StreamFinder.Pattern

open Text

variable {text : List Char} {i : Nat} {e : Expr} {threads : List Thread}

/-! ## Complete threads -/

theorem isSome_settle : (settle threads).2.isSome = true ↔ ∃ t ∈ threads, t.frames = [] := by
  induction threads with
  | nil => simp [settle]
  | cons t threads ih =>
    by_cases ht : t.frames = []
    · simp [settle, ht]
    · simp [settle, ht, ih]

/-- While no thread is complete, all of them stay. -/
theorem settle_of_none (h : (settle threads).2 = none) : (settle threads).1 = threads := by
  induction threads with
  | nil => rfl
  | cons t threads ih =>
    by_cases ht : t.frames = []
    · simp [settle, ht] at h
    · simp only [settle, ht, if_false] at h ⊢
      rw [ih h]

/-! ## Reading a character -/

/-- A thread that goes on behind a character could be completed in front of it. -/
theorem completes_of_read? {t t' : Thread} {c : Char} (hc : text[i]? = some c)
    (ht : t.read? c = some t') (hcompletes : Completes text t'.frames (i + 1)) :
    Completes text t.frames i := by
  unfold Thread.read? at ht
  split at ht
  · next s rest hframes =>
    rw [hframes, completes_set]
    split at ht
    · next hs =>
      cases ht
      exact ⟨c, hc, hs, hcompletes⟩
    · cases ht
  · cases ht

/-- A thread that stands before a character and can be completed goes on behind it. -/
theorem exists_read?_of_completes {t : Thread} (hstands : Stands t.frames)
    (hframes : t.frames ≠ []) (hcompletes : Completes text t.frames i) :
    ∃ c t', text[i]? = some c ∧ t.read? c = some t' ∧ Completes text t'.frames (i + 1) := by
  obtain ⟨frames, slots⟩ := t
  match frames with
  | [] => exact absurd rfl hframes
  | .run (.set s) :: rest =>
    obtain ⟨c, hc, hs, hrest⟩ := completes_set.mp hcompletes
    exact ⟨c, ⟨rest, slots⟩, hc, by simp [Thread.read?, hs], hrest⟩

/-! ## From place to place -/

/-- The search starts a match of an expression at some places. -/
def Enters (e : Expr) (begins : Nat → Bool) (entry : Place → Unfolding → Unfolding) : Prop :=
  ∀ p u, entry p u = if begins p.index then visit p [.run e] .none u else u

variable {begins : Nat → Bool} {entry : Place → Unfolding → Unfolding}

/-- The threads that are unfolded at a place while there is no match: those
that have come there, and one that begins there. -/
def started (begins : Nat → Bool) (e : Expr) (i : Nat) (threads : List Thread) : List Thread :=
  threads ++ if begins i then [⟨[.run e], .none⟩] else []

theorem exists_started :
    (∃ t ∈ started begins e i threads, Completes text t.frames i) ↔
      (∃ t ∈ threads, Completes text t.frames i) ∨
        begins i = true ∧ Completes text [.run e] i := by
  cases hb : begins i <;> simp [started, hb, or_and_right, exists_or]

/-- The threads that stand at a place, the preferred first. -/
def standing (p : Place) (threads : List Thread) : List Thread :=
  (unfoldAll p threads .start).found.reverse

/-- One place of a scan without a match so far. -/
theorem scan_none (hentry : Enters e begins entry) (rest : List Char) (before : Option Char) :
    scan entry rest i before threads none =
      let stand := standing ⟨i, before, rest.head?⟩ (started begins e i threads)
      match rest with
      | [] => (settle stand).2
      | c :: rest =>
        scan entry rest (i + 1) (some c) ((settle stand).1.filterMap (·.read? c))
          (settle stand).2 := by
  have hu : standing ⟨i, before, rest.head?⟩ (started begins e i threads) =
      (entry ⟨i, before, rest.head?⟩
        (unfoldAll ⟨i, before, rest.head?⟩ threads .start)).found.reverse := by
    rw [hentry, standing, started, unfoldAll, List.foldl_append]
    cases begins i <;> rfl
  rw [scan, hu]
  cases rest <;> simp only [unfoldAll, Option.isNone_none, if_true, Option.or_none]

/-- A match that was found is not lost. -/
theorem isSome_scan_of_isSome {rest : List Char} {before : Option Char} {best : Option Slots}
    (h : best.isSome = true) : (scan entry rest i before threads best).isSome = true := by
  induction rest generalizing i before threads best with
  | nil => simp [scan, h]
  | cons c rest ih =>
    rw [scan]
    exact ih (by simp [h])

/-- Of what is started at a place, one can be completed just if one of those that stand can. -/
theorem exists_standing {p : Place} (hp : IsPlace text i p) :
    (∃ t ∈ standing p threads, Stands t.frames ∧ Completes text t.frames i) ↔
      ∃ t ∈ threads, Completes text t.frames i := by
  simp only [standing, List.mem_reverse]
  constructor
  · rintro ⟨t, ht, -, hcompletes⟩
    exact completes_of_found hp ht hcompletes
  · rintro ⟨t, ht, hcompletes⟩
    exact exists_found_of_completes hp ht hcompletes

/-- A thread that is complete has been completed. -/
theorem exists_of_complete {p : Place} (hp : IsPlace text i p)
    (h : (settle (standing p threads)).2.isSome = true) :
    ∃ t ∈ threads, Completes text t.frames i := by
  obtain ⟨t, ht, hframes⟩ := isSome_settle.mp h
  exact (exists_standing hp).mp ⟨t, ht, by rw [hframes]; trivial, by rw [hframes]; trivial⟩

/-- While no thread is complete, one can be completed just if one goes on
behind the character. -/
theorem exists_reading {p : Place} (hp : IsPlace text i p)
    (h : (settle (standing p threads)).2 = none) :
    (∃ t ∈ threads, Completes text t.frames i) ↔
      ∃ c, text[i]? = some c ∧
        ∃ t ∈ (settle (standing p threads)).1.filterMap (·.read? c),
          Completes text t.frames (i + 1) := by
  rw [settle_of_none h, ← exists_standing hp]
  constructor
  · rintro ⟨t, ht, hstands, hcompletes⟩
    have hframes : t.frames ≠ [] := fun hframes => by
      have := isSome_settle.mpr ⟨t, ht, hframes⟩
      simp [h] at this
    obtain ⟨c, t', hc, hread, hcompletes'⟩ := exists_read?_of_completes hstands hframes hcompletes
    exact ⟨c, hc, t', List.mem_filterMap.mpr ⟨t, ht, hread⟩, hcompletes'⟩
  · rintro ⟨c, hc, t', ht', hcompletes⟩
    obtain ⟨t, ht, hread⟩ := List.mem_filterMap.mp ht'
    have hstands : Stands t.frames := by
      unfold Thread.read? at hread
      split at hread
      · next hframes => rw [hframes]; trivial
      · cases hread
    exact ⟨t, ht, hstands, completes_of_read? hc hread hcompletes⟩

/-- The places from here on are this one and the later ones. -/
theorem exists_from_here {P : Nat → Prop} (hi : i ≤ text.length) :
    (∃ k, i ≤ k ∧ k ≤ text.length ∧ P k) ↔
      P i ∨ ∃ k, i + 1 ≤ k ∧ k ≤ text.length ∧ P k := by
  constructor
  · rintro ⟨k, hik, hk, hP⟩
    obtain rfl | hlt := Nat.eq_or_lt_of_le hik
    · exact .inl hP
    · exact .inr ⟨k, hlt, hk, hP⟩
  · rintro (hP | ⟨k, hik, hk, hP⟩)
    · exact ⟨i, Nat.le_refl _, hi, hP⟩
    · exact ⟨k, by omega, hk, hP⟩

/-- **A scan finds a match just if a thread can be completed or a match begins
from here on.** -/
theorem isSome_scan (hentry : Enters e begins entry) {rest : List Char} {before : Option Char}
    (hrest : text.drop i = rest) (hi : i ≤ text.length) (hbefore : before = before? text i) :
    (scan entry rest i before threads none).isSome = true ↔
      (∃ t ∈ threads, Completes text t.frames i) ∨
        ∃ k, i ≤ k ∧ k ≤ text.length ∧ begins k = true ∧ Completes text [.run e] k := by
  induction rest generalizing i before threads with
  | nil =>
    have hp : IsPlace text i ⟨i, before, [].head?⟩ := ⟨hbefore, by rw [← hrest, List.head?_drop]⟩
    have hend : text.length ≤ i := List.drop_eq_nil_iff.mp hrest
    rw [exists_from_here hi, ← or_assoc, ← exists_started, scan_none hentry]
    constructor
    · exact fun h => .inl (exists_of_complete hp h)
    · rintro (h | ⟨k, hk, hk', -⟩)
      · cases hc : (settle (standing ⟨i, before, [].head?⟩ (started begins e i threads))).2 with
        | none =>
          obtain ⟨c, hchar, -⟩ := (exists_reading hp hc).mp h
          rw [List.getElem?_eq_none hend] at hchar
          cases hchar
        | some slots => exact Option.isSome_iff_exists.mpr ⟨slots, hc⟩
      · omega
  | cons c rest ih =>
    have hchar : text[i]? = some c := by rw [← List.head?_drop, hrest, List.head?_cons]
    have hp : IsPlace text i ⟨i, before, (c :: rest).head?⟩ := ⟨hbefore, by rw [hchar]; rfl⟩
    have hlt : i < text.length := (List.getElem?_eq_some_iff.mp hchar).1
    rw [exists_from_here hi, ← or_assoc, ← exists_started, scan_none hentry]
    cases hc :
      (settle (standing ⟨i, before, (c :: rest).head?⟩ (started begins e i threads))).2 with
    | none =>
      have hnext : text.drop (i + 1) = rest := by rw [← List.drop_drop, hrest]; rfl
      simp only [hc]
      rw [ih hnext hlt hchar.symm, exists_reading hp hc]
      simp [hchar]
    | some slots =>
      -- a thread has been completed here, and what is found stays found
      have hcomplete := exists_of_complete hp (by rw [hc]; rfl)
      simp only [hc]
      exact iff_of_true (isSome_scan_of_isSome rfl) (.inl hcomplete)

/-- **A search finds a match just if the expression matches somewhere.** -/
theorem isSome_search : (search e text).isSome = true ↔
    ∃ i, i ≤ text.length ∧ ∃ j, e.Spans text i j := by
  have hentry : Enters e (fun _ => true) fun p u => visit p [.run e] .none u := fun _ _ => rfl
  refine (isSome_scan hentry List.drop_zero (Nat.zero_le _) rfl).trans ?_
  simp [completes_run]

/-- **A search at the start finds a match just if the expression matches there.** -/
theorem isSome_searchAtStart : (searchAtStart e text).isSome = true ↔ ∃ j, e.Spans text 0 j := by
  have hentry : Enters e (fun i => i = 0)
      fun p u => if p.index = 0 then visit p [.run e] .none u else u := fun _ _ => by simp
  refine (isSome_scan hentry List.drop_zero (Nat.zero_le _) rfl).trans ?_
  simp only [List.not_mem_nil, false_and, exists_false, false_or, decide_eq_true_eq, completes_run]
  constructor
  · rintro ⟨_, -, -, rfl, h⟩
    exact h
  · exact fun h => ⟨0, Nat.le_refl _, Nat.zero_le _, rfl, h⟩

/-- **A search behind a start anchor is a search at the start.** -/
theorem isSome_search_anchored :
    (search (Expr.append (.look .textStart) e) text).isSome = true ↔ ∃ j, e.Spans text 0 j := by
  rw [isSome_search]
  constructor
  · rintro ⟨i, hi, j, hspans⟩
    exact ⟨j, ((spans_anchored hi).mp hspans).2⟩
  · rintro ⟨j, hspans⟩
    exact ⟨0, Nat.zero_le _, j, (spans_anchored (Nat.zero_le _)).mpr ⟨rfl, hspans⟩⟩

end StreamFinder.Pattern
