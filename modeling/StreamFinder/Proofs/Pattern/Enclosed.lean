import StreamFinder.Proofs.Pattern.Token

/-!
# Reading inside a group that is closed behind the text

A text that is put into a group is read as it is by itself, as long as it
closes no group but its own: what encloses the group is not looked at, and
the parenthesis behind the text is read last. So the group closes where the
text ends, unless a comment at its end hides the parenthesis; then the
group stays open.
-/

namespace StreamFinder.Pattern

open Text

namespace Reading

variable {r r₁ : Reading} {g : Opened} {c : Char} {s t t' : List Char} {n k m : Nat}

/-- A reading inside one more group, which encloses all that is open. -/
def enclosed (r : Reading) (g : Opened) : Reading := { r with opened := r.opened ++ [g] }

/-- What a reader has read, inside one more group. -/
def enclosedRest (g : Opened) (x : Reading × List Char) : Reading × List Char :=
  (x.1.enclosed g, x.2)

/-! ## One token -/

theorem ite_enclosed {p : Prop} [Decidable p] {x y x' y' : Option (Reading × List Char)}
    (h : p → x' = x.map (enclosedRest g)) (h' : ¬p → y' = y.map (enclosedRest g)) :
    (if p then x' else y') = (if p then x else y).map (enclosedRest g) := by
  split
  · next hp => exact h hp
  · next hp => exact h' hp

theorem closeGroup?_enclosed (h : r.opened ≠ []) :
    (r.enclosed g).closeGroup? = r.closeGroup?.map (·.enclosed g) := by
  obtain ⟨elements, branches, opened, flags, groups, names⟩ := r
  match opened, h with
  | _ :: _, _ => rfl

theorem openNamed?_enclosed :
    (r.enclosed g).openNamed? s = (r.openNamed? s).map (enclosedRest g) := by
  unfold openNamed?
  split
  · exact ite_enclosed (fun _ => rfl) fun _ => rfl
  · rfl

theorem changeFlags_enclosed (x : List Char × Flags.Ending × List Char) :
    changeFlags (r.enclosed g) x = (changeFlags r x).map (enclosedRest g) := by
  obtain ⟨letters, ending, rest⟩ := x
  have hflags : (r.enclosed g).flags = r.flags := rfl
  unfold changeFlags
  rw [hflags]
  cases Flags.change true letters r.flags with
  | none => rfl
  | some flags =>
    cases ending with
    | group => rfl
    | rest => exact ite_enclosed (fun _ => rfl) fun _ => rfl

theorem openParenthesis?_enclosed :
    (r.enclosed g).openParenthesis? s = (r.openParenthesis? s).map (enclosedRest g) := by
  have hflags : (r.enclosed g).flags = r.flags := rfl
  rw [openParenthesis?_eq, openParenthesis?_eq, hflags]
  obtain ⟨mark, text⟩ := groupMark (skip r.flags.verbose s)
  cases mark with
  | look => rfl
  | named => exact openNamed?_enclosed
  | flags =>
    simp only
    cases Flags.readLetters [] text with
    | none => rfl
    | some x => exact changeFlags_enclosed x
  | plain => rfl

theorem repeatLast?_enclosed (min : Nat) (max : Option Nat) :
    (r.enclosed g).repeatLast? min max s = (r.repeatLast? min max s).map (enclosedRest g) := by
  rw [repeatLast?_eq, repeatLast?_eq]
  obtain ⟨elements, branches, opened, flags, groups, names⟩ := r
  match elements with
  | .item _ :: _ => rfl
  | [] | .flags :: _ => rfl

theorem pushEscape_enclosed (x : Escape × List Char) :
    pushEscape (r.enclosed g) x = (pushEscape r x).map (enclosedRest g) := by
  have hflags : (r.enclosed g).flags = r.flags := rfl
  obtain ⟨_ | _ | _, rest⟩ := x
  · simp only [pushEscape, hflags, Option.map_map]
    rfl
  · rfl
  · rfl

/-- **A token is read the same inside a group,** unless it closes the group. -/
theorem token?_enclosed (h : ¬(c = ')' ∧ r.opened = [])) :
    (r.enclosed g).token? c s = (r.token? c s).map (enclosedRest g) := by
  have hmap (x : Option CodeSet) : x.map (fun set => ((r.enclosed g).pushSet set, s)) =
      (x.map fun set => (r.pushSet set, s)).map (enclosedRest g) := by
    cases x <;> rfl
  have hflags : (r.enclosed g).flags = r.flags := rfl
  by_cases hescape : c = '\\'
  · subst hescape
    rw [token?_backslash, token?_backslash, hflags]
    cases readEscape r.flags s with
    | none => rfl
    | some x => exact pushEscape_enclosed x
  unfold token?
  refine ite_enclosed (fun _ => openParenthesis?_enclosed) fun _ => ?_
  refine ite_enclosed (fun hc => ?_) fun _ => ite_enclosed (fun _ => rfl) fun _ => ?_
  · rw [closeGroup?_enclosed fun hopened => h ⟨hc, hopened⟩]
    cases r.closeGroup? <;> rfl
  refine ite_enclosed (fun _ => ?_) fun _ => ?_
  · rw [hflags]
    cases readBracketed r.flags s <;> rfl
  refine ite_enclosed (fun _ => repeatLast?_enclosed _ _) fun _ => ?_
  refine ite_enclosed (fun _ => repeatLast?_enclosed _ _) fun _ => ?_
  refine ite_enclosed (fun _ => repeatLast?_enclosed _ _) fun _ => ?_
  refine ite_enclosed (fun _ => ?_) fun _ => ?_
  · rw [hflags]
    cases readBounds r.flags.verbose s with
    | none => rfl
    | some x => exact repeatLast?_enclosed _ _
  refine ite_enclosed (fun _ => hmap (dot? r.flags)) fun _ => ?_
  refine ite_enclosed (fun _ => rfl) fun _ => ite_enclosed (fun _ => rfl) fun _ => ?_
  refine ite_enclosed (fun hc => absurd hc hescape) fun _ => ?_
  exact hmap (literalSet? r.flags c false)

/-! ## A whole text -/

/-- Whether a text closes a group that it has not opened, as far as it can be read. -/
def closesTooMuch : Nat → Reading → List Char → Bool
  | 0, _, _ => false
  | fuel + 1, r, text =>
    match skip r.flags.verbose text with
    | [] => false
    | c :: rest =>
      (c = ')' && r.opened.isEmpty) ||
        (r.token? c rest).any fun (r, rest) => closesTooMuch fuel r rest

theorem run_of_skip_nil (h : skip r.flags.verbose t = []) : run n r t = some r := by
  cases n <;> simp [run, h]

theorem run_of_skip_cons (h : skip r.flags.verbose t = c :: s) (hn : t.length ≤ n) :
    run n r t = (r.token? c s).bind fun (r, rest) => run (n - 1) r rest := by
  have hlength := length_skip_le r.flags.verbose t
  rw [h, List.length_cons] at hlength
  obtain ⟨n, rfl⟩ : ∃ m, n = m + 1 := ⟨n - 1, by omega⟩
  rw [run, h]
  rfl

/-- What can be read by itself closes no group that it has not opened. -/
theorem closesTooMuch_of_run (h : run n r t = some r₁) : closesTooMuch n r t = false := by
  induction n generalizing r t with
  | zero => rfl
  | succ n ih =>
    rw [run] at h
    rw [closesTooMuch]
    cases hu : skip r.flags.verbose t with
    | nil => rfl
    | cons c s =>
      simp only [hu] at h
      obtain ⟨⟨r', rest⟩, htoken, hrun⟩ := Option.bind_eq_some_iff.mp h
      have hclose : c = ')' → ¬r.opened = [] := by
        rintro rfl hopened
        have hnone : r.token? ')' s = none := by
          have heq : r.token? ')' s = r.closeGroup?.map (·, s) := rfl
          simp [heq, closeGroup?, hopened]
        rw [hnone] at htoken
        cases htoken
      simpa [htoken, ih hrun] using hclose

/-- How a text that can be read by itself ends inside a group that is closed
behind it: the group is closed, or it is still open. -/
inductive Ends (r₁ : Reading) (g : Opened) (inside beside : Option Reading) : Prop where
  | closed (h : inside = (r₁.enclosed g).closeGroup?) (h' : beside = r₁.closeGroup?)
  | hidden (h : inside = some (r₁.enclosed g)) (h' : beside = some r₁)

/-- At the end of the text there is the parenthesis, or nothing. -/
theorem ends_of_skip_nil (hskip : Followed (skip r.flags.verbose t) (skip r.flags.verbose t'))
    (h : skip r.flags.verbose t = []) (hk : t'.length ≤ k) (hm : t'.length ≤ m) :
    Ends r g (run k (r.enclosed g) t') (run m r t') := by
  rw [h] at hskip
  obtain h' | h' := hskip.of_nil
  · have hclose (r' : Reading) (hflags : r'.flags = r.flags) {i : Nat} (hi : t'.length ≤ i) :
        run i r' t' = r'.closeGroup? := by
      have htoken : r'.token? ')' [] = r'.closeGroup?.map (·, []) := rfl
      rw [run_of_skip_cons (by rw [hflags]; exact h') hi, htoken]
      cases r'.closeGroup? with
      | none => rfl
      | some r'' => exact run_of_skip_nil (skip_nil _)
    exact .closed (hclose (r.enclosed g) rfl hk) (hclose r rfl hm)
  · exact .hidden (run_of_skip_nil h') (run_of_skip_nil h')

/-- What only the parenthesis makes readable leaves the group open. -/
theorem opened_ne_nil_of_tokenLate (hlate : TokenLate (r, s))
    (h : run n (r.enclosed g) s = some r₁) : r₁.opened ≠ [] := by
  obtain hspent | ⟨inner, hbrace, hinner⟩ := hlate
  · obtain rfl : s = [] := hspent
    rw [run_of_skip_nil (skip_nil _)] at h
    cases h
    simp [enclosed]
  · obtain rfl : s = '\x7b' :: inner := hbrace
    have hskip : skip (r.enclosed g).flags.verbose ('\x7b' :: inner) = '\x7b' :: inner := by
      cases (r.enclosed g).flags.verbose <;> rfl
    have htoken : (r.enclosed g).token? '\x7b' inner = none := by
      have hbounds : readBounds (r.enclosed g).flags.verbose inner = none :=
        readBounds_parenthesis hinner
      rw [token?_brace, hbounds]
      rfl
    cases n with
    | zero => simp [run, hskip] at h
    | succ n => simp [run, hskip, htoken] at h

/-- **A text that closes no group but its own is read the same inside a
group that is closed behind it.** The group is closed where the text ends,
or a comment hides that; what cannot be read by itself leaves it open. -/
theorem run_enclosed (h : Followed t t') (hn : t.length ≤ n) (hk : t'.length ≤ k)
    (hm : t'.length ≤ m) (hfew : closesTooMuch n r t = false) :
    (∀ r₁, run n r t = some r₁ → Ends r₁ g (run k (r.enclosed g) t') (run m r t')) ∧
      (run n r t = none → ∀ r₁, run k (r.enclosed g) t' = some r₁ → r₁.opened ≠ []) := by
  -- on the tokens: each is read on both sides, the rests differ in the parenthesis again
  induction n generalizing k m r t t' with
  | zero =>
    obtain rfl : t = [] := List.length_eq_zero_iff.mp (Nat.le_zero.mp hn)
    have hend := run_of_skip_nil (n := 0) (skip_nil r.flags.verbose)
    rw [hend]
    constructor
    · rintro _ ⟨⟩
      exact ends_of_skip_nil (h.skip _) (skip_nil _) hk hm
    · rintro ⟨⟩
  | succ n ih =>
    have hskip := h.skip r.flags.verbose
    have hlength := length_skip_le r.flags.verbose t
    have hlength' := length_skip_le r.flags.verbose t'
    cases hu : skip r.flags.verbose t with
    | nil =>
      rw [run_of_skip_nil hu]
      constructor
      · rintro _ ⟨⟩
        exact ends_of_skip_nil hskip hu hk hm
      · rintro ⟨⟩
    | cons c s =>
      rw [hu] at hskip hlength
      have hu' := hskip.of_cons
      rw [hu'] at hlength'
      simp only [List.length_cons, List.length_append, List.length_nil] at hlength hlength'
      simp only [closesTooMuch, hu, Bool.or_eq_false_iff] at hfew
      obtain ⟨hclose, hfew⟩ := hfew
      have hinside : run k (r.enclosed g) t' =
          ((r.enclosed g).token? c (s ++ [')'])).bind fun (r, rest) => run (k - 1) r rest :=
        run_of_skip_cons hu' hk
      rw [run_of_skip_cons hu hn, run_of_skip_cons hu' hm, hinside,
        token?_enclosed (by simpa using hclose)]
      obtain ⟨hx, hx'⟩ | ⟨hx, ⟨r₁, rest'⟩, hx', hlate⟩ |
        ⟨⟨r₁, rest⟩, ⟨r₁', rest'⟩, hx, hx', rfl, hrest, hshort⟩ :=
          (agree_token? (r := r) c (Nat.le_refl s.length)).cases
      · rw [hx, hx']
        exact ⟨fun _ h => (by cases h), fun _ _ h => (by cases h)⟩
      · -- a token that only the parenthesis completes
        rw [hx, hx']
        exact ⟨fun _ h => (by cases h), fun _ _ h => opened_ne_nil_of_tokenLate hlate h⟩
      · rw [hx] at hfew
        rw [hx, hx']
        have hlength'' := hrest.length_le
        simp only at hshort hlength''
        exact ih hrest (by omega) (by simp only; omega) (by simp only; omega) hfew

end Reading

end StreamFinder.Pattern
