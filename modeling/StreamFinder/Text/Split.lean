/-!
# Parts of a text

A text falls into parts at its separators. There is one part more than
there are separators, so parts may be empty and there is always one.
-/

namespace StreamFinder.Text

/-- The parts of a text between separators. -/
def splitAtChars (isSeparator : Char → Bool) : List Char → List (List Char)
  | [] => [[]]
  | c :: rest =>
    let parts := splitAtChars isSeparator rest
    if isSeparator c then [] :: parts
    else
      match parts with
      | [] => [[c]]
      | part :: parts => (c :: part) :: parts

/-- There is one part more than there are separators. -/
theorem length_splitAtChars (isSeparator : Char → Bool) (s : List Char) :
    (splitAtChars isSeparator s).length = s.countP isSeparator + 1 := by
  induction s with
  | nil => rfl
  | cons c rest ih =>
    by_cases h : isSeparator c
    · simp [splitAtChars, h, ih]
    · unfold splitAtChars
      cases hp : splitAtChars isSeparator rest with
      | nil => simp [hp] at ih
      | cons part parts => simp_all

/-- A part has no separators. -/
theorem mem_splitAtChars {sep : Char → Bool} {s part : List Char} {c : Char}
    (hpart : part ∈ splitAtChars sep s) (hc : c ∈ part) : c ∈ s ∧ sep c = false := by
  induction s generalizing part with
  | nil =>
    rw [splitAtChars, List.mem_singleton] at hpart
    exact absurd hc (hpart ▸ List.not_mem_nil)
  | cons d s ih =>
    simp only [splitAtChars] at hpart
    split at hpart
    · rcases List.mem_cons.1 hpart with rfl | hrest
      · cases hc
      · exact ⟨List.mem_cons_of_mem _ (ih hrest hc).1, (ih hrest hc).2⟩
    · next hd =>
      have hfirst : d ∈ d :: s ∧ sep d = false := ⟨List.mem_cons_self, Bool.not_eq_true _ ▸ hd⟩
      have hrest {part : List Char} (hpart : part ∈ splitAtChars sep s) (hc : c ∈ part) :
          c ∈ d :: s ∧ sep c = false :=
        ⟨List.mem_cons_of_mem _ (ih hpart hc).1, (ih hpart hc).2⟩
      split at hpart
      · rw [List.mem_singleton] at hpart
        subst hpart
        rw [List.mem_singleton.1 hc]
        exact hfirst
      · next first parts hparts =>
        rw [hparts] at hrest
        rcases List.mem_cons.1 hpart with rfl | hmem
        · rcases List.mem_cons.1 hc with rfl | hc
          · exact hfirst
          · exact hrest List.mem_cons_self hc
        · exact hrest (List.mem_cons_of_mem _ hmem) hc

end StreamFinder.Text
