import StreamFinder.Quality.Weight
/-!
# Which names tell a quality

Weighing reads a name from its end: the last character must be a unit, and
what stands before it a number. Said the other way round, a name tells a
quality if it is a numeral with a unit behind it (`Tells`), and weighing
finds the class of the unit and the value of the numeral
(`weigh_eq_iff_tells`). All other names weigh nothing
(`isSortable_weigh_iff`).
-/

namespace StreamFinder.Quality

open Text

variable {digits : List Char} {value : Nat} {name : String} {unit : Char} {kind : WeightClass}

/-- A numeral: a non-empty run of ASCII digits whose value fits into 64 bits. -/
structure IsNumeral (digits : List Char) (value : Nat) : Prop where
  ne_nil : digits ≠ []
  all_digits : ∀ c ∈ digits, c.isDigit = true
  value_eq : decimalValue digits = value
  fits : value < Nat.pow 2 64

theorem number?_eq_some_iff : number? digits = some value ↔ IsNumeral digits value := by
  unfold number?
  rw [Option.ite_none_right_eq_some, Option.some.injEq, List.all_eq_true]
  constructor
  · rintro ⟨⟨hne, hall, hfits⟩, rfl⟩
    exact ⟨hne, hall, rfl, hfits⟩
  · rintro ⟨hne, hall, rfl, hfits⟩
    exact ⟨⟨hne, hall, hfits⟩, rfl⟩

/-- The name is a numeral of this value with this unit behind it. -/
def Tells (name : String) (unit : Char) (value : Nat) : Prop :=
  ∃ digits, name.toList = digits ++ [unit] ∧ IsNumeral digits value

/-- **A weight is read off a numeral and its unit.** -/
theorem weigh_eq_of_tells (hunit : unitClass? unit = some kind) (h : Tells name unit value) :
    weigh name = ⟨kind, value⟩ := by
  obtain ⟨digits, hname, hnumeral⟩ := h
  have hreverse : name.toList.reverse = unit :: digits.reverse := by simp [hname]
  simp only [weigh, hreverse, hunit, List.reverse_reverse, number?_eq_some_iff.2 hnumeral]

/-- **Only a numeral with a unit has a weight.** -/
theorem tells_of_weigh (h : (weigh name).isSortable = true) : ∃ unit,
    unitClass? unit = some (weigh name).kind ∧ Tells name unit (weigh name).value := by
  unfold weigh at h ⊢
  split at h
  · cases h
  · next unit rest hreverse =>
    have hname : name.toList = rest.reverse ++ [unit] := by
      rw [← List.reverse_cons, ← hreverse, List.reverse_reverse]
    split at h
    · next kind value hunit hnumber =>
      exact ⟨unit, hunit, rest.reverse, hname, number?_eq_some_iff.1 hnumber⟩
    · cases h

theorem isSortable_of_unitClass? (h : unitClass? unit = some kind) (value : Nat) :
    (⟨kind, value⟩ : Weight).isSortable = true := by
  unfold unitClass? at h
  split at h
  · cases h; rfl
  · split at h
    · cases h; rfl
    · cases h

theorem unit_iff {unit : Char} : (unit = 'p' ∨ unit = 'k') ↔
    ∃ kind, unitClass? unit = some kind := by
  unfold unitClass?
  split <;> simp [*]

/-- Each class of weights has one unit. -/
theorem unitClass?_inj {unit' : Char} (h : unitClass? unit = some kind)
    (h' : unitClass? unit' = some kind) : unit = unit' := by
  unfold unitClass? at h h'
  grind

theorem weigh_eq_iff_tells (hunit : unitClass? unit = some kind) :
    weigh name = ⟨kind, value⟩ ↔ Tells name unit value := by
  refine ⟨fun h => ?_, weigh_eq_of_tells hunit⟩
  obtain ⟨unit', hunit', htells⟩ := tells_of_weigh (h ▸ isSortable_of_unitClass? hunit value)
  rw [h] at hunit' htells
  exact unitClass?_inj hunit hunit' ▸ htells

theorem weigh_eq_none_of_not_isSortable (h : (weigh name).isSortable = false) :
    weigh name = .none := by
  unfold weigh at h ⊢
  split at h
  · rfl
  · next unit rest _ =>
    split at h
    · next kind value hunit hnumber => exact absurd h (by simp [isSortable_of_unitClass? hunit])
    · rfl

theorem isSortable_weigh_iff : (weigh name).isSortable = true ↔
    ∃ unit kind value, unitClass? unit = some kind ∧ Tells name unit value := by
  constructor
  · intro h
    obtain ⟨unit, hunit, htells⟩ := tells_of_weigh h
    exact ⟨unit, _, _, hunit, htells⟩
  · rintro ⟨unit, kind, value, hunit, htells⟩
    rw [weigh_eq_of_tells hunit htells]
    exact isSortable_of_unitClass? hunit value

end StreamFinder.Quality
