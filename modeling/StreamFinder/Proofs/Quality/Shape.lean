import StreamFinder.Proofs.Pattern.Capturing
import StreamFinder.Proofs.Plugin.Anchoring
import StreamFinder.Proofs.Quality.Numeral
import StreamFinder.Proofs.Text.Decimal
/-!
# Weights by the shape of a name

The names with a weight have one of two shapes, which patterns describe: at
least one decimal digit, of any script, and a unit. What the group of a
pattern has matched is then read as a number of 64 bits, which ASCII digits
alone can write; where this fails, the other shape is tried
(`weighByShape`). A name is weighed in this way as it is by its last
character and the digits in front of it (`weighByShape_eq_weigh`).
-/

namespace StreamFinder.Quality

open Pattern Text

/-! ## Shapes -/

/-- The shape of the names of resolutions. -/
def resolutionShape : String := "^(\\d+)p$"

/-- The shape of the names of bitrates. -/
def bitrateShape : String := "^(\\d+)k$"

/-- What the first group of a pattern has matched in a text. -/
def captured? (e : Expr) (text : List Char) : Option (List Char) :=
  (search e text).bind fun slots =>
    (slots.span? 1).map fun (first, last) => (text.drop first).take (last - first)

/-- The number that a text writes, if it fits into 64 bits. A plus sign may stand before it. -/
def unsigned? : List Char → Option Nat
  | '+' :: digits => number? digits
  | digits => number? digits

/-- The number that a name of a shape tells. -/
def capturedNumber? (shape name : String) : Option Nat :=
  (written? shape.toList).bind fun w => (captured? w.expr name.toList).bind unsigned?

/-- The weight of a name by the shape that it has. -/
def weighByShape (name : String) : Weight :=
  match capturedNumber? resolutionShape name with
  | some value => ⟨.resolution, value⟩
  | none =>
    match capturedNumber? bitrateShape name with
    | some value => ⟨.bitrate, value⟩
    | none => .none

/-! ## What the shapes are made of -/

/-- The expression of a shape. -/
def shapeOf (unit : Char) : Expr :=
  .cat (.look .textStart) (.cat (.group 1 (.times (.set decimals) 1 none true))
    (.cat (.set (.single unit.toNat)) (.look .textEnd)))

/-- A character has a length. -/
theorem isTrivial_set (s : CodeSet) : (Expr.set s).isTrivial = false := by
  have hoctets (n : Nat) : Expr.octets n ≠ 0 := by
    unfold Expr.octets
    split <;> [skip; split <;> [skip; split]] <;> decide
  cases h : s.edges.getLast? <;> simp [Expr.isTrivial, Expr.maxLength, h, hoctets]

/-- A set is repeated as it stands, for it matches no empty text. -/
theorem repeated_set (s : CodeSet) :
    Expr.repeated (.set s) 1 none true = .times (.set s) 1 none true := by
  simp [Expr.repeated, isTrivial_set]

theorem written?_resolutionShape :
    (written? resolutionShape.toList).map (·.expr) = some (shapeOf 'p') := by
  rw [shapeOf, ← repeated_set]
  rfl

theorem written?_bitrateShape :
    (written? bitrateShape.toList).map (·.expr) = some (shapeOf 'k') := by
  rw [shapeOf, ← repeated_set]
  rfl

/-! ## What the shapes capture -/

variable {text digits : List Char} {unit : Char} {i : Nat} {slots final : Slots}

theorem hasChar_single {c : Char} : (CodeSet.single unit.toNat).hasChar c = true ↔ c = unit := by
  have hinside : (CodeSet.single unit.toNat).hasChar c = true ↔ c.toNat = unit.toNat := by
    simp only [CodeSet.hasChar, CodeSet.has, CodeSet.single, CodeSet.insideAt]
    grind
  exact hinside.trans Char.toNat_inj

/-- So many characters with a property and then a last one, place by place. -/
theorem eq_append_unit_iff {P : Char → Prop} {n : Nat} :
    (∀ k < n, ∃ c, text[k]? = some c ∧ P c) ∧ text[n]? = some unit ∧ text[n + 1]? = none ↔
      ∃ digits, text = digits ++ [unit] ∧ digits.length = n ∧ ∀ c ∈ digits, P c := by
  constructor
  · rintro ⟨hall, hunit, hend⟩
    obtain ⟨hn, hget⟩ := List.getElem?_eq_some_iff.1 hunit
    refine ⟨text.take n, ?_, List.length_take_of_le (Nat.le_of_lt hn), fun c hc => ?_⟩
    · have hdrop : text.drop n = [unit] := by
        rw [List.drop_eq_getElem_cons hn, hget,
          List.drop_eq_nil_of_le (List.getElem?_eq_none_iff.1 hend)]
      rw [← hdrop, List.take_append_drop]
    · obtain ⟨k, hk⟩ := List.mem_iff_getElem?.1 hc
      rw [List.getElem?_take, Option.ite_none_right_eq_some] at hk
      obtain ⟨c', hc', hP⟩ := hall k hk.1
      rwa [Option.some.inj (hk.2.symm.trans hc')]
  · rintro ⟨digits, rfl, rfl, hall⟩
    refine ⟨fun k hk => ⟨digits[k], ?_, hall _ (List.getElem_mem hk)⟩, ?_, ?_⟩
    · rw [List.getElem?_append_left hk, List.getElem?_eq_getElem hk]
    · simp
    · simp

/-- **A shape is run in one way only**: its group takes all digits in front of the unit. -/
theorem runs_shapeOf : Runs text [.run (shapeOf unit)] i slots final ↔
    i = 0 ∧ ∃ digits, text = digits ++ [unit] ∧ digits ≠ [] ∧
      (∀ c ∈ digits, decimals.hasChar c = true) ∧
      final = (slots.opening 1 0).shutting 1 digits.length := by
  simp only [shapeOf, runs_cat, runs_look, runs_group, runs_times_succ, runs_set, runs_again_set,
    runs_shut, runs_nil, Boundary.holds, hasChar_single, Option.isNone_iff_eq_none]
  -- the first digit is read before the repetition, which counts from the next place
  have hplace (k : Nat) : 0 + 1 + k = k + 1 := by omega
  constructor
  · rintro ⟨hstart, c, hc, hdecimal, n, hall, _, hunit, rfl, hend, hfinal⟩
    obtain rfl : i = 0 :=
      (before?_eq_none_iff (Nat.le_of_lt (List.getElem?_eq_some_iff.1 hc).1)).1 hstart
    simp only [hplace] at hall hunit hend hfinal
    have hdigits : ∀ k < n + 1, ∃ c, text[k]? = some c ∧ decimals.hasChar c = true := by
      intro k hk
      cases k with
      | zero => exact ⟨c, hc, hdecimal⟩
      | succ k => exact hall k (Nat.lt_of_succ_lt_succ hk)
    obtain ⟨digits, htext, hlength, hall⟩ := eq_append_unit_iff.1 ⟨hdigits, hunit, hend⟩
    exact ⟨rfl, digits, htext, List.ne_nil_of_length_eq_add_one hlength, hall, hlength ▸ hfinal⟩
  · rintro ⟨rfl, digits, htext, hne, hall, rfl⟩
    obtain ⟨n, hlength⟩ := Nat.exists_eq_add_one.2 (List.length_pos_iff.2 hne)
    obtain ⟨hdigits, hunit, hend⟩ := eq_append_unit_iff.2 ⟨digits, htext, hlength, hall⟩
    obtain ⟨c, hc, hdecimal⟩ := hdigits 0 (Nat.zero_lt_succ n)
    simp only [hplace]
    exact ⟨rfl, c, hc, hdecimal, n, fun k hk => hdigits (k + 1) (Nat.succ_lt_succ hk), unit, hunit,
      rfl, hend, by rw [hlength]⟩

/-- **What a shape captures** are the digits of a text that has it, whatever their script. -/
theorem captured?_shapeOf_eq_some_iff : captured? (shapeOf unit) text = some digits ↔
    text = digits ++ [unit] ∧ digits ≠ [] ∧ ∀ c ∈ digits, decimals.hasChar c = true := by
  have hspan (n : Nat) : ((Slots.none.opening 1 0).shutting 1 n).span? 1 = some (0, n) := by
    simp [Slots.span?, Slots.opening, Slots.shutting, Slots.note, Slots.none]
  constructor
  · intro h
    obtain ⟨final, hsearch, hspanned⟩ := Option.bind_eq_some_iff.1 h
    obtain ⟨i, -, hruns⟩ := exists_runs_of_search hsearch
    obtain ⟨-, digits', htext, hne, hall, rfl⟩ := runs_shapeOf.1 hruns
    rw [hspan, Option.map_some, Option.some.injEq, htext] at hspanned
    obtain rfl : digits' = digits := by simpa using hspanned
    exact ⟨htext, hne, hall⟩
  · rintro ⟨htext, hne, hall⟩
    have hruns : Runs text [.run (shapeOf unit)] 0 .none _ :=
      runs_shapeOf.2 ⟨rfl, digits, htext, hne, hall, rfl⟩
    obtain ⟨final, hsearch⟩ := Option.isSome_iff_exists.1
      (isSome_search_of_runs (Nat.zero_le _) hruns)
    -- the search answers the outcome of some run, and there is only this one
    obtain ⟨i, -, hruns⟩ := exists_runs_of_search hsearch
    obtain ⟨-, digits', htext', -, -, rfl⟩ := runs_shapeOf.1 hruns
    rw [captured?, hsearch, Option.bind_some, hspan, Option.map_some, htext']
    obtain rfl : digits' = digits := List.append_cancel_right (htext'.symm.trans htext)
    simp

/-! ## What the shapes tell -/

/-- No decimal digit is a plus sign, so digits are read as they are. -/
theorem unsigned?_of_decimals (h : ∀ c ∈ digits, decimals.hasChar c = true) :
    unsigned? digits = number? digits := by
  unfold unsigned?
  split
  · have hplus := h '+' List.mem_cons_self
    rw [decimals_looked_up.2.2] at hplus
    cases hplus
  · rfl

/-- **A shape tells what the name tells**: of all digits, those of ASCII write a number. -/
theorem capturedNumber?_eq_some_iff {shape name : String} {value : Nat}
    (hshape : (written? shape.toList).map (·.expr) = some (shapeOf unit)) :
    capturedNumber? shape name = some value ↔ Tells name unit value := by
  obtain ⟨w, hw, hexpr⟩ := Option.map_eq_some_iff.1 hshape
  rw [capturedNumber?, hw, Option.bind_some, hexpr, Option.bind_eq_some_iff]
  constructor
  · rintro ⟨digits, hcaptured, hnumber⟩
    obtain ⟨hname, -, hall⟩ := captured?_shapeOf_eq_some_iff.1 hcaptured
    rw [unsigned?_of_decimals hall] at hnumber
    exact ⟨digits, hname, number?_eq_some_iff.1 hnumber⟩
  · rintro ⟨digits, hname, hnumeral⟩
    have hall : ∀ c ∈ digits, decimals.hasChar c = true := fun c hc =>
      hasChar_decimals_of_isDigit (hnumeral.all_digits c hc)
    refine ⟨digits, captured?_shapeOf_eq_some_iff.2 ⟨hname, hnumeral.ne_nil, hall⟩, ?_⟩
    rw [unsigned?_of_decimals hall]
    exact number?_eq_some_iff.2 hnumeral

/-- What no shape tells weighs nothing. -/
theorem weigh_eq_none_iff {name : String} : weigh name = .none ↔
    ∀ value, ¬ Tells name 'p' value ∧ ¬ Tells name 'k' value := by
  constructor
  · intro h value
    constructor <;> intro htells
    · exact absurd (h.symm.trans (weigh_eq_of_tells rfl htells)) (by simp [Weight.none])
    · exact absurd (h.symm.trans (weigh_eq_of_tells rfl htells)) (by simp [Weight.none])
  · intro h
    refine weigh_eq_none_of_not_isSortable (Bool.eq_false_iff.2 fun hsortable => ?_)
    obtain ⟨unit, kind, value, hunit, htells⟩ := isSortable_weigh_iff.1 hsortable
    obtain rfl | rfl := unit_iff.2 ⟨kind, hunit⟩
    · exact (h value).1 htells
    · exact (h value).2 htells

/-- **A name is weighed by its shape** as it is by its last character and what stands before. -/
theorem weighByShape_eq_weigh (name : String) : weighByShape name = weigh name := by
  have hresolution (value : Nat) : capturedNumber? resolutionShape name = some value ↔
      Tells name 'p' value := capturedNumber?_eq_some_iff written?_resolutionShape
  have hbitrate (value : Nat) : capturedNumber? bitrateShape name = some value ↔
      Tells name 'k' value := capturedNumber?_eq_some_iff written?_bitrateShape
  unfold weighByShape
  split
  · next value hvalue => exact (weigh_eq_of_tells rfl ((hresolution value).1 hvalue)).symm
  · next hnot =>
    split
    · next value hvalue => exact (weigh_eq_of_tells rfl ((hbitrate value).1 hvalue)).symm
    · next hnot' =>
      refine (weigh_eq_none_iff.2 fun value => ⟨fun htells => ?_, fun htells => ?_⟩).symm
      · rw [(hresolution value).2 htells] at hnot
        cases hnot
      · rw [(hbitrate value).2 htells] at hnot'
        cases hnot'

/-- Any resolution outranks any bitrate. -/
theorem exists_keys {a b : String} (ha : (weigh a).kind = .resolution)
    (hb : (weigh b).kind = .bitrate) : ∃ k k', (weigh a).key? = some k ∧
      (weigh b).key? = some k' ∧ Prod.Lex (· < ·) (· < ·) k' k := by
  refine ⟨_, _, key?_of_isSortable (by simp [Weight.isSortable, ha]),
    key?_of_isSortable (by simp [Weight.isSortable, hb]), .left _ _ ?_⟩
  rw [ha, hb]
  decide

/-- **A name weighs what its shape tells.** It has the weight of a resolution if it is a run of
ASCII digits and the letter `p`, that of a bitrate if the letter is `k`, and none if it is neither
or if the value exceeds 64 bits; and this is what the patterns and the number behind them make of
it. So two names are compared as equal if they agree but for leading zeros, and any resolution
exceeds any bitrate. -/
theorem name_weighs_what_its_shape_tells :
    (∀ name value, (weigh name = ⟨.resolution, value⟩ ↔ Tells name 'p' value) ∧
      (weigh name = ⟨.bitrate, value⟩ ↔ Tells name 'k' value)) ∧
    (∀ name, weigh name = .none ↔ ∀ value, ¬ Tells name 'p' value ∧ ¬ Tells name 'k' value) ∧
    (∀ name, weighByShape name = weigh name) ∧
    (∀ a b, (weigh a).isSortable = true → (weigh b).isSortable = true →
      ((weigh a).key? = (weigh b).key? ↔ stripped a.toList = stripped b.toList)) ∧
    ∀ a b, (weigh a).kind = .resolution → (weigh b).kind = .bitrate →
      ∃ k k', (weigh a).key? = some k ∧ (weigh b).key? = some k' ∧
        Prod.Lex (· < ·) (· < ·) k' k :=
  ⟨fun _ _ => ⟨weigh_eq_iff_tells rfl, weigh_eq_iff_tells rfl⟩, fun _ => weigh_eq_none_iff,
    weighByShape_eq_weigh, fun _ _ => key?_eq_iff, fun _ _ => exists_keys⟩

/-- Leading zeros make no difference, and one line outranks the greatest bitrate. A digit of
another script has the shape of a resolution, but writes no number; nor does a value of 65 bits
have a weight, or a capital unit. -/
theorem foreign_digit_weighs_nothing :
    (weigh "0720p").key? = (weigh "720p").key? ∧
    (∃ k k', (weigh "1p").key? = some k ∧ (weigh "18446744073709551615k").key? = some k' ∧
      Prod.Lex (· < ·) (· < ·) k' k) ∧
    (captured? (shapeOf 'p') "٣p".toList = some ['٣'] ∧ weighByShape "٣p" = .none) ∧
    weighByShape "18446744073709551616p" = .none ∧ weighByShape "720P" = .none := by
  obtain ⟨-, -, hshape, hequal, hrank⟩ := name_weighs_what_its_shape_tells
  refine ⟨(hequal _ _ (by decide) (by decide)).2 (by decide), hrank _ _ (by decide) (by decide),
    ⟨captured?_shapeOf_eq_some_iff.2 ⟨rfl, by decide, ?_⟩, ?_⟩, ?_, ?_⟩
  · simpa using decimals_looked_up.2.1
  · rw [hshape]
    decide
  · rw [hshape]
    decide
  · rw [hshape]
    decide

end StreamFinder.Quality
