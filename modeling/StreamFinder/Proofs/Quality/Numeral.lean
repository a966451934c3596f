import Mathlib.Data.List.Induction
import StreamFinder.Proofs.Quality.Weighing
/-!
# Numerals of one value

Two runs of digits have one value if and only if they differ in leading
zeros. Without them a numeral is the one that is written for its value
(`stripped_toDigits`), so its value tells all of it.
-/

namespace StreamFinder.Quality

open Text

variable {ds es : List Char}

/-- A text without the zeros that it begins with. -/
def stripped (s : List Char) : List Char := s.dropWhile (· = '0')

theorem decimalValue_append_singleton (ds : List Char) (d : Char) :
    decimalValue (ds ++ [d]) = 10 * decimalValue ds + (d.toNat - '0'.toNat) := by
  rw [decimalValue, Nat.ofDigitChars_append, Nat.ofDigitChars_cons, Nat.ofDigitChars_nil]
  rfl

/-- Leading zeros have no value. -/
theorem decimalValue_stripped (ds : List Char) : decimalValue (stripped ds) = decimalValue ds := by
  induction ds with
  | nil => rfl
  | cons d ds ih =>
    by_cases hd : d = '0'
    · subst hd
      exact ih
    · rw [stripped, List.dropWhile_cons_of_neg (by simp [hd])]

/-- What is stripped of a longer text is stripped of its beginning, unless that is all zeros. -/
theorem stripped_append (s t : List Char) :
    stripped (s ++ t) = if (stripped s).isEmpty then stripped t else stripped s ++ t :=
  List.dropWhile_append

theorem digitChar_of_isDigit {d : Char} (h : d.isDigit = true) :
    Nat.digitChar (d.toNat - '0'.toNat) = d := by
  obtain ⟨hlow, hhigh⟩ : 48 ≤ d.toNat ∧ d.toNat ≤ 57 := Char.isDigit_iff_toNat.1 h
  have hdigits : ∀ k < 10, (Nat.digitChar k).toNat = 48 + k := by decide
  have hvalue : (Nat.digitChar (d.toNat - 48)).toNat = 48 + (d.toNat - 48) :=
    hdigits _ (by omega)
  exact Char.toNat_inj.1 (hvalue.trans (by omega))

/-- **Without leading zeros** a run of digits is what is written for its value. -/
theorem stripped_toDigits (h : ∀ d ∈ ds, d.isDigit = true) :
    stripped (Nat.toDigits 10 (decimalValue ds)) = stripped ds := by
  -- the last digit of the value is the last one of the run
  induction ds using List.reverseRecOn with
  | nil => rfl
  | append_singleton ds d ih =>
    simp only [List.mem_append, List.mem_singleton, or_imp, forall_and, forall_eq] at h
    have hlt : d.toNat - '0'.toNat < 10 := by
      obtain ⟨-, hhigh⟩ : 48 ≤ d.toNat ∧ d.toNat ≤ 57 := Char.isDigit_iff_toNat.1 h.2
      have hzero : '0'.toNat = 48 := rfl
      omega
    have hlast : Nat.toDigits 10 (d.toNat - '0'.toNat) = [d] := by
      rw [Nat.toDigits_of_lt_base hlt, digitChar_of_isDigit h.2]
    rw [decimalValue_append_singleton, stripped_append, ← ih h.1]
    obtain hzero | hpos := Nat.eq_zero_or_pos (decimalValue ds)
    · rw [hzero, Nat.mul_zero, Nat.zero_add, hlast]
      rfl
    · rw [← Nat.toDigits_append_toDigits (by decide) hpos hlt, hlast, stripped_append]

/-- **Runs of digits of one value differ in leading zeros only.** -/
theorem decimalValue_eq_iff (hds : ∀ d ∈ ds, d.isDigit = true)
    (hes : ∀ d ∈ es, d.isDigit = true) :
    decimalValue ds = decimalValue es ↔ stripped ds = stripped es := by
  constructor
  · intro h
    rw [← stripped_toDigits hds, ← stripped_toDigits hes, h]
  · intro h
    rw [← decimalValue_stripped ds, ← decimalValue_stripped es, h]

/-! ## Equal weights -/

variable {a b : String} {unit : Char}

theorem stripped_append_unit (hunit : ∃ kind, unitClass? unit = some kind) (ds : List Char) :
    stripped (ds ++ [unit]) = stripped ds ++ [unit] := by
  have hzero : unit ≠ '0' := by
    obtain rfl | rfl := unit_iff.2 hunit <;> decide
  have hstripped : stripped [unit] = [unit] := List.dropWhile_cons_of_neg (by simp [hzero])
  rw [stripped_append, hstripped]
  split
  · next hempty => rw [List.isEmpty_iff.1 hempty, List.nil_append]
  · rfl

theorem rank_inj {kind kind' : WeightClass} (h : kind.rank = kind'.rank) : kind = kind' := by
  cases kind <;> cases kind' <;> first | rfl | cases h

theorem key?_of_isSortable {w : Weight} (h : w.isSortable = true) :
    w.key? = some (w.kind.rank, w.value) := if_pos h

/-- **Names are compared as equal** if they agree but for leading zeros. -/
theorem key?_eq_iff (ha : (weigh a).isSortable = true) (hb : (weigh b).isSortable = true) :
    (weigh a).key? = (weigh b).key? ↔ stripped a.toList = stripped b.toList := by
  obtain ⟨unit, hunit, ds, hname, hnumeral⟩ := tells_of_weigh ha
  obtain ⟨unit', hunit', es, hname', hnumeral'⟩ := tells_of_weigh hb
  have hvalue : (weigh a).value = (weigh b).value ↔ stripped ds = stripped es := by
    rw [← hnumeral.value_eq, ← hnumeral'.value_eq]
    exact decimalValue_eq_iff hnumeral.all_digits hnumeral'.all_digits
  have hkind : (weigh a).kind.rank = (weigh b).kind.rank ↔ unit = unit' := by
    constructor
    · intro h
      rw [rank_inj h] at hunit
      exact unitClass?_inj hunit hunit'
    · rintro rfl
      rw [Option.some.inj (hunit.symm.trans hunit')]
  rw [key?_of_isSortable ha, key?_of_isSortable hb, Option.some.injEq, Prod.mk.injEq, hkind, hvalue,
    hname, hname', stripped_append_unit ⟨_, hunit⟩, stripped_append_unit ⟨_, hunit'⟩,
    List.append_singleton_inj, and_comm]

end StreamFinder.Quality
