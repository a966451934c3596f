import StreamFinder.Pattern.NamedSet
/-!
# Decimal digits

The decimal digits of all scripts are read from a table. A code point is in
the set that a table writes if it is in one of the ranges
(`CodeSet.has_read`), so single characters are looked up in the ranges and
not in the set, which is large.
-/

namespace StreamFinder

open Text

namespace Text.CodeSet

variable {n : Nat}

/-- The ranges that the lines of a table write, the last one first. -/
def tableRanges (lines : List String) : List (Nat × Nat) :=
  let readLine (r : Reading) (line : String) : Reading :=
    (line.toList.foldl Reading.next r).finish
  (lines.foldl readLine ⟨[], [], 0, false⟩).done

/-- Whether a code point is in one of the ranges. -/
def within (n : Nat) (ranges : List (Nat × Nat)) : Bool :=
  ranges.any fun (first, last) => first ≤ n && n ≤ last

/-- **What a table writes** is what is in its ranges. -/
theorem has_read (lines : List String) : (read lines).has n = within n (tableRanges lines) := by
  have hfold (ranges : List (Nat × Nat)) (s : CodeSet) :
      (ranges.foldl (fun s (first, last) => union (range first last) s) s).has n =
        (s.has n || within n ranges) := by
    induction ranges generalizing s with
    | nil => simp [within]
    | cons r ranges ih =>
      have hwithin : within n (r :: ranges) = (r.1 ≤ n && n ≤ r.2 || within n ranges) := rfl
      rw [List.foldl_cons, ih, has_union, has_range, hwithin, Bool.or_comm (_ && _), Bool.or_assoc]
  exact hfold _ empty

/-- The characters of a written text are read off it. -/
theorem toList_eq {s : String} {cs : List Char} (h : s = String.ofList cs) : s.toList = cs := by
  rw [h, String.toList_ofList]

end Text.CodeSet

namespace Pattern

open CodeSet

/-- A code point is a decimal digit if the table says so, and if it had a meaning already. -/
theorem has_decimals (n : Nat) : decimals.has n =
    (CodeSet.all.has n && !Age.latest.has n && Category.decimalNumbers.has n) := by
  change (CodeSet.inter Property.known Category.decimalNumbers).has n = _
  rw [has_inter, Property.known, CodeSet.compl, has_diff]

/-- The ASCII digits are in the table, and so are those of other scripts; a plus sign is not. -/
theorem decimals_looked_up : (∀ k < 10, decimals.has (48 + k) = true) ∧
    decimals.hasChar '٣' = true ∧ decimals.hasChar '+' = false := by
  simp only [hasChar, has_decimals, Age.latest, Category.decimalNumbers, has_read, tableRanges,
    List.foldl_cons, List.foldl_nil]
  repeat rw [toList_eq rfl]
  decide +kernel

/-- **The ASCII digits are decimal digits.** -/
theorem hasChar_decimals_of_isDigit {c : Char} (h : c.isDigit = true) :
    decimals.hasChar c = true := by
  obtain ⟨hlow, hhigh⟩ : 48 ≤ c.toNat ∧ c.toNat ≤ 57 := Char.isDigit_iff_toNat.1 h
  have hc : 48 + (c.toNat - 48) = c.toNat := by omega
  have hdigit := decimals_looked_up.1 (c.toNat - 48) (by omega)
  rwa [hc] at hdigit

end Pattern

end StreamFinder
