import Mathlib.Data.List.TakeWhile
import StreamFinder.Proofs.Quality.Weighing
import StreamFinder.Quality.Exclusion
/-!
# The language of filters

An expression is a word or a comparison, with white space around it. The
two are told apart by their first character, so no expression is both; an
operator of two characters is read before one of a single character, and
since `=` is no name character the shorter reading could not succeed where
the longer one fails (`read_token_append`). A comparison must be made with
a weight, and so it excludes the names of the unit it is written in whose
value stands in the relation. Everything else is refused, with the
expression as it was given (`filters_exclude_as_written`).
-/

namespace StreamFinder.Quality

open Text

variable {expression name : String} {w operand : List Char} {op : Comparison} {unit : Char}
variable {bound : Nat} {c : Char}

/-! ## Expressions -/

/-- The expression is this text with white space before and behind it. -/
def IsPadded (expression : String) (w : List Char) : Prop :=
  ∃ left right, expression.toList = left ++ w ++ right ∧
    (∀ c ∈ left, isBlank c = true) ∧ ∀ c ∈ right, isBlank c = true

/-- A word: a non-empty run of letters, digits, underscores and plus signs of ASCII. -/
def IsWord (w : List Char) : Prop :=
  w ≠ [] ∧ ∀ c ∈ w, c.isAlphanum = true ∨ c = '_' ∨ c = '+'

/-- How a comparison relates a value to its bound. -/
def Comparison.Relates : Comparison → Nat → Nat → Prop
  | .lt, value, bound => value < bound
  | .le, value, bound => value ≤ bound
  | .gt, value, bound => value > bound
  | .ge, value, bound => value ≥ bound
  | .eq, value, bound => value = bound

/-- A comparison: an operator, a numeral and a unit. -/
def IsComparison (w : List Char) (op : Comparison) (unit : Char) (bound : Nat) : Prop :=
  (unit = 'p' ∨ unit = 'k') ∧
    ∃ digits, w = op.token.toList ++ digits ++ [unit] ∧ IsNumeral digits bound

theorem Comparison.holds_iff {value : Nat} :
    op.holds value bound = true ↔ op.Relates value bound := by
  cases op <;> simp [holds, Relates]

theorem isNameChar_iff : isNameChar c = true ↔ c.isAlphanum = true ∨ c = '_' ∨ c = '+' := by
  simp [isNameChar, or_assoc]

theorem isName_iff : isName w = true ↔ IsWord w := by
  simp [isName, IsWord, isNameChar_iff]

/-! ## White space -/

/-- White space has no part in words and comparisons. -/
theorem isBlank_eq_false_of_lt (h₁ : 0x20 < c.toNat) (h₂ : c.toNat < 0x7f) : isBlank c = false := by
  simp only [isBlank, Bool.or_eq_false_iff, Bool.and_eq_false_iff, decide_eq_false_iff_not]
  omega

theorem isBlank_of_isNameChar (h : isNameChar c = true) : isBlank c = false := by
  have hrange : 0x20 < c.toNat ∧ c.toNat < 0x7f := by
    have halpha : c.isAlpha = (decide (c.val ≥ 'A'.val ∧ c.val ≤ 'Z'.val) || c.isLower) := rfl
    have hlower : c.isLower = (decide (c.val ≥ 'a'.val) && decide (c.val ≤ 'z'.val)) := rfl
    simp only [isNameChar, Char.isAlphanum, halpha, hlower, Char.isDigit, Bool.or_eq_true,
      Bool.and_eq_true, decide_eq_true_eq, ge_iff_le, UInt32.le_iff_toNat_le] at h
    rcases h with (((⟨h, h'⟩ | ⟨h, h'⟩) | ⟨h, h'⟩) | rfl) | rfl
    · exact ⟨Nat.lt_of_lt_of_le (by decide) h, Nat.lt_of_le_of_lt h' (by decide)⟩
    · exact ⟨Nat.lt_of_lt_of_le (by decide) h, Nat.lt_of_le_of_lt h' (by decide)⟩
    · exact ⟨Nat.lt_of_lt_of_le (by decide) h, Nat.lt_of_le_of_lt h' (by decide)⟩
    · decide
    · decide
  exact isBlank_eq_false_of_lt hrange.1 hrange.2

/-- Trimming takes away blanks. -/
theorem isPadded_trim (expression : String) : IsPadded expression (trim expression.toList) := by
  generalize hrest : expression.toList.dropWhile isBlank = rest
  refine ⟨expression.toList.takeWhile isBlank, (rest.reverse.takeWhile isBlank).reverse, ?_,
    fun c hc => List.all_eq_true.1 List.all_takeWhile c hc,
    fun c hc => List.all_eq_true.1 List.all_takeWhile c (List.mem_reverse.1 hc)⟩
  have hsplit := List.takeWhile_append_dropWhile (p := isBlank) (l := rest.reverse)
  rw [trim, hrest, List.append_assoc, ← List.reverse_append, hsplit, List.reverse_reverse, ← hrest,
    List.takeWhile_append_dropWhile]

/-- **Trimming takes away all padding** of a text without blanks. -/
theorem trim_of_isPadded (h : IsPadded expression w) (hw : ∀ c ∈ w, isBlank c = false) :
    trim expression.toList = w := by
  have hkept : ∀ {l : List Char}, (∀ c ∈ l, isBlank c = false) → l.dropWhile isBlank = l := by
    intro l hl
    cases l with
    | nil => rfl
    | cons c l => exact List.dropWhile_cons_of_neg (by simp [hl c])
  obtain ⟨left, right, hexpression, hleft, hright⟩ := h
  rw [trim, hexpression, List.append_assoc, List.dropWhile_append_of_pos hleft]
  cases w with
  | nil => simp [List.dropWhile_eq_nil_iff.2 hright]
  | cons c w =>
    have hfirst : (c :: w ++ right).dropWhile isBlank = c :: w ++ right :=
      List.dropWhile_cons_of_neg (by simp [hw c])
    have hreverse : ∀ c ∈ right.reverse, isBlank c = true := fun c hc =>
      hright c (List.mem_reverse.1 hc)
    rw [hfirst, List.reverse_append, List.dropWhile_append_of_pos hreverse,
      hkept fun c hc => hw c (List.mem_reverse.1 hc), List.reverse_reverse]

/-! ## Operators -/

/-- **An operator is read whole** in front of what begins with a digit. -/
theorem read_token_append (op : Comparison) (hdigit : c.isDigit = true) (rest : List Char) :
    Comparison.read (op.token.toList ++ c :: rest) = some (op, c :: rest) := by
  have hne : c ≠ '=' := by
    rintro rfl
    cases hdigit
  cases op <;> simp [Comparison.token, Comparison.read, hne]

/-- What is read is an operator and what stands behind it. -/
theorem eq_of_read (h : Comparison.read w = some (op, operand)) :
    w = op.token.toList ++ operand := by
  unfold Comparison.read at h
  split at h <;> cases h <;> simp [Comparison.token]

/-- A word does not begin with an operator. -/
theorem read_of_isWord (h : IsWord w) : Comparison.read w = none := by
  cases hread : Comparison.read w with
  | none => rfl
  | some found =>
    obtain ⟨op, operand⟩ := found
    have hname := (isName_iff.2 h)
    rw [eq_of_read hread] at hname
    cases op <;> simp [isName, Comparison.token] at hname <;> exact absurd hname.1 (by decide)

/-! ## Rules -/

theorem isNameChar_of_tells (hunit : unit = 'p' ∨ unit = 'k') (h : Tells name unit bound) :
    ∀ c ∈ name.toList, isNameChar c = true := by
  obtain ⟨digits, hname, hnumeral⟩ := h
  intro c hc
  rw [hname, List.mem_append, List.mem_singleton] at hc
  rcases hc with hc | rfl
  · simp [isNameChar, Char.isAlphanum, hnumeral.all_digits c hc]
  · rcases hunit with rfl | rfl <;> decide

/-- **A word names the stream of that name.** -/
theorem parse_of_isWord (h : IsPadded expression w) (hw : IsWord w) :
    Rule.parse expression = .ok (.named (String.ofList w)) := by
  have htrim := trim_of_isPadded h fun c hc => isBlank_of_isNameChar (isNameChar_iff.2 (hw.2 c hc))
  simp only [Rule.parse, htrim, read_of_isWord hw, isName_iff.2 hw, if_true]

/-- **A comparison is made with the weight it writes.** -/
theorem parse_of_isComparison (h : IsPadded expression w) (hw : IsComparison w op unit bound) :
    ∃ kind, unitClass? unit = some kind ∧
      Rule.parse expression = .ok (.compare op ⟨kind, bound⟩) := by
  obtain ⟨hunit, digits, rfl, hnumeral⟩ := hw
  obtain ⟨kind, hkind⟩ := unit_iff.1 hunit
  have htells : Tells (String.ofList (digits ++ [unit])) unit bound :=
    ⟨digits, by simp, hnumeral⟩
  have hchars := isNameChar_of_tells hunit htells
  rw [String.toList_ofList] at hchars
  have htrim := trim_of_isPadded h fun c hc => by
    rw [List.append_assoc, List.mem_append] at hc
    rcases hc with hc | hc
    · cases op <;> simp [Comparison.token] at hc <;> rcases hc with rfl | rfl <;> decide
    · exact isBlank_of_isNameChar (hchars c hc)
  have hname : isName (digits ++ [unit]) = true :=
    isName_iff.2 ⟨by simp, fun c hc => isNameChar_iff.1 (hchars c hc)⟩
  have hweigh := weigh_eq_of_tells hkind htells
  obtain ⟨c, digits, rfl⟩ := List.exists_cons_of_ne_nil hnumeral.ne_nil
  refine ⟨kind, hkind, ?_⟩
  have hread := read_token_append op (hnumeral.all_digits c List.mem_cons_self) (digits ++ [unit])
  rw [List.append_assoc, List.cons_append] at htrim
  simp only [Rule.parse, htrim, hread]
  rw [List.cons_append] at hname hweigh
  rw [hweigh, if_pos ⟨hname, isSortable_of_unitClass? hkind bound⟩]

/-- **Nothing else is a filter.** -/
theorem padded_of_parse {rule : Rule} (h : Rule.parse expression = .ok rule) :
    ∃ w, IsPadded expression w ∧ (IsWord w ∨ ∃ op unit bound, IsComparison w op unit bound) := by
  refine ⟨_, isPadded_trim expression, ?_⟩
  unfold Rule.parse at h
  cases hread : Comparison.read (trim expression.toList) with
  | none =>
    simp only [hread] at h
    split at h
    · next hname => exact .inl (isName_iff.1 hname)
    · cases h
  | some found =>
    obtain ⟨op, operand⟩ := found
    simp only [hread] at h
    split at h
    · next hok =>
      obtain ⟨unit, kind, bound, hunit, digits, hoperand, hnumeral⟩ :=
        isSortable_weigh_iff.1 hok.2
      rw [String.toList_ofList] at hoperand
      refine .inr ⟨op, unit, bound, unit_iff.2 ⟨kind, hunit⟩, digits, ?_, hnumeral⟩
      rw [eq_of_read hread, hoperand, List.append_assoc]
    · cases h

/-- The only way to refuse an expression. -/
theorem parse_eq_ok_or (expression : String) : (∃ rule, Rule.parse expression = .ok rule) ∨
    Rule.parse expression = .error (.invalidFilter expression) := by
  dsimp only [Rule.parse]
  split
  · split
    · exact .inl ⟨_, rfl⟩
    · exact .inr rfl
  · split
    · exact .inl ⟨_, rfl⟩
    · exact .inr rfl

theorem excludes_named : (Rule.named (String.ofList w)).excludes name = true ↔ name.toList = w := by
  rw [Rule.excludes, decide_eq_true_eq, ← String.toList_inj, String.toList_ofList, eq_comm]

/-- **A comparison excludes by unit and value.** -/
theorem excludes_compare {kind : WeightClass} (hunit : unitClass? unit = some kind) :
    (Rule.compare op ⟨kind, bound⟩).excludes name = true ↔
      ∃ value, Tells name unit value ∧ op.Relates value bound := by
  simp only [Rule.excludes, Bool.and_eq_true, decide_eq_true_eq, Comparison.holds_iff,
    ← weigh_eq_iff_tells hunit]
  constructor
  · rintro ⟨rfl, hrelates⟩
    exact ⟨_, rfl, hrelates⟩
  · rintro ⟨value, hweigh, hrelates⟩
    rw [hweigh]
    exact ⟨rfl, hrelates⟩

/-! ## Lists of expressions -/

/-- The result of a list with one more expression in front. -/
theorem parse_cons (e : String) (es : List String) : Exclusions.parse (e :: es) =
    match Rule.parse e with
    | .error error => .error error
    | .ok rule => (Exclusions.parse es).map (rule :: ·) := by
  rw [Exclusions.parse, List.mapM_cons, ← Exclusions.parse]
  cases Rule.parse e <;> cases Exclusions.parse es <;> rfl

/-- **A list is as good as its expressions**: the first bad one is
reported, and without one the list excludes what one of its rules excludes. -/
theorem parse_list (es : List String) :
    (∃ before bad after error, es = before ++ bad :: after ∧
      (∀ e ∈ before, ∃ rule, Rule.parse e = .ok rule) ∧ Rule.parse bad = .error error ∧
      Exclusions.parse es = .error error) ∨
    ((∀ e ∈ es, ∃ rule, Rule.parse e = .ok rule) ∧ ∃ rules, Exclusions.parse es = .ok rules ∧
      ∀ name, Exclusions.excludes rules name = true ↔
        ∃ e ∈ es, ∃ rule, Rule.parse e = .ok rule ∧ rule.excludes name = true) := by
  induction es with
  | nil => exact .inr ⟨by simp, [], rfl, by simp [Exclusions.excludes]⟩
  | cons e es ih =>
    rw [parse_cons]
    cases hparse : Rule.parse e with
    | error error => exact .inl ⟨[], e, es, error, rfl, by simp, hparse, rfl⟩
    | ok rule =>
      rcases ih with
        ⟨before, bad, after, error, rfl, hbefore, hbad, hlist⟩ | ⟨hall, rules, hlist, hex⟩
      · refine .inl ⟨e :: before, bad, after, error, rfl, ?_, hbad, by simp [hlist, Except.map]⟩
        exact List.forall_mem_cons.2 ⟨⟨rule, hparse⟩, hbefore⟩
      · refine .inr ⟨List.forall_mem_cons.2 ⟨⟨rule, hparse⟩, hall⟩, rule :: rules,
          by simp [hlist, Except.map], fun name => ?_⟩
        have hsplit : Exclusions.excludes (rule :: rules) name = true ↔
            rule.excludes name = true ∨ Exclusions.excludes rules name = true := by
          simp [Exclusions.excludes]
        simp [hsplit, hex, hparse]

/-! ## The language -/

/-- **Filters exclude what they write.** A word excludes the stream of that
name; a comparison excludes the names of its unit whose value stands in
the relation to its bound; nothing else is a filter. White space around an
expression does not count, but an error reports the expression as it was
given. A list of expressions fails with the error of its first bad one,
and otherwise excludes what one of its rules excludes. -/
theorem filters_exclude_as_written :
    (∀ expression w, IsPadded expression w → IsWord w →
      ∃ rule, Rule.parse expression = .ok rule ∧
        ∀ name, rule.excludes name = true ↔ name.toList = w) ∧
    (∀ expression w op unit bound, IsPadded expression w → IsComparison w op unit bound →
      ∃ rule, Rule.parse expression = .ok rule ∧
        ∀ name, rule.excludes name = true ↔
          ∃ value, Tells name unit value ∧ op.Relates value bound) ∧
    (∀ expression, (¬ ∃ w, IsPadded expression w ∧
        (IsWord w ∨ ∃ op unit bound, IsComparison w op unit bound)) →
      Rule.parse expression = .error (.invalidFilter expression)) ∧
    (∀ expressions,
      (∃ before bad after error, expressions = before ++ bad :: after ∧
        (∀ e ∈ before, ∃ rule, Rule.parse e = .ok rule) ∧ Rule.parse bad = .error error ∧
        Exclusions.parse expressions = .error error) ∨
      ((∀ e ∈ expressions, ∃ rule, Rule.parse e = .ok rule) ∧
        ∃ rules, Exclusions.parse expressions = .ok rules ∧
          ∀ name, Exclusions.excludes rules name = true ↔
            ∃ e ∈ expressions, ∃ rule, Rule.parse e = .ok rule ∧ rule.excludes name = true)) := by
  refine ⟨fun expression w hpadded hw => ?_, fun expression w op unit bound hpadded hw => ?_,
    fun expression hnone => ?_, parse_list⟩
  · exact ⟨_, parse_of_isWord hpadded hw, fun name => excludes_named⟩
  · obtain ⟨kind, hkind, hparse⟩ := parse_of_isComparison hpadded hw
    exact ⟨_, hparse, fun name => excludes_compare hkind⟩
  · exact (parse_eq_ok_or expression).resolve_left
      fun ⟨rule, hrule⟩ => hnone (padded_of_parse hrule)

/-- A comparison behind an ideographic space, with a zero in front of its
bound; a word; and a comparison whose bound is one too large. -/
theorem padded_comparison_excludes :
    IsPadded "\u3000>=0720p\t" ">=0720p".toList ∧ IsComparison ">=0720p".toList .ge 'p' 720 ∧
      (∃ rule, Rule.parse "\u3000>=0720p\t" = .ok rule ∧
        ∀ name, rule.excludes name = true ↔
          ∃ value, Tells name 'p' value ∧ Comparison.Relates .ge value 720) ∧
      IsPadded " best" "best".toList ∧ IsWord "best".toList ∧
      (∃ rule, Rule.parse " best" = .ok rule ∧
        ∀ name, rule.excludes name = true ↔ name.toList = "best".toList) ∧
      (¬ ∃ w, IsPadded "<18446744073709551616k" w ∧
        (IsWord w ∨ ∃ op unit bound, IsComparison w op unit bound)) ∧
      Rule.parse "<18446744073709551616k" =
        .error (.invalidFilter "<18446744073709551616k") := by
  have hpadded : IsPadded "\u3000>=0720p\t" ">=0720p".toList :=
    ⟨['\u3000'], ['\t'], by decide, List.all_eq_true.1 rfl, List.all_eq_true.1 rfl⟩
  have hcomparison : IsComparison ">=0720p".toList .ge 'p' 720 :=
    ⟨.inl rfl, "0720".toList, by decide, by decide, List.all_eq_true.1 rfl, by decide, by decide⟩
  have hpadded' : IsPadded " best" "best".toList :=
    ⟨[' '], [], by decide, List.all_eq_true.1 rfl, List.all_eq_true.1 rfl⟩
  have hword : IsWord "best".toList := isName_iff.1 rfl
  have hrefused : ∀ rule, Rule.parse "<18446744073709551616k" ≠ .ok rule := fun _ h => by cases h
  have hneither : ¬ ∃ w, IsPadded "<18446744073709551616k" w ∧
      (IsWord w ∨ ∃ op unit bound, IsComparison w op unit bound) := by
    rintro ⟨w, hw, hword | ⟨op, unit, bound, hcomparison⟩⟩
    · exact hrefused _ (parse_of_isWord hw hword)
    · obtain ⟨kind, -, hparse⟩ := parse_of_isComparison hw hcomparison
      exact hrefused _ hparse
  exact ⟨hpadded, hcomparison, filters_exclude_as_written.2.1 _ _ _ _ _ hpadded hcomparison,
    hpadded', hword, filters_exclude_as_written.1 _ _ hpadded' hword, hneither,
    filters_exclude_as_written.2.2.1 _ hneither⟩

-- Digits of other scripts make a name that tells no quality, and no expression at all.
example : weigh "\u0661p" = .none ∧
    Rule.parse ">\u0661p" = .error (.invalidFilter ">\u0661p") :=
  ⟨by decide, rfl⟩

end StreamFinder.Quality
