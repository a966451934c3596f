import StreamFinder.Plugin.Matcher
import StreamFinder.Proofs.Pattern.Enclosed
import StreamFinder.Proofs.Pattern.Searching

/-!
# What a matcher claims

A matcher puts its pattern into a group behind a start anchor. As long as
the pattern closes no group but its own, the matcher claims the addresses
that the pattern by itself matches from the start. It is made unless the
pattern cannot be read, ends in a comment, which hides the end of the group
of the anchor, or is so deep or so large that the anchor and its group
exceed a limit. A pattern that closes the group of the anchor is read as
the text that results.
-/

namespace StreamFinder

open Pattern

/-! ## The anchored text -/

namespace Pattern

/-- What a text writes, however deep and large it is. -/
def written? (source : List Char) : Option Item :=
  (Reading.run source.length .start source).bind fun r =>
    if r.opened = [] then some r.level else none

/-- A pattern is what its text writes, within the limits. -/
theorem parse_expr (source : List Char) :
    (parse source).map (·.expr) = (written? source).bind fun w =>
      if w.depth ≤ depthLimit ∧ w.expr.fits = true then some w.expr else none := by
  unfold parse written?
  cases Reading.run source.length .start source with
  | none => rfl
  | some r =>
    by_cases hopened : r.opened = []
    · by_cases hfits : r.level.depth ≤ depthLimit ∧ r.level.expr.fits = true
      · simp [hopened, hfits]
      · simp [hopened, hfits]
    · simp [hopened]

/-- What an item becomes behind a start anchor, in a group of its own. -/
def Item.anchored (w : Item) : Item := ⟨Expr.append (.look .textStart) w.expr, w.depth + 2⟩

/-- The group that the anchor opens, with the anchor in front of it. -/
def anchorGroup : Opened := ⟨[.item ⟨.look .textStart, 0⟩], [], none, .initial⟩

end Pattern

namespace Plugin.Matcher

/-- The anchor and the parenthesis behind it are read first. -/
theorem run_anchored (source : String) :
    Reading.run (anchored source).length .start (anchored source) =
      Reading.run (source.toList.length + 3) (Reading.start.enclosed anchorGroup)
        (source.toList ++ [')']) := by
  have hlength : (anchored source).length = source.toList.length + 5 := by simp [anchored]
  rw [hlength]
  rfl

/-- Closing the group of the anchor leaves nothing open, if nothing else is. -/
theorem closeGroup?_anchorGroup {r : Reading} (hopened : r.opened = []) :
    ∃ r', (r.enclosed anchorGroup).closeGroup? = some r' ∧ r'.opened = [] ∧
      r'.level = r.level.anchored := by
  obtain ⟨elements, branches, opened, flags, groups, names⟩ := r
  obtain rfl : opened = [] := hopened
  refine ⟨_, rfl, rfl, ?_⟩
  simp [Reading.level, Reading.sequence, anchorGroup, Item.choice, Item.sequence, Element.toItem,
    Item.depthOf, Item.anchored, Expr.sequence, append_empty, Reading.enclosed]

/-- While another group is open, the anchor's is not closed. -/
theorem opened_of_closeGroup? {r r' : Reading} (hopened : r.opened ≠ [])
    (h : (r.enclosed anchorGroup).closeGroup? = some r') : r'.opened ≠ [] := by
  obtain ⟨elements, branches, opened, flags, groups, names⟩ := r
  match opened, hopened with
  | _ :: _, _ =>
    cases h
    simp

/-- **Behind the anchor a text writes what it writes by itself,** unless a
comment hides the end of the group: then the text can be read as well with
a parenthesis behind it. -/
theorem written?_anchored {source : String}
    (h : Reading.closesTooMuch source.toList.length .start source.toList = false) :
    written? (anchored source) =
      if (written? (source.toList ++ [')'])).isSome then none
      else (written? source.toList).map Item.anchored := by
  have hlength : (source.toList ++ [')']).length = source.toList.length + 1 := by simp
  obtain ⟨hsome, hnone⟩ := Reading.run_enclosed (g := anchorGroup) (k := source.toList.length + 3)
    (m := source.toList.length + 1) (.visible source.toList) (Nat.le_refl _) (by simp) (by simp) h
  unfold written?
  rw [run_anchored, hlength]
  cases hr : Reading.run source.toList.length .start source.toList with
  | none =>
    cases hin : Reading.run (source.toList.length + 3) (Reading.start.enclosed anchorGroup)
        (source.toList ++ [')']) with
    | none => simp
    | some r => simp [hnone hr r hin]
  | some r =>
    by_cases hopened : r.opened = []
    · cases hsome r hr with
      | closed hin hbeside =>
        obtain ⟨r', hclose, hopened', hlevel⟩ := closeGroup?_anchorGroup hopened
        -- beside the anchor's group there is nothing that the parenthesis could close
        have hnot : r.closeGroup? = none := by simp [Reading.closeGroup?, hopened]
        rw [hin, hbeside, hclose, hnot]
        simp [hopened, hopened', hlevel]
      | hidden hin hbeside =>
        rw [hin, hbeside]
        simp [Reading.enclosed, hopened]
    · cases hsome r hr with
      | closed hin hbeside =>
        rw [hin]
        cases hclose : (r.enclosed anchorGroup).closeGroup? with
        | none => simp [hopened]
        | some r' => simp [hopened, opened_of_closeGroup? hopened hclose]
      | hidden hin hbeside =>
        rw [hin]
        simp [Reading.enclosed, hopened]

/-- What the pattern of a matcher is made of, if there is one. -/
theorem ofSource?_expr {source : String} (priority : Priority)
    (h : Reading.closesTooMuch source.toList.length .start source.toList = false) (e : Expr) :
    (ofSource? source priority).map (·.pattern.expr) = some e ↔
      ∃ w, written? source.toList = some w ∧ written? (source.toList ++ [')']) = none ∧
        w.depth + 2 ≤ depthLimit ∧ (Expr.append (.look .textStart) w.expr).fits = true ∧
        Expr.append (.look .textStart) w.expr = e := by
  have hexpr : (ofSource? source priority).map (·.pattern.expr) =
      (parse (anchored source)).map (·.expr) := by
    rw [ofSource?, Option.map_map]
    rfl
  rw [hexpr, parse_expr, written?_anchored h]
  cases written? (source.toList ++ [')']) with
  | some w => simp
  | none => cases written? source.toList <;> simp [Item.anchored, and_assoc]

/-- What can be read by itself closes no group but its own. -/
theorem closesTooMuch_of_written? {source : List Char} {w : Item} (h : written? source = some w) :
    Reading.closesTooMuch source.length .start source = false := by
  obtain ⟨r, hr, -⟩ := Option.bind_eq_some_iff.mp h
  exact Reading.closesTooMuch_of_run hr

/-- A matcher is made of what can be read by itself, unless a comment ends
it or a limit is exceeded behind the anchor. -/
theorem isSome_ofSource?_iff {source : String} {w : Item} (priority : Priority)
    (h : written? source.toList = some w) :
    (ofSource? source priority).isSome = true ↔
      written? (source.toList ++ [')']) = none ∧ w.depth + 2 ≤ depthLimit ∧
        (Expr.append (.look .textStart) w.expr).fits = true := by
  have hexpr := ofSource?_expr priority (closesTooMuch_of_written? h)
  constructor
  · intro hmade
    obtain ⟨m, hm⟩ := Option.isSome_iff_exists.mp hmade
    obtain ⟨w', hw, hlate, hdepth, hfits, -⟩ := (hexpr m.pattern.expr).mp (by rw [hm]; rfl)
    obtain rfl : w = w' := Option.some.inj (h.symm.trans hw)
    exact ⟨hlate, hdepth, hfits⟩
  · rintro ⟨hlate, hdepth, hfits⟩
    have hmade := (hexpr _).mpr ⟨w, h, hlate, hdepth, hfits, rfl⟩
    rw [← Option.isSome_map, hmade]
    rfl

/-- A matcher claims what its pattern matches from the start. -/
theorem isMatch_iff {source url : String} {w : Item} {m : Matcher} {priority : Priority}
    (h : written? source.toList = some w) (hm : ofSource? source priority = some m) :
    m.isMatch url = true ↔ ∃ j, w.expr.Spans url.toList 0 j := by
  obtain ⟨w', hw, -, -, -, hexpr⟩ :=
    (ofSource?_expr priority (closesTooMuch_of_written? h) m.pattern.expr).mp (by rw [hm]; rfl)
  obtain rfl : w = w' := Option.some.inj (h.symm.trans hw)
  rw [isMatch, Pattern.isMatch, ← hexpr]
  exact isSome_search_anchored

/-- What cannot be read by itself makes a matcher only if it closes too much. -/
theorem closesTooMuch_of_ofSource? {source : String} {priority : Priority}
    (h : written? source.toList = none) (hmade : (ofSource? source priority).isSome = true) :
    Reading.closesTooMuch source.toList.length .start source.toList = true := by
  by_contra hfew
  obtain ⟨m, hm⟩ := Option.isSome_iff_exists.mp hmade
  obtain ⟨w, hw, -⟩ := (ofSource?_expr priority (Bool.eq_false_iff.mpr hfew) m.pattern.expr).mp
    (by rw [hm]; rfl)
  rw [h] at hw
  cases hw

/-- **A matcher claims the addresses that its pattern by itself matches from
the start.** Of a pattern that can be read by itself a matcher is made,
unless a comment ends it or a limit is exceeded behind the anchor. Of one
that cannot, none is made, unless it closes a group that is not its own. -/
theorem claims_what_its_source_matches (source : String) (priority : Priority) :
    (∀ w, written? source.toList = some w →
      ((ofSource? source priority).isSome = true ↔
        written? (source.toList ++ [')']) = none ∧ w.depth + 2 ≤ depthLimit ∧
          (Expr.append (.look .textStart) w.expr).fits = true) ∧
      ∀ m, ofSource? source priority = some m →
        ∀ url, m.isMatch url = true ↔ ∃ j, w.expr.Spans url.toList 0 j) ∧
    (∀ p m, parse source.toList = some p → ofSource? source priority = some m →
      ∀ url, m.isMatch url = p.matchesAtStart url.toList) ∧
    (written? source.toList = none → (ofSource? source priority).isSome = true →
      Reading.closesTooMuch source.toList.length .start source.toList = true) := by
  refine ⟨fun w hw => ⟨isSome_ofSource?_iff priority hw, fun m hm url => isMatch_iff hw hm⟩,
    fun p m hp hm url => ?_, closesTooMuch_of_ofSource?⟩
  have hexpr := parse_expr source.toList
  rw [hp, Option.map_some] at hexpr
  obtain ⟨w, hw, hsome⟩ := Option.bind_eq_some_iff.mp hexpr.symm
  have hsame : w.expr = p.expr := by
    split at hsome
    · exact Option.some.inj hsome
    · cases hsome
  rw [Bool.eq_iff_iff, isMatch_iff hw hm, Pattern.matchesAtStart, isSome_searchAtStart, hsame]

/-- Both alternatives of `ab|c` are claimed from the start, and from there only. -/
theorem alternatives_are_claimed_from_the_start :
    (parse "ab|c".toList).isSome = true ∧
      ∃ m, ofSource? "ab|c" .normal = some m ∧ m.isMatch "cd" = true ∧ m.isMatch "xc" = false := by
  have hwritten : written? "ab|c".toList =
      some ⟨.alt (.cat (.set (.single 97)) (.set (.single 98))) (.set (.single 99)), 2⟩ := by
    decide +kernel
  obtain ⟨hmade, hclaims⟩ := (claims_what_its_source_matches "ab|c" .normal).1 _ hwritten
  obtain ⟨m, hm⟩ := Option.isSome_iff_exists.mp
    (hmade.mpr ⟨by decide +kernel, by decide, by decide +kernel⟩)
  refine ⟨by decide +kernel, m, hm, ?_, ?_⟩
  · exact (hclaims m hm _).mpr ⟨1, .inr ⟨rfl, 'c', rfl, by decide +kernel⟩⟩
  · rw [Bool.eq_false_iff, ne_eq, hclaims m hm]
    rintro ⟨j, ⟨k, ⟨-, c, hc, hs⟩, -⟩ | ⟨-, c, hc, hs⟩⟩
    · cases hc
      exact absurd hs (by decide +kernel)
    · cases hc
      exact absurd hs (by decide +kernel)

/-- Neither holds without exception: `x)|(?:y` is no pattern by itself, but a
matcher is made of it, which claims an address from its second character
on; and a pattern may end in a comment, but no matcher is made of it. -/
theorem spliced_pattern_is_accepted :
    (parse "x)|(?:y".toList = none ∧
      ∃ m, ofSource? "x)|(?:y" .normal = some m ∧ m.isMatch "zy" = true) ∧
    (parse "(?x)a # c".toList).isSome = true ∧ ofSource? "(?x)a # c" .normal = none := by
  have hmade : ofSource? "x)|(?:y" .normal = some ⟨"x)|(?:y",
      ⟨.alt (.cat (.look .textStart) (.set (.single 120))) (.set (.single 121)), []⟩, .normal⟩ := by
    decide +kernel
  refine ⟨⟨by decide +kernel, _, hmade, ?_⟩, by decide +kernel, by decide +kernel⟩
  rw [isMatch, Pattern.isMatch, isSome_search]
  exact ⟨1, by decide, 2, .inr ⟨rfl, 'y', rfl, by decide +kernel⟩⟩

end Plugin.Matcher

end StreamFinder
