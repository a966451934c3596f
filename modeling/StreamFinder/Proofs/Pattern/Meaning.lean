import StreamFinder.Pattern.Search

/-!
# What an expression matches

An expression matches the text between two places, or does not. This says
nothing of how a match is looked for, nor of which one is preferred: a
repetition is any number of rounds that its bounds allow, and an empty
round counts like any other. Frames are read the same way, one after the
other, so that a thread of the search has a meaning of its own: that what
remains of it can be matched from a place on.
-/

namespace StreamFinder.Pattern

open Text

/-- The character in front of a place. -/
def before? (text : List Char) : Nat → Option Char
  | 0 => none
  | i + 1 => text[i]?

/-- So many steps one after the other. -/
def Rounds (step : Nat → Nat → Prop) : Nat → Nat → Nat → Prop
  | 0, i, j => i = j
  | n + 1, i, j => ∃ k, step i k ∧ Rounds step n k j

/-- Whether an expression matches the text from one place to another. -/
def Expr.Spans (text : List Char) : Expr → Nat → Nat → Prop
  | .empty, i, j => i = j
  | .set s, i, j => j = i + 1 ∧ ∃ c, text[i]? = some c ∧ s.hasChar c = true
  | .look b, i, j => i = j ∧ b.holds (before? text i) text[i]? = true
  | .group _ e, i, j => e.Spans text i j
  | .cat a b, i, j => ∃ k, a.Spans text i k ∧ b.Spans text k j
  | .alt a b, i, j => a.Spans text i j ∨ b.Spans text i j
  | .times e min more _, i, j =>
    ∃ n, min ≤ n ∧ (∀ k ∈ more, n ≤ min + k) ∧ Rounds (e.Spans text) n i j

/-- Whether a frame matches the text from one place to another. The end of
a group is no text. -/
def Frame.Spans (text : List Char) : Frame → Nat → Nat → Prop
  | .run e => e.Spans text
  | .again e min more greedy => (Expr.times e min more greedy).Spans text
  | .shut _ => Eq

/-- Whether frames match, one after the other, the text from a place on. -/
def Completes (text : List Char) : List Frame → Nat → Prop
  | [], _ => True
  | f :: rest, i => ∃ k, f.Spans text i k ∧ Completes text rest k

variable {text : List Char} {i j : Nat}

theorem completes_run {e : Expr} : Completes text [.run e] i ↔ ∃ j, e.Spans text i j := by
  simp [Completes, Frame.Spans]

/-- Frames that stand before a set go on behind a character of it. -/
theorem completes_set {s : CodeSet} {rest : List Frame} :
    Completes text (.run (.set s) :: rest) i ↔
      ∃ c, text[i]? = some c ∧ s.hasChar c = true ∧ Completes text rest (i + 1) := by
  simp only [Completes, Frame.Spans, Expr.Spans]
  constructor
  · rintro ⟨_, ⟨rfl, c, hc, hs⟩, hrest⟩
    exact ⟨c, hc, hs, hrest⟩
  · rintro ⟨c, hc, hs, hrest⟩
    exact ⟨_, ⟨rfl, c, hc, hs⟩, hrest⟩

/-! ## Expressions that are built -/

/-- **One expression in front of another matches the one and then the other.** -/
theorem spans_append (a b : Expr) :
    (Expr.append a b).Spans text i j ↔ ∃ k, a.Spans text i k ∧ b.Spans text k j := by
  induction a generalizing i with
  | empty => simp [Expr.append, Expr.Spans]
  | cat a₁ a₂ _ ih =>
    simp only [Expr.append, Expr.Spans, ih]
    grind
  | _ => cases b <;> simp [Expr.append, Expr.Spans]

theorem append_empty (e : Expr) : Expr.append e .empty = e := by
  induction e with
  | cat a b _ ih => rw [Expr.append, ih]
  | _ => rfl

/-- There is no character in front of the start, and only there. -/
theorem before?_eq_none_iff (h : i ≤ text.length) : before? text i = none ↔ i = 0 := by
  cases i with
  | zero => simp [before?]
  | succ i => simp [before?]; omega

/-- An expression behind a start anchor matches from the start only. -/
theorem spans_anchored {e : Expr} (h : i ≤ text.length) :
    (Expr.append (.look .textStart) e).Spans text i j ↔ i = 0 ∧ e.Spans text 0 j := by
  rw [spans_append]
  simp only [Expr.Spans, Boundary.holds, Option.isNone_iff_eq_none, before?_eq_none_iff h]
  constructor
  · rintro ⟨k, ⟨rfl, rfl⟩, he⟩
    exact ⟨rfl, he⟩
  · rintro ⟨rfl, he⟩
    exact ⟨0, ⟨rfl, rfl⟩, he⟩

end StreamFinder.Pattern
