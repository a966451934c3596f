import Mathlib.Tactic.SplitIfs
import StreamFinder.Pattern.Escape

/-!
# Escapes with a parenthesis behind the text

A reader that goes through a text from left to right reads the same if a
closing parenthesis is put behind the text: it ends at the same place, with
the parenthesis still to come. There are two exceptions. A comment swallows
the parenthesis where it hides the rest of its line. And a reader for which
the text ended too early may make something of the parenthesis; then
nothing is left of the text behind it. This file says so of escapes, and
has the vocabulary for the other readers.
-/

namespace StreamFinder.Pattern

open Text

/-! ## A text and the parenthesis behind it -/

/-- A rest of a text, and the same rest with a closing parenthesis behind
it, which may have been swallowed at the end. -/
inductive Followed : List Char → List Char → Prop where
  | visible (s : List Char) : Followed s (s ++ [')'])
  | hidden : Followed [] []

namespace Followed

variable {c : Char} {s s' : List Char}

theorem of_nil (h : Followed [] s') : s' = [')'] ∨ s' = [] := by
  cases h with
  | visible => exact .inl rfl
  | hidden => exact .inr rfl

theorem of_cons (h : Followed (c :: s) s') : s' = c :: (s ++ [')']) := by
  cases h
  rfl

theorem length_le (h : Followed s s') : s'.length ≤ s.length + 1 := by
  cases h <;> simp

end Followed

variable {v : Bool} {s s' t t' : List Char} {n : Nat}

theorem length_skipRemarks_le (inComment : Bool) (s : List Char) :
    (skipRemarks inComment s).length ≤ s.length := by
  fun_induction skipRemarks inComment s <;> simp_all <;> omega

theorem length_skip_le (v : Bool) (s : List Char) : (skip v s).length ≤ s.length := by
  unfold skip
  split
  · exact length_skipRemarks_le false s
  · exact Nat.le_refl _

/-- **Skipping remarks stops at the same place,** or in a comment that hides the parenthesis. -/
theorem Followed.skip (h : Followed s s') (v : Bool) : Followed (skip v s) (skip v s') := by
  have hremarks (inComment : Bool) (s : List Char) :
      Followed (skipRemarks inComment s) (skipRemarks inComment (s ++ [')'])) := by
    induction s generalizing inComment with
    | nil =>
      cases inComment with
      | true => exact .hidden
      | false => exact .visible []
    | cons c s ih =>
      simp only [List.cons_append, skipRemarks]
      split_ifs
      · exact ih _
      · exact ih _
      · exact ih _
      · exact .visible (c :: s)
  cases h with
  | hidden => cases v <;> exact .hidden
  | visible =>
    cases v with
    | true => exact hremarks false s
    | false => exact .visible s

/-- What is left behind the remarks, in lengths as well. -/
theorem skip_followed (v : Bool) (s : List Char) :
    Followed (skip v s) (skip v (s ++ [')'])) ∧ (skip v s).length ≤ s.length ∧
      (skip v (s ++ [')'])).length ≤ (skip v s).length + 1 :=
  ⟨(Followed.visible s).skip v, length_skip_le v s, ((Followed.visible s).skip v).length_le⟩

theorem skip_nil (v : Bool) : skip v [] = [] := by
  cases v <;> rfl

/-! ## Results that agree -/

/-- Two results of a reader, for a text and for the text with the
parenthesis. Where both read something, it is related by `R`; what only the
parenthesis makes readable is in `D`. -/
def Agree {β β' : Type} (R : β → β' → Prop) (D : β' → Prop) : Option β → Option β' → Prop
  | some x, some x' => R x x'
  | none, some x' => D x'
  | none, none => True
  | some _, none => False

/-- Equal values, and rests that differ in the parenthesis only and are no longer than `n`. -/
def Alike {α : Type} (n : Nat) (x x' : α × List Char) : Prop :=
  x.1 = x'.1 ∧ Followed x.2 x'.2 ∧ x.2.length ≤ n

/-- The same with two values. -/
def Alike₂ {α β : Type} (n : Nat) (x x' : α × β × List Char) : Prop :=
  Alike n ((x.1, x.2.1), x.2.2) ((x'.1, x'.2.1), x'.2.2)

/-- Nothing is left. -/
def Spent {α : Type} (x : α × List Char) : Prop := x.2 = []

theorem Agree.cases {β β' : Type} {R : β → β' → Prop} {D : β' → Prop} {x : Option β}
    {x' : Option β'} (h : Agree R D x x') :
    (x = none ∧ x' = none) ∨ (x = none ∧ ∃ b', x' = some b' ∧ D b') ∨
      ∃ b b', x = some b ∧ x' = some b' ∧ R b b' := by
  match x, x', h with
  | none, none, _ => exact .inl ⟨rfl, rfl⟩
  | none, some b', h => exact .inr (.inl ⟨rfl, b', rfl, h⟩)
  | some b, some b', h => exact .inr (.inr ⟨b, b', rfl, rfl, h⟩)

theorem Agree.mono {β β' : Type} {R : β → β' → Prop} {D D' : β' → Prop} {x : Option β}
    {x' : Option β'} (h : Agree R D x x') (hD : ∀ b, D b → D' b) : Agree R D' x x' := by
  match x, x', h with
  | none, none, _ => trivial
  | none, some b, h => exact hD b h
  | some _, some _, h => exact h

/-- What is made of results that agree agrees, if it does for each two that
are related, and for what only the parenthesis has made readable. -/
theorem Agree.bind {α α' β β' : Type} {Q : α → α' → Prop} {E : α' → Prop} {R : β → β' → Prop}
    {D : β' → Prop} {x : Option α} {x' : Option α'} {g : α → Option β} {g' : α' → Option β'}
    (h : Agree Q E x x') (hQ : ∀ a a', Q a a' → Agree R D (g a) (g' a'))
    (hE : ∀ a', E a' → Agree R D none (g' a')) : Agree R D (x.bind g) (x'.bind g') := by
  match x, x', h with
  | none, none, _ => trivial
  | none, some a', h => exact hE a' h
  | some a, some a', h => exact hQ a a' h

/-- The same case distinction on both sides. -/
theorem Agree.ite {β β' : Type} {R : β → β' → Prop} {D : β' → Prop} {c : Prop} [Decidable c]
    {x y : Option β} {x' y' : Option β'} (h : c → Agree R D x x') (h' : ¬c → Agree R D y y') :
    Agree R D (if c then x else y) (if c then x' else y') := by
  split
  · next hc => exact h hc
  · next hc => exact h' hc

/-! ## Characters by their code point -/

theorem agree_readHexDigits (h : Followed t t') (hn : t.length ≤ n) (count value : Nat) :
    Agree (Alike n) Spent (readHexDigits v count value t) (readHexDigits v count value t') := by
  induction count generalizing value t t' with
  | zero => exact ⟨rfl, h, hn⟩
  | succ count ih =>
    cases t with
    | nil => obtain rfl | rfl := h.of_nil <;> trivial
    | cons c s =>
      obtain rfl := h.of_cons
      simp only [readHexDigits]
      cases hexValue? c with
      | none => trivial
      | some d =>
        have := length_skip_le v s
        exact ih ((Followed.visible s).skip v) (by simp at hn; omega) _

theorem agree_readHexBraced (h : Followed t t') (hn : t.length ≤ n) {fuel fuel' : Nat}
    (hfuel : t.length < fuel) (hfuel' : t'.length < fuel') (seen : Bool) (value : Nat) :
    Agree (Alike n) Spent (readHexBraced v fuel seen value t)
      (readHexBraced v fuel' seen value t') := by
  induction fuel generalizing fuel' seen value t t' with
  | zero => omega
  | succ fuel ih =>
    obtain ⟨fuel', rfl⟩ : ∃ k, fuel' = k + 1 := ⟨fuel' - 1, by omega⟩
    cases t with
    | nil => obtain rfl | rfl := h.of_nil <;> trivial
    | cons c s =>
      obtain rfl := h.of_cons
      obtain ⟨hs, hlength, hlength'⟩ := skip_followed v s
      simp only [List.length_cons, List.length_append, List.length_nil] at hn hfuel hfuel'
      simp only [readHexBraced]
      split_ifs
      · exact ⟨rfl, hs, by simp only; omega⟩
      · trivial
      · cases hexValue? c with
        | none => trivial
        | some d => exact ih hs (by omega) (by omega) (by omega) _ _

/-- What is read can be looked up, whatever the rest. -/
theorem Agree.lookUp {α β γ : Type} {x x' : Option (α × List Char)}
    (h : Agree (Alike n) Spent x x') (g : α → Option β) (f : β → γ) :
    Agree (Alike n) Spent (x.bind fun (a, rest) => (g a).map fun b => (f b, rest))
      (x'.bind fun (a, rest) => (g a).map fun b => (f b, rest)) := by
  refine h.bind ?_ ?_
  · rintro ⟨a, rest⟩ ⟨a', rest'⟩ ⟨rfl, hrest⟩
    simp only
    cases g a with
    | none => trivial
    | some b => exact ⟨rfl, hrest⟩
  · rintro ⟨a, rest'⟩ hrest
    simp only
    cases g a with
    | none => trivial
    | some b => exact hrest

theorem agree_readHex (h : Followed t t') (hn : t.length ≤ n) {digits : Nat}
    (hdigits : 0 < digits) :
    Agree (Alike n) Spent (readHex v digits t) (readHex v digits t') := by
  have hskip := h.skip v
  have hlength := length_skip_le v t
  unfold readHex
  cases ht : skip v t with
  | nil =>
    rw [ht] at hskip
    obtain ht' | ht' := hskip.of_nil
    · rw [ht']
      obtain ⟨k, rfl⟩ : ∃ k, digits = k + 1 := ⟨digits - 1, by omega⟩
      trivial
    · rw [ht']
      trivial
  | cons c s =>
    rw [ht] at hskip hlength
    rw [hskip.of_cons]
    obtain ⟨hs, hslength, hs'length⟩ := skip_followed v s
    rw [List.length_cons] at hlength
    have hfuel : (skip v s).length < s.length + 1 := by omega
    have hfuel' : (skip v (s ++ [')'])).length < (s ++ [')']).length + 1 := by simp; omega
    simp only
    split_ifs
    · exact (agree_readHexBraced hs (by omega) hfuel hfuel' false 0).lookUp charOf?
        (Escape.char · false)
    · exact (agree_readHexDigits (.visible (c :: s)) (by simp; omega) digits 0).lookUp charOf?
        (Escape.char · (decide (digits = 2)))

/-! ## Properties -/

theorem agree_readName (h : Followed t t') (hn : t.length ≤ n) {fuel fuel' : Nat}
    (hfuel : t.length < fuel) (hfuel' : t'.length < fuel') (name : List Char) :
    Agree (Alike n) Spent (readName v fuel name t) (readName v fuel' name t') := by
  induction fuel generalizing fuel' name t t' with
  | zero => omega
  | succ fuel ih =>
    obtain ⟨fuel', rfl⟩ : ∃ k, fuel' = k + 1 := ⟨fuel' - 1, by omega⟩
    cases t with
    | nil =>
      obtain rfl | rfl := h.of_nil
      · obtain ⟨fuel', rfl⟩ : ∃ k, fuel' = k + 1 := ⟨fuel' - 1, by simp at hfuel'; omega⟩
        simp [readName, skip_nil, Agree]
      · trivial
    | cons c s =>
      obtain rfl := h.of_cons
      obtain ⟨hs, hlength, hlength'⟩ := skip_followed v s
      simp only [List.length_cons, List.length_append, List.length_nil] at hn hfuel hfuel'
      simp only [readName]
      split_ifs
      · exact ⟨rfl, .visible s, by simp only; omega⟩
      · exact ih hs (by omega) (by omega) (by omega) _

theorem agree_readProperty (f : Flags) (negated : Bool) (h : Followed t t') (hn : t.length ≤ n) :
    Agree (Alike n) Spent (readProperty f negated t) (readProperty f negated t') := by
  have hskip := h.skip f.verbose
  have hlength := length_skip_le f.verbose t
  cases hu : f.unicode with
  | false => simp [readProperty, hu, Agree]
  | true =>
    simp only [readProperty, hu, Bool.not_true, Bool.false_eq_true, if_false]
    cases ht : skip f.verbose t with
    | nil =>
      rw [ht] at hskip
      obtain ht' | ht' := hskip.of_nil
      · -- the parenthesis would name a property
        simp only [ht', skip_nil]
        rw [if_neg (by decide), if_neg (by decide)]
        cases describedSet? [')'] <;> trivial
      · rw [ht']
        trivial
    | cons c s =>
      rw [ht] at hskip hlength
      rw [hskip.of_cons]
      obtain ⟨hs, hslength, hs'length⟩ := skip_followed f.verbose s
      rw [List.length_cons] at hlength
      have hfuel : (skip f.verbose s).length < s.length + 1 := by omega
      have hfuel' : (skip f.verbose (s ++ [')'])).length < (s ++ [')']).length + 1 := by
        simp
        omega
      simp only
      by_cases hbrace : c = '\x7b'
      · simp only [hbrace, if_true]
        exact (agree_readName hs (by omega) hfuel hfuel' []).lookUp describedSet? _
      by_cases hbackslash : c = '\\'
      · simp [hbackslash, Agree]
      simp only [hbrace, hbackslash, if_false]
      cases describedSet? [c] with
      | none => trivial
      | some x => exact ⟨rfl, hs, by simp only; omega⟩

/-! ## Word edges -/

theorem agree_readEdgeName_go (f : Flags) (isNameChar : Char → Bool)
    (hp : isNameChar ')' = false) (h : Followed t t') (hn : t.length ≤ n) {fuel fuel' : Nat}
    (hfuel : t.length < fuel) (hfuel' : t'.length < fuel') (name : List Char) :
    Agree (Alike n) Spent (readEdgeName.go f isNameChar fuel name t)
      (readEdgeName.go f isNameChar fuel' name t') := by
  induction fuel generalizing fuel' name t t' with
  | zero => omega
  | succ fuel ih =>
    obtain ⟨fuel', rfl⟩ : ∃ k, fuel' = k + 1 := ⟨fuel' - 1, by omega⟩
    cases t with
    | nil =>
      obtain rfl | rfl := h.of_nil
      · simp [readEdgeName.go, hp, Agree]
      · trivial
    | cons c s =>
      obtain rfl := h.of_cons
      obtain ⟨hs, hlength, hlength'⟩ := skip_followed f.verbose s
      simp only [List.length_cons, List.length_append, List.length_nil] at hn hfuel hfuel'
      simp only [readEdgeName.go]
      split_ifs
      · exact ih hs (by omega) (by omega) (by omega) _
      · exact ⟨rfl, .visible s, by simp only; omega⟩
      · trivial

/-- A brace at the end of the text: nothing of it is read, if the parenthesis follows it. -/
def AtBrace (v : Bool) (s : List Char) : Prop := ∃ inner, s = '\x7b' :: inner ∧ skip v inner = [')']

theorem agree_readEdgeName (f : Flags) (h : Followed t t') (hn : t.length ≤ n) :
    Agree (Alike n) (fun x => Spent x ∨ x.1 = none ∧ AtBrace f.verbose x.2) (readEdgeName f t)
      (readEdgeName f t') := by
  match t, t', h with
  | [], _, h =>
    obtain rfl | rfl := h.of_nil
    · exact ⟨rfl, .visible [], Nat.zero_le _⟩
    · exact ⟨rfl, .hidden, Nat.zero_le _⟩
  | c :: inner, _, h =>
    obtain rfl := h.of_cons
    by_cases hc : c = '\x7b'
    · subst hc
      obtain ⟨hskip, hlength, hlength'⟩ := skip_followed f.verbose inner
      simp only [List.length_cons] at hn
      simp only [readEdgeName]
      generalize (if f.unicode = true then Words.unicode else Words.ascii) = words
      cases ht : skip f.verbose inner with
      | nil =>
        rw [ht] at hskip
        obtain ht' | ht' := hskip.of_nil
        · -- no name begins with a parenthesis, so the brace is left
          rw [ht']
          exact .inr ⟨rfl, _, rfl, ht'⟩
        · rw [ht']
          trivial
      | cons c u =>
        rw [ht] at hskip hlength
        have hfuel : (c :: u).length < inner.length + 1 := by omega
        have hfuel' : (c :: u ++ [')']).length < (inner ++ [')']).length + 1 := by simp_all
        have hgo := agree_readEdgeName_go f (fun c => c.isAlpha || c = '-') rfl (.visible (c :: u))
          (n := n) (by omega) hfuel hfuel' []
        rw [hskip.of_cons]
        simp only
        split_ifs
        · exact ⟨rfl, .visible ('\x7b' :: inner), by simp only [List.length_cons]; omega⟩
        obtain ⟨hx, hx'⟩ | ⟨hx, ⟨name, rest'⟩, hx', hD⟩ |
          ⟨⟨name, rest⟩, ⟨name', rest'⟩, hx, hx', rfl, hrest⟩ := hgo.cases
        · rw [List.cons_append] at hx'
          rw [hx, hx']
          trivial
        · rw [List.cons_append] at hx'
          rw [hx, hx']
          simp only
          split <;> first | exact .inl hD | trivial
        · rw [List.cons_append] at hx'
          rw [hx, hx']
          simp only
          split <;> first | exact ⟨rfl, hrest⟩ | trivial
    · have hother (s : List Char) : readEdgeName f (c :: s) = some (none, c :: s) := by
        simp only [readEdgeName]
        split
        · next heq => exact absurd (List.cons.inj heq).1 hc
        · rfl
      rw [hother, hother]
      exact ⟨rfl, .visible (c :: inner), hn⟩

/-! ## Escapes -/

/-- What only the parenthesis makes readable behind a backslash: nothing is
left, or it was a word edge in front of a brace. -/
def EscapeLate (v : Bool) (x : Escape × List Char) : Prop :=
  Spent x ∨ (∃ b, x.1 = .look b) ∧ AtBrace v x.2

/-- **Escapes are read the same with a parenthesis behind the text.** -/
theorem agree_readEscape (f : Flags) (h : Followed t t') (hn : t.length ≤ n + 1) :
    Agree (Alike n) (EscapeLate f.verbose) (readEscape f t) (readEscape f t') := by
  match t, t', h with
  | [], _, h =>
    obtain rfl | rfl := h.of_nil
    · -- the backslash takes the parenthesis
      have hself : readEscape f [')'] = some (.char ')' false, []) := rfl
      rw [hself]
      exact .inl rfl
    · trivial
  | c :: s, _, h =>
    obtain rfl := h.of_cons
    have hs := Followed.visible s
    have hlength : s.length ≤ n := by simpa using hn
    have hspent (x : Escape × List Char) (hx : Spent x) : EscapeLate f.verbose x := .inl hx
    have hread (x : Escape) :
        Agree (Alike n) (EscapeLate f.verbose) (some (x, s)) (some (x, s ++ [')'])) :=
      ⟨rfl, hs, hlength⟩
    have hedge (words : Words) :
        Agree (Alike n) (EscapeLate f.verbose)
          ((readEdgeName f s).map fun x => (.look (x.1.getD (.wordEdge words)), x.2))
          ((readEdgeName f (s ++ [')'])).map
            fun x => (.look (x.1.getD (.wordEdge words)), x.2)) := by
      rw [Option.map_eq_bind, Option.map_eq_bind]
      refine (agree_readEdgeName f hs hlength).bind ?_ ?_
      · rintro ⟨edge, rest⟩ ⟨edge', rest'⟩ ⟨rfl, hrest⟩
        exact ⟨rfl, hrest⟩
      · rintro ⟨edge, rest'⟩ hlate
        exact hlate.imp_right fun h => ⟨⟨_, rfl⟩, h.2⟩
    have hshorthand : Agree (Alike n) (EscapeLate f.verbose)
        ((shorthand? f c).map fun set => (.set set, s))
        ((shorthand? f c).map fun set => (.set set, s ++ [')'])) := by
      cases shorthand? f c with
      | none => trivial
      | some set => exact hread (.set set)
    unfold readEscape
    refine .ite (fun _ => (agree_readHex hs hlength (by decide)).mono hspent) fun _ => ?_
    refine .ite (fun _ => (agree_readHex hs hlength (by decide)).mono hspent) fun _ => ?_
    refine .ite (fun _ => (agree_readHex hs hlength (by decide)).mono hspent) fun _ => ?_
    refine .ite (fun _ => (agree_readProperty f _ hs hlength).mono hspent) fun _ => ?_
    refine .ite (fun _ => hshorthand) fun _ => ?_
    refine .ite (fun _ => hread _) fun _ => .ite (fun _ => hread _) fun _ => ?_
    refine .ite (fun _ => hread _) fun _ => .ite (fun _ => hread _) fun _ => ?_
    refine .ite (fun _ => hread _) fun _ => .ite (fun _ => hread _) fun _ => ?_
    refine .ite (fun _ => hread _) fun _ => .ite (fun _ => hread _) fun _ => ?_
    refine .ite (fun _ => hread _) fun _ => .ite (fun _ => hedge _) fun _ => ?_
    refine .ite (fun _ => hread _) fun _ => .ite (fun _ => hread _) fun _ => ?_
    exact .ite (fun _ => hread _) fun _ => trivial

end StreamFinder.Pattern
