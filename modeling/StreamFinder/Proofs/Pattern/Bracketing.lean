import Mathlib.Data.List.TakeDrop
import StreamFinder.Pattern.Bracket
import StreamFinder.Proofs.Pattern.Escaping

/-!
# Sets in brackets with a parenthesis behind the text

A set in brackets must be closed by its bracket. So a parenthesis behind
the text is of no use to one that is not: in the set it is a member like
any other, and the bracket is still missing. Inside, the readers of the
parts of a set may well stop in front of that parenthesis where the text by
itself ended too early for them.
-/

namespace StreamFinder.Pattern

open Text

variable {v : Bool} {s s' t t' : List Char} {n : Nat}

/-- What is read up to a mark is the same, unless the mark is missing; then
it is missing behind the parenthesis, too. -/
theorem span_followed {p : Char → Bool} (hp : p ')' = true) (s : List Char) :
    (∃ a c b, s.span p = (a, c :: b) ∧ (s ++ [')']).span p = (a, c :: (b ++ [')'])) ∧
        b.length < s.length) ∨
      s.span p = (s, []) ∧ (s ++ [')']).span p = (s ++ [')'], []) := by
  simp only [List.span_eq_takeWhile_dropWhile]
  induction s with
  | nil => simp [hp]
  | cons c s ih =>
    cases hc : p c with
    | false => simp [hc]
    | true =>
      simp only [List.cons_append, List.takeWhile_cons_of_pos hc, List.dropWhile_cons_of_pos hc]
      obtain ⟨a, d, b, hs, hs', hlength⟩ | ⟨hs, hs'⟩ := ih
      · simp only [Prod.mk.injEq] at hs hs'
        exact .inl ⟨c :: a, d, b, by simp [hs], by simp [hs'], by simp; omega⟩
      · simp only [Prod.mk.injEq] at hs hs'
        exact .inr ⟨by simp [hs], by simp [hs']⟩

/-- A mark in front of a text that is no parenthesis is seen the same. -/
theorem alike_mark {mark : List Char → Bool × List Char} {c : Char} (hc : c ≠ ')')
    (hyes : ∀ s, mark (c :: s) = (true, s)) (hno : ∀ s, s.head? ≠ some c → mark s = (false, s))
    (h : Followed t t') (hn : t.length ≤ n) : Alike n (mark t) (mark t') := by
  match t, t', h with
  | [], _, h =>
    obtain rfl | rfl := h.of_nil
    · rw [hno [] (by simp), hno [')'] (by simpa using hc.symm)]
      exact ⟨rfl, h, hn⟩
    · rw [hno [] (by simp)]
      exact ⟨rfl, h, hn⟩
  | d :: s, _, h =>
    obtain rfl := h.of_cons
    simp only [List.length_cons] at hn
    by_cases hd : d = c
    · subst hd
      rw [hyes, hyes]
      exact ⟨rfl, .visible s, by simp only; omega⟩
    · rw [hno _ (by simpa using hd), hno _ (by simpa using hd)]
      exact ⟨rfl, h, hn⟩

/-! ## Named sets -/

/-- The named set behind its colon and perhaps a caret. -/
def readClassName (f : Flags) (negated : Bool) (text : List Char) : Option (CodeSet × List Char) :=
  match text.span (· ≠ ':') with
  | (name, ':' :: ']' :: rest) =>
    match asciiNamed? (String.ofList name) with
    | some s => (closedSet? f negated s).map fun s => (s, rest)
    | none => none
  | _ => none

/-- Whether a caret stands in front of a text, and the text behind it. -/
def caretMark (text : List Char) : Bool × List Char :=
  match text with
  | '^' :: text => (true, text)
  | text => (false, text)

theorem alike_caretMark (h : Followed t t') (hn : t.length ≤ n) :
    Alike n (caretMark t) (caretMark t') := by
  refine alike_mark (c := '^') (by decide) (fun _ => rfl) (fun s hs => ?_) h hn
  rw [caretMark]
  rintro rest rfl
  exact hs rfl

theorem readAsciiClass_colon (f : Flags) (s : List Char) :
    readAsciiClass f (':' :: s) = readClassName f (caretMark s).1 (caretMark s).2 := rfl

theorem readAsciiClass_other (f : Flags) (ht : t.head? ≠ some ':') :
    readAsciiClass f t = none := by
  unfold readAsciiClass
  split
  · exact absurd rfl ht
  · rfl

theorem agree_readClassName (f : Flags) (negated : Bool) (h : Followed s s') (hn : s.length ≤ n) :
    Agree (Alike n) (fun _ => False) (readClassName f negated s) (readClassName f negated s') := by
  cases h with
  | hidden => trivial
  | visible =>
    unfold readClassName
    obtain ⟨a, c, b, hs, hs', hlength⟩ | ⟨hs, hs'⟩ := span_followed (p := (· ≠ ':')) rfl s
    · rw [hs, hs']
      by_cases hc : c = ':'
      · subst hc
        match b with
        | [] => trivial
        | d :: rest =>
          by_cases hd : d = ']'
          · subst hd
            simp only [List.cons_append]
            cases asciiNamed? (String.ofList a) with
            | none => trivial
            | some set =>
              simp only
              cases closedSet? f negated set with
              | none => trivial
              | some set => exact ⟨rfl, .visible rest, by simp at hlength ⊢; omega⟩
          · simp only [List.cons_append, Prod.mk.injEq, List.cons.injEq, hd, false_and, and_false,
              imp_self, implies_true]
            trivial
      · simp only [Prod.mk.injEq, List.cons.injEq, hc, false_and, and_false, imp_self, implies_true]
        trivial
    · rw [hs, hs']
      trivial

theorem agree_readAsciiClass (f : Flags) (h : Followed t t') (hn : t.length ≤ n) :
    Agree (Alike n) (fun _ => False) (readAsciiClass f t) (readAsciiClass f t') := by
  match t, t', h with
  | [], _, h => obtain rfl | rfl := h.of_nil <;> trivial
  | c :: s, _, h =>
    obtain rfl := h.of_cons
    simp only [List.length_cons] at hn
    by_cases hc : c = ':'
    · subst hc
      obtain ⟨hnegated, hrest, hlength⟩ := alike_caretMark (n := n) (.visible s) (by omega)
      rw [readAsciiClass_colon, readAsciiClass_colon, ← hnegated]
      exact agree_readClassName f _ hrest hlength
    · rw [readAsciiClass_other f (by simpa using hc), readAsciiClass_other f (by simpa using hc)]
      trivial

/-- Whether a named set begins is seen the same way. -/
theorem startsAsciiClass_followed (h : Followed t t') :
    startsAsciiClass t' = startsAsciiClass t := by
  unfold startsAsciiClass
  obtain ⟨hx, hx'⟩ | ⟨-, _, -, hD⟩ | ⟨_, _, hx, hx', -⟩ :=
    (agree_readAsciiClass .initial h (Nat.le_refl _)).cases
  · rw [hx, hx']
  · exact absurd hD id
  · rw [hx, hx']
    rfl

/-! ## Members and ranges -/

/-- A character as a member; in ASCII mode one beyond ASCII is none. -/
def memberOf (f : Flags) (c : Char) (rest : List Char) : Option (Member × List Char) :=
  if f.unicode || c.toNat < 128 then some (.char c, rest) else none

theorem readMember_char (f : Flags) {c : Char} (hc : c ≠ '\\') (s : List Char) :
    readMember f (c :: s) = memberOf f c s := by
  rw [readMember]
  · rfl
  · exact hc

theorem agree_memberOf (f : Flags) (c : Char) (h : Followed s s') (hn : s.length ≤ n) :
    Agree (Alike n) Spent (memberOf f c s) (memberOf f c s') :=
  .ite (fun _ => ⟨rfl, h, hn⟩) fun _ => trivial

/-- What a member becomes that is written with a backslash. -/
def escaped (f : Flags) (x : Escape × List Char) : Option (Member × List Char) :=
  match x with
  | (.char c _, rest) => memberOf f c rest
  | (.set s, rest) => some (.set s, rest)
  | (.look _, _) => none

theorem readMember_escape (f : Flags) (s : List Char) :
    readMember f ('\\' :: s) = (readEscape f s).bind (escaped f) := by
  simp only [readMember]
  cases readEscape f s with
  | none => rfl
  | some x => obtain ⟨_ | _ | _, rest⟩ := x <;> rfl

theorem spent_memberOf (f : Flags) (c : Char) :
    Agree (Alike n) Spent none (memberOf f c []) := by
  unfold memberOf
  split
  · exact rfl
  · trivial

theorem agree_readMember (f : Flags) (h : Followed t t') (hn : t.length ≤ n + 1) :
    Agree (Alike n) Spent (readMember f t) (readMember f t') := by
  match t, t', h with
  | [], _, h =>
    obtain rfl | rfl := h.of_nil
    · exact spent_memberOf f ')'
    · trivial
  | c :: s, _, h =>
    obtain rfl := h.of_cons
    have hlength : s.length ≤ n := by simpa using hn
    by_cases hc : c = '\\'
    · subst hc
      rw [readMember_escape, readMember_escape]
      refine (agree_readEscape f (.visible s) (Nat.le_succ_of_le hlength)).bind ?_ ?_
      · rintro ⟨x, rest⟩ ⟨x', rest'⟩ ⟨rfl, hrest⟩
        cases x with
        | char c byte => exact agree_memberOf f c hrest.1 hrest.2
        | set s => exact ⟨rfl, hrest⟩
        | look b => trivial
      · rintro ⟨x, rest'⟩ (rfl | ⟨⟨b, rfl⟩, -⟩)
        · cases x with
          | char c byte => exact spent_memberOf f c
          | set s => exact rfl
          | look b => trivial
        · trivial
    · rw [readMember_char f hc, readMember_char f hc]
      exact agree_memberOf f c (.visible s) hlength

/-- Nothing is left, or the parenthesis only. -/
def NearlySpent {α : Type} (x : α × List Char) : Prop := x.2 = [] ∨ x.2 = [')']

theorem NearlySpent.skip {α : Type} {x : α × List Char} (h : NearlySpent x) :
    skip v x.2 = [] ∨ skip v x.2 = [')'] := by
  obtain h | h := h <;> rw [h] <;> cases v
  · exact .inl rfl
  · exact .inl rfl
  · exact .inr rfl
  · exact .inr rfl

/-- The range between two characters. -/
def rangeTo (first : Member) (x : Member × List Char) : Option (CodeSet × List Char) :=
  match first, x with
  | .char a, (.char b, rest) => if a ≤ b then some (.ofChars a b, rest) else none
  | _, _ => none

/-- What a range becomes behind its first member, when remarks have been skipped. -/
def readRangeEnd (f : Flags) (first : Member) (text : List Char) : Option (CodeSet × List Char) :=
  match text with
  | [] => none
  | '-' :: behind =>
    match skip f.verbose behind with
    | [] => none
    | c :: rest =>
      if c = ']' ∨ c = '-' then some (first.toSet, text)
      else (readMember f (c :: rest)).bind (rangeTo first)
  | rest => some (first.toSet, rest)

theorem readRange_eq (f : Flags) (text : List Char) :
    readRange f text =
      (readMember f text).bind fun (first, rest) => readRangeEnd f first (skip f.verbose rest) := by
  unfold readRange readRangeEnd
  cases readMember f text with
  | none => rfl
  | some x =>
    obtain ⟨first, rest⟩ := x
    simp only [Option.bind_some]
    generalize skip f.verbose rest = rest
    cases rest with
    | nil => rfl
    | cons c s =>
      by_cases hc : c = '-'
      · subst hc
        simp only
        cases skip f.verbose s with
        | nil => rfl
        | cons d u =>
          simp only
          split
          · rfl
          · cases readMember f (d :: u) with
            | none => cases first <;> rfl
            | some x => obtain ⟨_ | _, rest⟩ := x <;> cases first <;> rfl
      · simp only [List.cons.injEq, hc, false_and, imp_self, implies_true]

theorem agree_rangeTo (first : Member) {x x' : Option (Member × List Char)}
    (h : Agree (Alike n) Spent x x') :
    Agree (Alike n) Spent (x.bind (rangeTo first)) (x'.bind (rangeTo first)) := by
  refine h.bind ?_ ?_
  · rintro ⟨m, rest⟩ ⟨m', rest'⟩ ⟨rfl, hrest⟩
    match first, m with
    | .char a, .char b => exact .ite (fun _ => ⟨rfl, hrest⟩) fun _ => trivial
    | .char _, .set _ | .set _, _ => trivial
  · rintro ⟨m, rest'⟩ rfl
    match first, m with
    | .char a, .char b =>
      simp only [rangeTo]
      split <;> trivial
    | .char _, .set _ | .set _, _ => trivial

theorem agree_readRangeEnd (f : Flags) (first : Member) (h : Followed t t') (hn : t.length ≤ n) :
    Agree (Alike n) NearlySpent (readRangeEnd f first t) (readRangeEnd f first t') := by
  match t, t', h with
  | [], _, h =>
    obtain rfl | rfl := h.of_nil
    · exact .inr rfl
    · trivial
  | c :: s, _, h =>
    obtain rfl := h.of_cons
    by_cases hc : c = '-'
    · subst hc
      have hskip := (Followed.visible s).skip f.verbose
      have hlength := length_skip_le f.verbose s
      rw [List.length_cons] at hn
      simp only [readRangeEnd]
      cases hs : skip f.verbose s with
      | nil =>
        rw [hs] at hskip
        obtain hs' | hs' := hskip.of_nil
        · rw [hs']
          simp only
          rw [if_neg (by decide)]
          exact (agree_rangeTo first (agree_readMember (n := n) f (.visible []) (by simp))).mono
            fun _ => .inl
        · rw [hs']
          trivial
      | cons d u =>
        rw [hs] at hskip hlength
        rw [hskip.of_cons]
        refine .ite (fun _ => ⟨rfl, .visible ('-' :: s), hn⟩) fun _ => ?_
        exact (agree_rangeTo first (agree_readMember f (.visible (d :: u)) (by omega))).mono
          fun _ => .inl
    · have hend (s : List Char) : readRangeEnd f first (c :: s) = some (first.toSet, c :: s) := by
        simp only [readRangeEnd, List.cons.injEq, hc, false_and, imp_self, implies_true]
      rw [hend, hend]
      exact ⟨rfl, .visible (c :: s), hn⟩

theorem agree_readRange (f : Flags) (h : Followed t t') (hn : t.length ≤ n + 1) :
    Agree (Alike n) NearlySpent (readRange f t) (readRange f t') := by
  rw [readRange_eq, readRange_eq]
  refine (agree_readMember f h hn).bind ?_ ?_
  · rintro ⟨m, rest⟩ ⟨m', rest'⟩ ⟨rfl, hrest, hn⟩
    exact agree_readRangeEnd f m (hrest.skip _) (Nat.le_trans (length_skip_le f.verbose rest) hn)
  · -- behind a member that took the parenthesis there is no text, and no range
    rintro ⟨m, rest'⟩ rfl
    simp only [skip_nil]
    trivial

/-! ## The opening of a set -/

theorem agree_readHyphens (h : Followed t t') (hn : t.length ≤ n) {fuel fuel' : Nat}
    (hfuel : t.length < fuel) (hfuel' : t'.length < fuel') (m : Members) :
    Agree (Alike n) NearlySpent (readHyphens v fuel m t) (readHyphens v fuel' m t') := by
  induction fuel generalizing fuel' m t t' with
  | zero => omega
  | succ fuel ih =>
    obtain ⟨fuel', rfl⟩ : ∃ k, fuel' = k + 1 := ⟨fuel' - 1, by omega⟩
    match t, t', h with
    | [], _, h =>
      obtain rfl | rfl := h.of_nil
      · exact .inr rfl
      · trivial
    | c :: s, _, h =>
      obtain rfl := h.of_cons
      by_cases hc : c = '-'
      · subst hc
        obtain ⟨hs, hlength, hlength'⟩ := skip_followed v s
        simp only [List.length_cons, List.length_append, List.length_nil] at hn hfuel hfuel'
        exact ih hs (by omega) (by omega) (by omega) _
      · have hend (fuel : Nat) (s : List Char) :
            readHyphens v (fuel + 1) m (c :: s) = some (m, c :: s) := by
          simp only [readHyphens, List.cons.injEq, hc, false_and, imp_self, implies_true]
        rw [hend, hend]
        exact ⟨rfl, .visible (c :: s), hn⟩

/-- The text behind the caret of a set, if there is one. -/
def afterCaret (v : Bool) (text : List Char) : Bool × List Char :=
  match skip v text with
  | '^' :: text => (true, skip v text)
  | text => (false, text)

/-- The opening of a set behind its hyphens: without one, a closing bracket is a member. -/
def openingEnd (v : Bool) (negated : Bool) (x : Members × List Char) :
    Option (Bool × Members × List Char) :=
  if x.1.count ≠ 0 then some (negated, x)
  else
    match x.2 with
    | ']' :: text =>
      match skip v text with
      | [] => none
      | text => some (negated, Members.empty.add (.single ']'.toNat) 0, text)
    | text => some (negated, x.1, text)

theorem readOpening_eq (v : Bool) (text : List Char) :
    readOpening v text =
      (readHyphens v ((afterCaret v text).2.length + 1) .empty (afterCaret v text).2).bind
        (openingEnd v (afterCaret v text).1) := by
  unfold readOpening afterCaret
  generalize skip v text = s
  cases s with
  | nil => rfl
  | cons c s =>
    by_cases hc : c = '^'
    · subst hc
      simp only
      cases readHyphens v ((skip v s).length + 1) .empty (skip v s) <;> rfl
    · simp only [List.cons.injEq, hc, false_and, imp_self, implies_true]
      cases readHyphens v ((c :: s).length + 1) .empty (c :: s) <;> rfl

theorem afterCaret_followed (h : Followed t t') :
    (afterCaret v t').1 = (afterCaret v t).1 ∧ Followed (afterCaret v t).2 (afterCaret v t').2 ∧
      (afterCaret v t).2.length ≤ t.length := by
  have hskip := h.skip v
  have hlength := length_skip_le v t
  unfold afterCaret
  generalize skip v t = u at hskip hlength
  generalize skip v t' = u' at hskip
  match u, u', hskip with
  | [], _, hskip => obtain rfl | rfl := hskip.of_nil <;> exact ⟨rfl, hskip, Nat.zero_le _⟩
  | c :: s, _, hskip =>
    obtain rfl := hskip.of_cons
    by_cases hc : c = '^'
    · subst hc
      have := length_skip_le v s
      exact ⟨rfl, (Followed.visible s).skip v, by simp only [List.length_cons] at *; omega⟩
    · simp only [List.cons.injEq, hc, false_and, imp_self, implies_true, true_and]
      exact ⟨.visible (c :: s), hlength⟩

theorem agree_openingEnd (negated : Bool) {x x' : Option (Members × List Char)}
    (h : Agree (Alike n) NearlySpent x x') :
    Agree (Alike₂ n) (fun x => NearlySpent x.2) (x.bind (openingEnd v negated))
      (x'.bind (openingEnd v negated)) := by
  refine h.bind ?_ ?_
  · rintro ⟨m, rest⟩ ⟨m', rest'⟩ ⟨rfl, hrest, hn⟩
    refine .ite (fun _ => ⟨rfl, hrest, hn⟩) fun _ => ?_
    match rest, rest', hrest with
    | [], _, hrest => obtain rfl | rfl := hrest.of_nil <;> exact ⟨rfl, hrest, Nat.zero_le _⟩
    | c :: s, _, hrest =>
      obtain rfl := hrest.of_cons
      by_cases hc : c = ']'
      · subst hc
        have hs := (Followed.visible s).skip v
        have hlength := length_skip_le v s
        simp only [List.length_cons] at hn
        simp only
        generalize skip v s = u at hs hlength
        generalize skip v (s ++ [')']) = u' at hs
        cases u with
        | nil =>
          obtain rfl | rfl := hs.of_nil
          · exact .inr rfl
          · trivial
        | cons d u =>
          obtain rfl := hs.of_cons
          exact ⟨rfl, hs, by simp only; omega⟩
      · simp only [List.cons.injEq, hc, false_and, imp_self, implies_true]
        exact ⟨rfl, hrest, hn⟩
  · rintro ⟨m, rest'⟩ hlate
    simp only [openingEnd]
    split
    · exact hlate
    · obtain rfl | rfl : rest' = [] ∨ rest' = [')'] := hlate
      · exact .inl rfl
      · exact .inr rfl

theorem agree_readOpening (h : Followed t t') (hn : t.length ≤ n) :
    Agree (Alike₂ n) (fun x => NearlySpent x.2) (readOpening v t) (readOpening v t') := by
  obtain ⟨hnegated, hrest, hlength⟩ := afterCaret_followed (v := v) h
  rw [readOpening_eq, readOpening_eq, hnegated]
  exact agree_openingEnd _ (agree_readHyphens hrest (by omega) (by omega) (by omega) _)

/-! ## Sets -/

/-- What comes next in a set. -/
inductive SetMark where
  | nothing
  | opening
  | closing
  | op (kind : SetOp)
  | member
deriving DecidableEq

/-- What comes next in a set, and the text behind it; a member is left in the text. -/
def setMark : List Char → SetMark × List Char
  | [] => (.nothing, [])
  | '[' :: text => (.opening, text)
  | ']' :: text => (.closing, text)
  | '&' :: '&' :: text => (.op .inter, text)
  | '-' :: '-' :: text => (.op .diff, text)
  | '~' :: '~' :: text => (.op .symmDiff, text)
  | text => (.member, text)

theorem setMark_followed (c : Char) (s : List Char) :
    setMark (c :: (s ++ [')'])) = ((setMark (c :: s)).1, (setMark (c :: s)).2 ++ [')']) := by
  rw [setMark.eq_def (c :: s)]
  split
  case h_7 =>
    cases s <;> rw [setMark] <;> simp_all
  all_goals simp_all [setMark]

/-- Behind a mark less is left; a member is left in the text. -/
theorem length_setMark (c : Char) (s : List Char) :
    (setMark (c :: s)).2.length ≤ s.length ∨
      (setMark (c :: s)).1 = .member ∧ (setMark (c :: s)).2.length ≤ s.length + 1 := by
  rw [setMark.eq_def (c :: s)]
  split <;> simp_all

/-- Read on in a set behind what comes next. -/
def readMarked (f : Flags) (fuel : Nat) (stack : List Pending) (members : Members) :
    SetMark × List Char → Option (CodeSet × Nat × List Char)
  | (.nothing, _) => none
  | (.opening, text) =>
    if startsAsciiClass text then
      (readAsciiClass f text).bind fun x => readSet f fuel stack (members.add x.1 0) x.2
    else
      (readOpening f.verbose text).bind fun x =>
        readSet f fuel (.bracket members x.1 :: stack) x.2.1 x.2.2
  | (.closing, text) =>
    match applyPending f members stack with
    | (whole, depth, .bracket outer negated :: stack) =>
      (closedSet? f negated whole).bind fun s =>
        if stack.isEmpty then some (s, depth + 1, text)
        else readSet f fuel stack (outer.add s (depth + 1)) text
    | _ => none
  | (.op kind, text) =>
    let (left, depth, stack) := applyPending f members stack
    readSet f fuel (.op kind left depth :: stack) .empty text
  | (.member, text) =>
    (readRange f text).bind fun x => readSet f fuel stack (members.add x.1 0) x.2

/-- A set by what comes next in it. -/
theorem readSet_succ (f : Flags) (fuel : Nat) (stack : List Pending) (members : Members)
    (text : List Char) :
    readSet f (fuel + 1) stack members text =
      readMarked f fuel stack members (setMark (skip f.verbose text)) := by
  rw [readSet]
  generalize skip f.verbose text = u
  simp only
  split
  · rfl
  · next text =>
    simp only [setMark, readMarked]
    split
    · cases readAsciiClass f text <;> rfl
    · cases readOpening f.verbose text <;> rfl
  · next text =>
    simp only [setMark, readMarked]
    rcases applyPending f members stack with ⟨whole, depth, _ | ⟨⟨outer, negated⟩ | _, stack⟩⟩
    · rfl
    · simp only
      cases closedSet? f negated whole <;> rfl
    · rfl
  · rfl
  · rfl
  · rfl
  · rw [setMark]
    · simp only [readMarked]
      cases readRange f u <;> rfl
    all_goals assumption

/-- A set that is not closed in front of the parenthesis is not closed at all. -/
theorem readSet_nearlySpent (f : Flags) (fuel : Nat) (stack : List Pending) (members : Members)
    (h : skip f.verbose t = [] ∨ skip f.verbose t = [')']) :
    readSet f fuel stack members t = none := by
  cases fuel with
  | zero => rfl
  | succ fuel =>
    rw [readSet_succ]
    obtain h | h := h
    · rw [h]
      rfl
    · have hmark : setMark [')'] = (.member, [')']) := rfl
      have hrange : readRange f [')'] = none := by
        rw [readRange_eq, readMember_char f (by decide)]
        unfold memberOf
        split
        · simp only [Option.bind_some, skip_nil]
          rfl
        · rfl
      rw [h, hmark, readMarked, hrange]
      rfl

/-- **Sets in brackets are read the same with a parenthesis behind the text.** -/
theorem agree_readSet (f : Flags) (h : Followed t t') (hn : t.length ≤ n) {fuel fuel' : Nat}
    (hfuel : t.length < fuel) (hfuel' : t'.length < fuel') (stack : List Pending)
    (members : Members) :
    Agree (Alike₂ n) (fun _ => False) (readSet f fuel stack members t)
      (readSet f fuel' stack members t') := by
  induction fuel generalizing fuel' stack members t t' with
  | zero => omega
  | succ fuel ih =>
    obtain ⟨fuel', rfl⟩ : ∃ k, fuel' = k + 1 := ⟨fuel' - 1, by omega⟩
    have hskip := h.skip f.verbose
    have hlength := length_skip_le f.verbose t
    have hlength' := length_skip_le f.verbose t'
    cases hu : skip f.verbose t with
    | nil =>
      rw [hu] at hskip
      rw [readSet_nearlySpent f _ _ _ (.inl hu), readSet_nearlySpent f _ _ _ hskip.of_nil.symm]
      trivial
    | cons c s =>
      rw [hu] at hskip hlength
      have hu' := hskip.of_cons
      rw [hu'] at hlength'
      simp only [List.length_cons, List.length_append, List.length_nil] at hlength hlength'
      -- behind what is read here less is left on both sides
      have hgo {rest rest' : List Char} (hrest : Followed rest rest') (hle : rest.length ≤ s.length)
          (stack : List Pending) (members : Members) :
          Agree (Alike₂ n) (fun _ => False) (readSet f fuel stack members rest)
            (readSet f fuel' stack members rest') :=
        ih hrest (by omega) (by omega) (by have := hrest.length_le; omega) _ _
      rw [readSet_succ, readSet_succ, hu, hu', setMark_followed]
      have hmark := length_setMark c s
      generalize setMark (c :: s) = x at hmark
      obtain ⟨mark, text⟩ := x
      have hle (hmember : mark ≠ .member) : text.length ≤ s.length :=
        hmark.resolve_right fun h => hmember h.1
      cases mark with
      | nothing => trivial
      | opening =>
        simp only [readMarked, startsAsciiClass_followed (.visible text)]
        refine .ite (fun _ => ?_) fun _ => ?_
        · have hclass := agree_readAsciiClass f (.visible text) (hle (by decide))
          refine hclass.bind ?_ fun _ => False.elim
          rintro ⟨set, rest⟩ ⟨set', rest'⟩ ⟨rfl, hrest, hshort⟩
          exact hgo hrest hshort _ _
        · refine (agree_readOpening (.visible text) (hle (by decide))).bind ?_ ?_
          · rintro ⟨negated, m, rest⟩ ⟨negated', m', rest'⟩ ⟨heq, hrest, hshort⟩
            cases heq
            exact hgo hrest hshort _ _
          · -- an opening that the parenthesis ends, without members and bracket
            rintro ⟨negated, m, rest'⟩ hlate
            simp only [readSet_nearlySpent f _ _ _ hlate.skip]
            trivial
      | closing =>
        simp only [readMarked]
        rcases applyPending f members stack with ⟨whole, depth, _ | ⟨⟨outer, negated⟩ | _, stack⟩⟩
        · trivial
        · simp only
          cases closedSet? f negated whole with
          | none => trivial
          | some set =>
            have hshort : text.length ≤ s.length := hle (by decide)
            refine .ite (fun _ => ⟨rfl, .visible text, ?_⟩) fun _ => hgo (.visible text) hshort _ _
            simp only
            omega
        · trivial
      | op kind => exact hgo (.visible text) (hle (by simp)) _ _
      | member =>
        have hshort : text.length ≤ s.length + 1 := hmark.elim Nat.le_succ_of_le (·.2)
        refine (agree_readRange f (.visible text) hshort).bind ?_ ?_
        · rintro ⟨set, rest⟩ ⟨set', rest'⟩ ⟨rfl, hrest, hshort⟩
          exact hgo hrest hshort _ _
        · rintro ⟨set, rest'⟩ hlate
          simp only [readSet_nearlySpent f _ _ _ hlate.skip]
          trivial

/-- **A set is read the same from its opening bracket on.** -/
theorem agree_readBracketed (f : Flags) (hn : t.length ≤ n) :
    Agree (Alike₂ n) (fun _ => False) (readBracketed f t) (readBracketed f (t ++ [')'])) := by
  have heq (t : List Char) : readBracketed f t =
      (readOpening f.verbose t).bind fun (negated, start, rest) =>
        readSet f (t.length + 1) [.bracket .empty negated] start rest := by
    unfold readBracketed
    cases readOpening f.verbose t <;> rfl
  rw [heq, heq]
  refine (agree_readOpening (.visible t) (Nat.le_refl _)).bind ?_ ?_
  · rintro ⟨negated, m, rest⟩ ⟨negated', m', rest'⟩ ⟨heq, hrest, hshort⟩
    cases heq
    have hlength' := hrest.length_le
    simp only at hshort hlength'
    -- the fuel is reckoned from the text with the bracket, so it is enough for the rest
    refine agree_readSet f hrest (by simp only; omega) ?_ ?_ _ _
    · simp only
      omega
    · simp only [List.length_append, List.length_cons, List.length_nil]
      omega
  · rintro ⟨negated, m, rest'⟩ hlate
    simp only [readSet_nearlySpent f _ _ _ hlate.skip]
    trivial

end StreamFinder.Pattern
