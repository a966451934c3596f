import StreamFinder.Pattern.Reader
import StreamFinder.Proofs.Pattern.Bracketing

/-!
# Tokens with a parenthesis behind the text

A token is read the same with a closing parenthesis behind the text, but
for the parenthesis itself at the end. What only the parenthesis makes
readable is an escape, or a name of flags; then nothing is left to read, or
nothing that can be read.
-/

namespace StreamFinder.Pattern

open Text Reading

variable {v : Bool} {s s' t t' : List Char} {n : Nat} {r : Reading}

/-! ## Bounds -/

theorem Followed.dropBlanks (h : Followed t t') :
    Followed (t.dropWhile isBlank) (t'.dropWhile isBlank) := by
  cases h with
  | hidden => exact .hidden
  | visible =>
    have hp : isBlank ')' = false := by decide
    induction t with
    | nil => simpa [hp] using Followed.visible []
    | cons c s ih =>
      simp only [List.cons_append, List.dropWhile_cons]
      split
      · exact ih
      · exact .visible (c :: s)

theorem length_dropBlanks_le (s : List Char) : (s.dropWhile isBlank).length ≤ s.length :=
  (List.dropWhile_suffix _).length_le

theorem alike_readDigits (h : Followed t t') (hn : t.length ≤ n) {fuel fuel' : Nat}
    (hfuel : t.length < fuel) (hfuel' : t'.length < fuel') (digits : List Char) :
    Alike n (readDigits v fuel digits t) (readDigits v fuel' digits t') := by
  induction fuel generalizing fuel' digits t t' with
  | zero => omega
  | succ fuel ih =>
    obtain ⟨fuel', rfl⟩ : ∃ k, fuel' = k + 1 := ⟨fuel' - 1, by omega⟩
    cases t with
    | nil =>
      obtain rfl | rfl := h.of_nil
      · exact ⟨rfl, .visible [], Nat.zero_le _⟩
      · exact ⟨rfl, .hidden, Nat.zero_le _⟩
    | cons c s =>
      obtain rfl := h.of_cons
      obtain ⟨hs, hlength, hlength'⟩ := skip_followed v s
      simp only [List.length_cons, List.length_append, List.length_nil] at hn hfuel hfuel'
      simp only [readDigits]
      split
      · exact ih hs (by omega) (by omega) (by omega) _
      · exact ⟨rfl, .visible (c :: s), by simp only [List.length_cons]; omega⟩

theorem Followed.skipSpaces (h : Followed t t') (v : Bool) :
    Followed (Reading.skipSpaces v t) (Reading.skipSpaces v t') := by
  match t, t', h with
  | [], _, h => obtain rfl | rfl := h.of_nil <;> exact h
  | c :: s, _, h =>
    obtain rfl := h.of_cons
    simp only [Reading.skipSpaces]
    split
    · exact (Followed.visible (c :: s)).dropBlanks.skip v
    · exact .visible (c :: s)

theorem length_skipSpaces_le (v : Bool) (s : List Char) :
    (skipSpaces v s).length ≤ s.length := by
  unfold skipSpaces
  split
  · exact Nat.le_refl _
  · split
    · exact Nat.le_trans (length_skip_le v _) (length_dropBlanks_le _)
    · exact Nat.le_refl _

theorem agree_readCount (h : Followed t t') (hn : t.length ≤ n) :
    Agree (Alike n) (fun _ => False) (readCount v t) (readCount v t') := by
  have hdrop := h.dropBlanks
  have hlength := length_dropBlanks_le t
  have hlength' := length_dropBlanks_le t'
  have hfuel : (t.dropWhile isBlank).length < t.length + 1 := by omega
  have hfuel' : (t'.dropWhile isBlank).length < t'.length + 1 := by omega
  have hdigits := alike_readDigits (v := v) hdrop (n := n) (by omega) hfuel hfuel' []
  unfold readCount
  generalize readDigits v (t.length + 1) [] (t.dropWhile isBlank) = x at hdigits
  generalize readDigits v (t'.length + 1) [] (t'.dropWhile isBlank) = x' at hdigits
  obtain ⟨digits, rest⟩ := x
  obtain ⟨digits', rest'⟩ := x'
  obtain ⟨rfl, hrest, hn⟩ : digits = digits' ∧ Followed rest rest' ∧ rest.length ≤ n := hdigits
  cases digits with
  | nil => trivial
  | cons d digits =>
    exact .ite (fun _ => ⟨rfl, hrest.skipSpaces v,
      Nat.le_trans (length_skipSpaces_le v rest) hn⟩) fun _ => trivial

/-- Two bounds, when the brace closes behind them. -/
def closeBounds (min : Nat) (x : Nat × List Char) : Option (Nat × Option Nat × List Char) :=
  match x with
  | (max, '\x7d' :: rest) => if min ≤ max then some (min, some max, rest) else none
  | _ => none

/-- The bounds behind a comma. -/
def readMost (v : Bool) (min : Nat) (text : List Char) : Option (Nat × Option Nat × List Char) :=
  match text with
  | '\x7d' :: rest => some (min, none, rest)
  | text => (readCount v text).bind (closeBounds min)

/-- The bounds behind the first number. -/
def readLimits (v : Bool) (min : Nat) (text : List Char) : Option (Nat × Option Nat × List Char) :=
  match text with
  | '\x7d' :: rest => some (min, some min, rest)
  | ',' :: rest => readMost v min (skip v rest)
  | _ => none

theorem readBounds_eq (text : List Char) :
    readBounds v text = (readCount v (skip v text)).bind fun x => readLimits v x.1 x.2 := by
  unfold readBounds
  cases readCount v (skip v text) with
  | none => rfl
  | some x =>
    obtain ⟨min, rest⟩ := x
    simp only [Option.bind_some]
    split
    · rfl
    · next rest =>
      change _ = readMost v min (skip v rest)
      generalize skip v rest = u
      split
      · rfl
      · rw [readMost]
        · cases readCount v u with
          | none => rfl
          | some x =>
            simp only [Option.bind_some, closeBounds]
            split <;> simp_all
        · assumption
    · rw [readLimits] <;> assumption

theorem agree_readMost (min : Nat) (h : Followed t t') (hn : t.length ≤ n) :
    Agree (Alike₂ n) (fun _ => False) (readMost v min t) (readMost v min t') := by
  have hcount : Agree (Alike₂ n) (fun _ => False) ((readCount v t).bind (closeBounds min))
      ((readCount v t').bind (closeBounds min)) := by
    refine (agree_readCount h hn).bind ?_ fun _ => False.elim
    rintro ⟨max, rest⟩ ⟨max', rest'⟩ ⟨heq, hrest, hn⟩
    cases heq
    match rest, rest', hrest with
    | [], _, hrest => obtain rfl | rfl := hrest.of_nil <;> trivial
    | c :: s, _, hrest =>
      obtain rfl := hrest.of_cons
      simp only [List.length_cons] at hn
      by_cases hc : c = '\x7d'
      · subst hc
        exact .ite (fun _ => ⟨rfl, .visible s, by simp only; omega⟩) fun _ => trivial
      · simp only [closeBounds, List.cons.injEq, Prod.mk.injEq, hc, false_and, and_false, imp_self,
          implies_true]
        trivial
  match t, t', h with
  | [], _, h => obtain rfl | rfl := h.of_nil <;> exact hcount
  | c :: s, _, h =>
    obtain rfl := h.of_cons
    simp only [List.length_cons] at hn
    by_cases hc : c = '\x7d'
    · subst hc
      exact ⟨rfl, .visible s, by simp only; omega⟩
    · simp only [readMost, List.cons.injEq, hc, false_and, imp_self, implies_true]
      exact hcount

theorem agree_readLimits (min : Nat) (h : Followed t t') (hn : t.length ≤ n) :
    Agree (Alike₂ n) (fun _ => False) (readLimits v min t) (readLimits v min t') := by
  match t, t', h with
  | [], _, h => obtain rfl | rfl := h.of_nil <;> trivial
  | c :: s, _, h =>
    obtain rfl := h.of_cons
    simp only [List.length_cons] at hn
    by_cases hclose : c = '\x7d'
    · subst hclose
      exact ⟨rfl, .visible s, by simp only; omega⟩
    by_cases hcomma : c = ','
    · subst hcomma
      have hlength := length_skip_le v s
      exact agree_readMost min ((Followed.visible s).skip v) (by omega)
    · simp only [readLimits, List.cons.injEq, hclose, hcomma, false_and, imp_self, implies_true]
      trivial

theorem agree_readBounds (h : Followed t t') (hn : t.length ≤ n) :
    Agree (Alike₂ n) (fun _ => False) (readBounds v t) (readBounds v t') := by
  rw [readBounds_eq, readBounds_eq]
  have hlength := length_skip_le v t
  refine (agree_readCount (h.skip v) (Nat.le_trans hlength hn)).bind ?_ fun _ => False.elim
  rintro ⟨min, rest⟩ ⟨min', rest'⟩ ⟨heq, hrest, hn⟩
  cases heq
  exact agree_readLimits min hrest hn

/-- No bounds are read in front of the parenthesis. -/
theorem readBounds_parenthesis (h : skip v t = [')']) : readBounds v t = none := by
  have hcount : readCount v [')'] = none := by cases v <;> rfl
  rw [readBounds_eq, h, hcount]
  rfl

/-! ## Repetitions -/

/-- What the question mark behind an operator of repetition says. -/
def readLazily (text : List Char) : Bool × List Char :=
  match text with
  | '?' :: rest => (true, rest)
  | text => (false, text)

theorem alike_readLazily (h : Followed t t') (hn : t.length ≤ n) :
    Alike n (readLazily t) (readLazily t') := by
  refine alike_mark (c := '?') (by decide) (fun _ => rfl) (fun s hs => ?_) h hn
  rw [readLazily]
  rintro rest rfl
  exact hs rfl

/-- The last element repeated, unless there is none. -/
def repeated? (r : Reading) (min : Nat) (max : Option Nat) (lazily : Bool) : Option Reading :=
  match r.elements with
  | .item p :: elements =>
    let expr := Expr.repeated p.expr min max (lazily = r.flags.swapGreed)
    some { r with elements := .item ⟨expr, p.depth + 1⟩ :: elements }
  | _ => none

theorem repeatLast?_eq (min : Nat) (max : Option Nat) (text : List Char) :
    r.repeatLast? min max text =
      (repeated? r min max (readLazily text).1).map fun r => (r, (readLazily text).2) := by
  obtain ⟨elements, branches, opened, flags, groups, names⟩ := r
  match elements with
  | .item _ :: _ => rfl
  | [] | .flags :: _ => rfl

theorem agree_repeatLast? (h : Followed t t') (hn : t.length ≤ n) (min : Nat) (max : Option Nat) :
    Agree (Alike n) (fun _ => False) (r.repeatLast? min max t) (r.repeatLast? min max t') := by
  obtain ⟨heq, hrest⟩ := alike_readLazily h hn
  rw [repeatLast?_eq, repeatLast?_eq, heq]
  cases repeated? r min max (readLazily t').1 with
  | none => trivial
  | some r => exact ⟨rfl, hrest⟩

/-! ## Groups -/

theorem agree_readLetters (h : Followed t t') (hn : t.length ≤ n) (letters : List Char) :
    Agree (Alike₂ n) (fun x => Spent x.2) (Flags.readLetters letters t)
      (Flags.readLetters letters t') := by
  induction t generalizing t' letters with
  | nil => obtain rfl | rfl := h.of_nil <;> trivial
  | cons c s ih =>
    obtain rfl := h.of_cons
    simp only [List.length_cons] at hn
    by_cases hgroup : c = ':'
    · subst hgroup
      exact ⟨rfl, .visible s, by simp only; omega⟩
    by_cases hrest : c = ')'
    · subst hrest
      exact ⟨rfl, .visible s, by simp only; omega⟩
    · simp only [Flags.readLetters]
      exact .ite (fun _ => trivial) fun _ => ih (.visible s) (by omega) _

theorem agree_openNamed? (hn : s.length ≤ n) :
    Agree (Alike n) (fun _ => False) (r.openNamed? s) (r.openNamed? (s ++ [')'])) := by
  unfold openNamed?
  obtain ⟨a, c, b, hs, hs', hlength⟩ | ⟨hs, hs'⟩ := span_followed (p := (· ≠ '>')) rfl s
  · rw [hs, hs']
    match a with
    | [] => trivial
    | d :: name =>
      by_cases hc : c = '>'
      · subst hc
        exact .ite (fun _ => ⟨rfl, .visible b, by simp only; omega⟩) fun _ => trivial
      · simp only [Prod.mk.injEq, List.cons.injEq, hc, false_and, and_false, imp_self, implies_true]
        trivial
  · rw [hs, hs']
    cases s <;> trivial

/-- What an opening parenthesis begins. -/
inductive GroupMark where
  | look
  | named
  | flags
  | plain
deriving DecidableEq

/-- What an opening parenthesis begins, and the text behind the mark of it. -/
def groupMark : List Char → GroupMark × List Char
  | '?' :: '=' :: text => (.look, text)
  | '?' :: '!' :: text => (.look, text)
  | '?' :: '<' :: '=' :: text => (.look, text)
  | '?' :: '<' :: '!' :: text => (.look, text)
  | '?' :: 'P' :: '<' :: text => (.named, text)
  | '?' :: '<' :: text => (.named, text)
  | '?' :: text => (.flags, text)
  | text => (.plain, text)

theorem groupMark_followed (s : List Char) :
    groupMark (s ++ [')']) = ((groupMark s).1, (groupMark s).2 ++ [')']) := by
  rw [groupMark.eq_def s]
  split
  case h_6 text _ _ =>
    cases text <;> rw [List.cons_append, List.cons_append, groupMark] <;> simp_all
  case h_7 text _ _ _ _ _ _ =>
    match text with
    | [] | [_] | _ :: _ :: _ => rw [List.cons_append, groupMark] <;> simp_all
  case h_8 => cases s <;> rw [groupMark] <;> simp_all
  all_goals simp [groupMark]

theorem length_groupMark_le (s : List Char) : (groupMark s).2.length ≤ s.length := by
  rw [groupMark.eq_def s]
  split <;> simp <;> omega

/-- A reading when its flags are changed by letters, for a group or for the rest of one. -/
def changeFlags (r : Reading) (x : List Char × Flags.Ending × List Char) :
    Option (Reading × List Char) :=
  (Flags.change true x.1 r.flags).bind fun flags =>
    match x.2.1 with
    | .group => some (r.openGroup none flags, x.2.2)
    | .rest =>
      if x.1.isEmpty then none
      else some ({ r with flags := flags, elements := .flags :: r.elements }, x.2.2)

/-- A reading when a group with a number is opened. -/
def openPlain (r : Reading) : Reading :=
  { r with groups := r.groups + 1 }.openGroup (some (r.groups + 1)) r.flags

/-- An opening parenthesis by what it begins. -/
theorem openParenthesis?_eq (text : List Char) :
    r.openParenthesis? text =
      match groupMark (skip r.flags.verbose text) with
      | (.look, _) => none
      | (.named, text) => r.openNamed? text
      | (.flags, text) => (Flags.readLetters [] text).bind (changeFlags r)
      | (.plain, text) => some (openPlain r, text) := by
  unfold openParenthesis?
  generalize skip r.flags.verbose text = u
  split
  case h_7 text _ _ _ _ _ _ =>
    rw [groupMark] <;> try assumption
    simp only
    cases Flags.readLetters [] text with
    | none => rfl
    | some x =>
      obtain ⟨letters, ending, rest⟩ := x
      simp only [Option.bind_some, changeFlags]
      cases Flags.change true letters r.flags <;> cases ending <;> rfl
  all_goals rw [groupMark] <;> first | rfl | assumption

theorem agree_changeFlags (letters : List Char) (ending : Flags.Ending) (h : Followed t t')
    (hn : t.length ≤ n) :
    Agree (Alike n) (fun _ => False) (changeFlags r (letters, ending, t))
      (changeFlags r (letters, ending, t')) := by
  unfold changeFlags
  cases Flags.change true letters r.flags with
  | none => trivial
  | some flags =>
    cases ending with
    | group => exact ⟨rfl, h, hn⟩
    | rest => exact .ite (fun _ => trivial) fun _ => ⟨rfl, h, hn⟩

theorem spent_changeFlags (letters : List Char) (ending : Flags.Ending) :
    Agree (Alike n) Spent none (changeFlags r (letters, ending, [])) := by
  unfold changeFlags
  cases Flags.change true letters r.flags with
  | none => trivial
  | some flags =>
    cases ending with
    | group => exact rfl
    | rest =>
      simp only [Option.bind_some]
      split
      · trivial
      · exact rfl

theorem agree_openParenthesis? (hn : s.length ≤ n) :
    Agree (Alike n) Spent (r.openParenthesis? s) (r.openParenthesis? (s ++ [')'])) := by
  have hskip := (Followed.visible s).skip r.flags.verbose
  have hlength := length_skip_le r.flags.verbose s
  rw [openParenthesis?_eq, openParenthesis?_eq]
  generalize skip r.flags.verbose s = u at hskip hlength
  generalize skip r.flags.verbose (s ++ [')']) = u' at hskip
  cases hskip with
  | hidden =>
    -- a comment up to the end: the group has no content on either side
    exact ⟨rfl, .hidden, Nat.zero_le _⟩
  | visible =>
    rw [groupMark_followed]
    have hmark := length_groupMark_le u
    generalize groupMark u = x at hmark
    obtain ⟨mark, text⟩ := x
    have htext : text.length ≤ n := Nat.le_trans hmark (Nat.le_trans hlength hn)
    cases mark with
    | look => trivial
    | named => exact (agree_openNamed? htext).mono fun _ => False.elim
    | plain => exact ⟨rfl, .visible text, htext⟩
    | flags =>
      refine (agree_readLetters (.visible text) htext []).bind ?_ ?_
      · rintro ⟨letters, ending, rest⟩ ⟨letters', ending', rest'⟩ ⟨heq, hrest, hn⟩
        cases heq
        exact (agree_changeFlags letters ending hrest hn).mono fun _ => False.elim
      · rintro ⟨letters, ending, rest'⟩ hspent
        obtain rfl : rest' = [] := hspent
        exact spent_changeFlags letters ending

/-! ## Tokens -/

/-- What only the parenthesis makes readable: nothing is left, or a brace
that nothing can be read from. -/
def TokenLate (x : Reading × List Char) : Prop := Spent x ∨ AtBrace x.1.flags.verbose x.2

/-- A reading when an escape has been read. -/
def pushEscape (r : Reading) (x : Escape × List Char) : Option (Reading × List Char) :=
  match x with
  | (.char c byte, rest) => (literalSet? r.flags c byte).map fun s => (r.pushSet s, rest)
  | (.set s, rest) => some (r.pushSet s, rest)
  | (.look b, rest) => some (r.pushLook b, rest)

theorem agree_pushEscape {x x' : Option (Escape × List Char)}
    (h : Agree (Alike n) (EscapeLate r.flags.verbose) x x') :
    Agree (Alike n) TokenLate (x.bind (pushEscape r)) (x'.bind (pushEscape r)) := by
  refine h.bind ?_ ?_
  · rintro ⟨x, rest⟩ ⟨x', rest'⟩ ⟨rfl, hrest⟩
    cases x with
    | char c byte =>
      simp only [pushEscape]
      cases literalSet? r.flags c byte with
      | none => trivial
      | some s => exact ⟨rfl, hrest⟩
    | set s => exact ⟨rfl, hrest⟩
    | look b => exact ⟨rfl, hrest⟩
  · rintro ⟨x, rest'⟩ hlate
    cases x with
    | char c byte =>
      obtain hspent | ⟨⟨b, hb⟩, -⟩ := hlate
      · simp only [pushEscape]
        cases literalSet? r.flags c byte with
        | none => trivial
        | some s => exact .inl hspent
      · cases hb
    | set s => exact hlate.imp_right (·.2)
    | look b => exact hlate.imp_right (·.2)

theorem token?_backslash (text : List Char) :
    r.token? '\\' text = (readEscape r.flags text).bind (pushEscape r) := by
  unfold token?
  simp only [Char.reduceEq, if_false, if_true]
  cases readEscape r.flags text with
  | none => rfl
  | some x => obtain ⟨_ | _ | _, rest⟩ := x <;> rfl

theorem token?_brace (text : List Char) :
    r.token? '\x7b' text = (readBounds r.flags.verbose text).bind fun x =>
      r.repeatLast? x.1 x.2.1 (skip r.flags.verbose x.2.2) := rfl

/-- **A token is read the same with a parenthesis behind the text.** -/
theorem agree_token? (c : Char) (hn : s.length ≤ n) :
    Agree (Alike n) TokenLate (r.token? c s) (r.token? c (s ++ [')'])) := by
  have hs := Followed.visible s
  have hread (r : Reading) : Agree (Alike n) TokenLate (some (r, s)) (some (r, s ++ [')'])) :=
    ⟨rfl, hs, hn⟩
  have hmap (x : Option CodeSet) : Agree (Alike n) TokenLate (x.map fun set => (r.pushSet set, s))
      (x.map fun set => (r.pushSet set, s ++ [')'])) := by
    cases x with
    | none => trivial
    | some set => exact hread (r.pushSet set)
  have hrepeat (min : Nat) (max : Option Nat) :
      Agree (Alike n) TokenLate (r.repeatLast? min max s) (r.repeatLast? min max (s ++ [')'])) :=
    (agree_repeatLast? hs hn min max).mono fun _ => False.elim
  by_cases hescape : c = '\\'
  · subst hescape
    rw [token?_backslash, token?_backslash]
    exact agree_pushEscape (agree_readEscape r.flags hs (Nat.le_succ_of_le hn))
  unfold token?
  refine .ite (fun _ => (agree_openParenthesis? hn).mono fun _ => .inl) fun _ => ?_
  refine .ite (fun _ => ?_) fun _ => .ite (fun _ => hread _) fun _ => ?_
  · cases r.closeGroup? with
    | none => trivial
    | some r => exact hread r
  refine .ite (fun _ => ?_) fun _ => ?_
  · rw [Option.map_eq_bind, Option.map_eq_bind]
    refine (agree_readBracketed r.flags hn).bind ?_ fun _ => False.elim
    rintro ⟨set, depth, rest⟩ ⟨set', depth', rest'⟩ ⟨heq, hrest⟩
    cases heq
    exact ⟨rfl, hrest⟩
  refine .ite (fun _ => hrepeat 0 (some 1)) fun _ => .ite (fun _ => hrepeat 0 none) fun _ => ?_
  refine .ite (fun _ => hrepeat 1 none) fun _ => .ite (fun _ => ?_) fun _ => ?_
  · refine (agree_readBounds hs hn).bind ?_ fun _ => False.elim
    rintro ⟨min, max, rest⟩ ⟨min', max', rest'⟩ ⟨heq, hrest, hn⟩
    cases heq
    have hlength := length_skip_le r.flags.verbose rest
    exact (agree_repeatLast? (hrest.skip _) (Nat.le_trans hlength hn) min max).mono
      fun _ => False.elim
  refine .ite (fun _ => hmap (dot? r.flags)) fun _ => .ite (fun _ => hread _) fun _ => ?_
  refine .ite (fun _ => hread _) fun _ => .ite (fun hc => absurd hc hescape) fun _ => ?_
  exact hmap (literalSet? r.flags c false)

end StreamFinder.Pattern
