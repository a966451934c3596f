import StreamFinder.Pattern.NamedSet

/-!
# Expressions: what a pattern is made of

A pattern is an expression over sets of characters. Where an expression
can match in more ways than one, the order of its alternatives counts: a
greedy repetition would rather go on than stop, a lazy one would rather
stop, and of two alternatives the first is tried first.

Expressions are built in a simple form (`Expr.sequence`, `Expr.choice`,
`Expr.repeated`): sequences and alternatives lean to the right and have no
empty parts, alternatives between characters or between sets are one set,
and what all alternatives begin with stands in front of them.
-/

namespace StreamFinder.Pattern

open Text

/-- What counts as part of a word. -/
inductive Words where
  | ascii
  | unicode
deriving DecidableEq, Repr, Hashable

/-- Whether a character is part of a word. -/
def Words.has : Words → Char → Bool
  | .ascii, c => asciiWordCharacters.hasChar c
  | .unicode, c => wordCharacters.hasChar c

/-- A condition on the place between two characters. -/
inductive Boundary where
  /-- Before the first character. -/
  | textStart
  /-- After the last character. -/
  | textEnd
  /-- After a line feed, or at the start. -/
  | lineStart
  /-- Before a line feed, or at the end. -/
  | lineEnd
  /-- At the start of a line, where a carriage return with or without a line feed also ends one. -/
  | lineStartCrlf
  /-- At the end of such a line. -/
  | lineEndCrlf
  /-- Between a character of a word and one that is none. -/
  | wordEdge (words : Words)
  /-- Not at a word edge. -/
  | notWordEdge (words : Words)
  /-- Where a word starts. -/
  | wordStart (words : Words)
  /-- Where a word ends. -/
  | wordEnd (words : Words)
  /-- Not after a character of a word. -/
  | wordStartHalf (words : Words)
  /-- Not before a character of a word. -/
  | wordEndHalf (words : Words)
deriving DecidableEq, Repr, Hashable

namespace Boundary

/-- Whether the condition holds between the given neighbours; a missing
one is an end of the text. -/
def holds : Boundary → Option Char → Option Char → Bool
  | .textStart, before, _ => before.isNone
  | .textEnd, _, after => after.isNone
  | .lineStart, before, _ => before.isNone || before = some '\n'
  | .lineEnd, _, after => after.isNone || after = some '\n'
  | .lineStartCrlf, before, after =>
    before.isNone || before = some '\n' || (before = some '\r' && after ≠ some '\n')
  | .lineEndCrlf, before, after =>
    after.isNone || after = some '\r' || (after = some '\n' && before ≠ some '\r')
  | .wordEdge w, before, after => before.any w.has != after.any w.has
  | .notWordEdge w, before, after => before.any w.has == after.any w.has
  | .wordStart w, before, after => !before.any w.has && after.any w.has
  | .wordEnd w, before, after => before.any w.has && !after.any w.has
  | .wordStartHalf w, before, _ => !before.any w.has
  | .wordEndHalf w, _, after => !after.any w.has

end Boundary

/-- What a pattern matches. -/
inductive Expr where
  /-- The empty text. -/
  | empty
  /-- One character of a set. -/
  | set (s : CodeSet)
  /-- The empty text, where a condition holds. -/
  | look (b : Boundary)
  /-- What the inner expression matches, remembered under a number. -/
  | group (index : Nat) (e : Expr)
  /-- The one and then the other. -/
  | cat (a b : Expr)
  /-- The one or else the other. -/
  | alt (a b : Expr)
  /-- At least `min` times, and then at most `more` times, or any number of times. -/
  | times (e : Expr) (min : Nat) (more : Option Nat) (greedy : Bool)
deriving DecidableEq, Repr, Hashable

namespace Expr

/-! ## Lengths -/

/-- The sum of two lengths that may be unknown. -/
def plus? (a b : Option Nat) : Option Nat := a.bind fun n => b.map (n + ·)

/-- The length of a code point in UTF-8. -/
def octets (n : Nat) : Nat :=
  if n < 0x80 then 1 else if n < 0x800 then 2 else if n < 0x10000 then 3 else 4

/-- The least number of octets of a match; what cannot match has none. -/
def minLength : Expr → Option Nat
  | .empty => some 0
  | .set s => s.edges.head?.map octets
  | .look _ => some 0
  | .group _ e => e.minLength
  | .cat a b => plus? a.minLength b.minLength
  | .alt a b => a.minLength.bind fun n => b.minLength.map (Nat.min n)
  | .times e min _ _ => e.minLength.map (min * ·)

/-- The greatest number of octets of a match, if there is one. -/
def maxLength : Expr → Option Nat
  | .empty => some 0
  | .set s => s.edges.getLast?.map fun n => octets (n - 1)
  | .look _ => some 0
  | .group _ e => e.maxLength
  | .cat a b => plus? a.maxLength b.maxLength
  | .alt a b => a.maxLength.bind fun n => b.maxLength.map (Nat.max n)
  | .times e min more _ => more.bind fun k => e.maxLength.map ((min + k) * ·)

/-- Whether only the empty text can match. -/
def isTrivial (e : Expr) : Bool := e.maxLength = some 0

/-! ## Sequences -/

/-- One expression in front of another. -/
def append : Expr → Expr → Expr
  | .empty, e => e
  | .cat a b, e => .cat a (append b e)
  | a, .empty => a
  | a, e => .cat a e

/-- Expressions one after the other. -/
def sequence (es : List Expr) : Expr := es.foldr append .empty

/-- A part of a sequence: a run of single characters, or another expression. -/
inductive Part where
  | literal (codes : List Nat)
  | other (e : Expr)
deriving DecidableEq, Repr

/-- The expression of a part. -/
def Part.toExpr : Part → Expr
  | .literal codes => sequence (codes.map fun n => .set (.single n))
  | .other e => e

/-- The part that an expression is by itself. -/
def part : Expr → Part
  | .set s =>
    match s.single? with
    | some n => .literal [n]
    | none => .other (.set s)
  | e => .other e

/-- A part in front of others; runs of characters join. -/
def consPart : Part → List Part → List Part
  | .literal codes, .literal more :: parts => .literal (codes ++ more) :: parts
  | p, parts => p :: parts

/-- The parts of a sequence. -/
def parts : Expr → List Part
  | .empty => []
  | .cat a b => consPart a.part b.parts
  | e => [e.part]

/-- The characters of a sequence that is made of single characters. -/
def literal? (e : Expr) : Option (List Nat) :=
  match e.parts with
  | [.literal codes] => some codes
  | _ => none

/-! ## Alternatives -/

/-- The alternatives of an expression. -/
def branches : Expr → List Expr
  | .alt a b => a :: b.branches
  | e => [e]

/-- The set of an expression that is one set with several characters or none. -/
def class? : Expr → Option CodeSet
  | .set s => if s.single?.isNone then some s else none
  | _ => none

/-- The set of an expression that is one character. -/
def character? : Expr → Option CodeSet
  | .set s => if s.single?.isSome then some s else none
  | _ => none

/-- How many parts all lists begin with. -/
def commonParts : List (List Part) → Nat
  | [] => 0
  | first :: rest =>
    let common (xs ys : List Part) : List Part :=
      ((xs.zip ys).takeWhile fun (x, y) => x = y).map (·.1)
    (rest.foldl common first).length

/-- The parts of a sequence one after the other. -/
def ofParts (ps : List Part) : Expr := sequence (ps.map Part.toExpr)

/-- The one expression or one of the others, in their order. -/
def eitherOf : Expr → List Expr → Expr
  | e, [] => e
  | e, e' :: rest => .alt e (eitherOf e' rest)

/-- How large an expression is. -/
def nodes : Expr → Nat
  | .empty | .set _ | .look _ => 1
  | .group _ e | .times e _ _ _ => e.nodes + 1
  | .cat a b | .alt a b => a.nodes + b.nodes + 1

/-- One of the expressions, the first preferred. What they all begin with
is put in front of them, as long as each is a sequence. -/
def choiceWithin : Nat → List Expr → Expr
  | 0, _ => .empty
  | fuel + 1, es =>
    match es.flatMap branches with
    | [] => .set .empty
    | [e] => e
    | e :: rest =>
      let all := e :: rest
      match all.mapM character?, all.mapM class? with
      | some sets, _ => .set (.unionOf sets)
      | none, some sets => .set (.unionOf sets)
      | none, none =>
        let split := all.map parts
        let common := if split.all (2 ≤ ·.length) then commonParts split else 0
        if common = 0 then eitherOf e rest
        else
          append (ofParts ((split.headD []).take common))
            (choiceWithin fuel (split.map fun ps => ofParts (ps.drop common)))

/-- One of the expressions, the first preferred. A character that all
begin with is read once, so each step leaves less of them. -/
def choice (es : List Expr) : Expr :=
  choiceWithin (es.foldr (fun e total => e.nodes + total) 1) es

/-! ## Repetitions -/

/-- The expression at least `min` times, and at most `max` times if there
is a bound, which is not less. What can only match the empty text need not
match it twice. -/
def repeated (e : Expr) (min : Nat) (max : Option Nat) (greedy : Bool) : Expr :=
  let least := if e.isTrivial then Nat.min min 1 else min
  let most := if e.isTrivial then some (max.elim 1 (Nat.min 1)) else max
  match most with
  | none => .times e least none greedy
  | some most =>
    if most = 0 then .empty
    else if least = 1 ∧ most = 1 then e
    else .times e least (some (most - least)) greedy

end Expr

end StreamFinder.Pattern
