import Std.Data.HashMap
import StreamFinder.Pattern.Expr
import StreamFinder.Text.Utf8Range

/-!
# The size of a pattern

A pattern is meant to be run by automata over the octets of UTF-8, one
that reads forwards and one that reads backwards. A pattern is refused if
one of them would take more than ten mebibytes. The search of this library
does without them, so only their size is reckoned here: how many states
they have, and the room for the ways that lead from one state to another.

Repetitions are written out, so they make an automaton large. So do sets
of characters beyond ASCII. Going forwards, a set shares the states from
which the same octets lead to the same states; they are found again in a
table with a fixed number of slots, where a newcomer takes the place of
what was there. So the size depends on the numbers of the states, too.
-/

namespace StreamFinder.Pattern

open Text

/-- What an automaton takes so far: the number of its states, and of its octets. -/
structure Tally where
  states : Nat
  size : Nat
deriving DecidableEq, Repr

namespace Tally

/-- The size from which an automaton is refused. -/
def limit : Nat := 10485760

/-- Nothing yet. -/
def zero : Tally := ⟨0, 0⟩

/-- One more state, with so many arcs for octets. -/
def add (t : Tally) (arcs : Nat) : Tally := ⟨t.states + 1, t.size + 32 + 8 * arcs⟩

/-- So many more ways on from states with several of them. -/
def link (t : Tally) (ways : Nat) : Tally := { t with size := t.size + 4 * ways }

/-- So many more plain states. -/
def addPlain (t : Tally) (n : Nat) : Tally := ⟨t.states + n, t.size + 32 * n⟩

/-- Grow so many times, but not much further than the limit. -/
def repeatedly (t : Tally) (grow : Tally → Tally) : Nat → Tally
  | 0 => t
  | n + 1 => if limit < t.size then t else repeatedly (grow t) grow n

end Tally

/-! ## Sets beyond ASCII, forwards -/

/-- A way on for a range of octets. -/
structure Arc where
  first : Nat
  last : Nat
  next : Nat
deriving DecidableEq, Repr

/-- The slot of a table in which numbers are looked up. -/
def slotOf (slots : UInt64) (numbers : List Nat) : UInt64 :=
  numbers.foldl (fun h n => (h ^^^ n.toUInt64) * 1099511628211) 14695981039346656037 % slots

/-- A state whose arcs are not yet complete: those whose goal is known, the
latest first, and the octets of the one whose goal is not. -/
structure Branching where
  arcs : List Arc
  pending : Option (Nat × Nat)

/-- The pending arc leads to a state. -/
def Branching.close (b : Branching) (next : Nat) : List Arc :=
  match b.pending with
  | some (first, last) => ⟨first, last, next⟩ :: b.arcs
  | none => b.arcs

/-- A set being added: the states that are not complete, the deepest
first, and the complete ones that can be found again. -/
structure Trunk where
  tally : Tally
  known : Std.HashMap UInt64 (List Arc × Nat)
  goal : Nat
  path : List Branching

namespace Trunk

/-- A state with these arcs, the latest first: one that is known, or another one. -/
def complete (t : Trunk) (arcs : List Arc) : Nat × Trunk :=
  let slot := slotOf 10000 (arcs.reverse.flatMap fun a => [a.first, a.last, a.next])
  let fresh : Nat × Trunk :=
    (t.tally.states,
      { t with
        tally := t.tally.add arcs.length
        known := t.known.insert slot (arcs, t.tally.states) })
  match t.known[slot]? with
  | some (known, state) => if known = arcs then (state, t) else fresh
  | none => fresh

/-- Complete so many of the deepest states; the pending arc of the deepest
of all leads to `next`. -/
def completePath (t : Trunk) (next : Nat) : Nat → Trunk
  | 0 =>
    match t.path with
    | [] => t
    | b :: path => { t with path := ⟨b.close next, none⟩ :: path }
  | n + 1 =>
    match t.path with
    | [] => t
    | b :: path =>
      let (state, t) := { t with path := path }.complete (b.close next)
      t.completePath state n

/-- Add a sequence of octets behind those that are there. What it begins
with in common with the sequence before stays open. -/
def insert (t : Trunk) (octets : List (Nat × Nat)) : Trunk :=
  let common := ((t.path.reverse.zip octets).takeWhile fun (b, r) => b.pending = some r).length
  let t := t.completePath t.goal (t.path.length - 1 - common)
  match t.path, octets.drop common with
  | top :: path, first :: rest =>
    let deeper : List Branching := (rest.map fun r => ⟨[], some r⟩).reverse
    { t with path := deeper ++ { top with pending := some first } :: path }
  | _, _ => t

/-- Complete all states. -/
def finish (t : Trunk) : Tally :=
  let t := t.completePath t.goal (t.path.length - 1)
  match t.path with
  | root :: _ => (t.complete root.arcs).2.tally
  | [] => t.tally

end Trunk

/-- A set of characters, read forwards. -/
def growForwards (sequences : List (List (Nat × Nat))) (t : Tally) : Tally :=
  let start : Trunk := ⟨t.add 0, ∅, t.states, [⟨[], none⟩]⟩
  (sequences.foldl Trunk.insert start).finish

/-! ## Sets beyond ASCII, backwards -/

/-- States that can be found again, by where they lead for which octets. -/
structure Suffixes where
  tally : Tally
  known : Std.HashMap UInt64 (Arc × Nat)

/-- A state with one arc: one that is known, or another one. -/
def Suffixes.complete (s : Suffixes) (a : Arc) : Nat × Suffixes :=
  let slot := slotOf 1000 [a.next, a.first, a.last]
  let fresh : Nat × Suffixes :=
    (s.tally.states, ⟨s.tally.add 0, s.known.insert slot (a, s.tally.states)⟩)
  match s.known[slot]? with
  | some (known, state) => if known = a then (state, s) else fresh
  | none => fresh

/-- A set of characters, read backwards: a way for each sequence of octets. -/
def growBackwards (sequences : List (List (Nat × Nat))) (t : Tally) : Tally :=
  let goal := t.states + 1
  let insert (s : Suffixes) (octets : List (Nat × Nat)) : Suffixes :=
    let (_, s) := octets.foldl
      (fun (next, s) (first, last) => s.complete ⟨first, last, next⟩) (goal, s)
    { s with tally := s.tally.link 1 }
  (sequences.foldl insert ⟨(t.add 0).add 0, ∅⟩).tally

/-! ## Alternatives of literal texts -/

/-- A state of a tree of texts. A text that ends here comes before the arcs
that are added later; `before` counts the arcs between two such ends, the
latest first, and `arcs` are those since the last one. -/
structure TreeState where
  before : List Nat
  arcs : List (Nat × Nat)

namespace TreeState

/-- Whether nothing follows here. -/
def isLeaf (s : TreeState) : Bool := s.arcs.isEmpty && s.before.all (· = 0)

/-- A text ends here. -/
def endText (s : TreeState) : TreeState :=
  if s.isLeaf && !s.before.isEmpty then s else ⟨s.arcs.length :: s.before, []⟩

/-- What the state takes. -/
def grow (s : TreeState) (t : Tally) : Tally :=
  if s.isLeaf then t
  else
    let groups := (s.arcs.length :: s.before).filter (0 < ·)
    let t := groups.foldl (fun t n => t.add (if n = 1 then 0 else n)) t
    (t.add 0).link (groups.length + s.before.length)

end TreeState

/-- Put the rest of a text into a tree, from a state on. -/
def plant (octets : List Nat) (state : Nat) (tree : Array TreeState) : Array TreeState :=
  match octets with
  | [] => tree.modify state TreeState.endText
  | o :: octets =>
    match (tree[state]?).bind fun s => s.arcs.lookup o with
    | some next => plant octets next tree
    | none =>
      let next := tree.size
      plant octets next
        ((tree.modify state fun s => { s with arcs := (o, next) :: s.arcs }).push ⟨[], []⟩)

/-- Alternatives that are all literal texts. -/
def growTree (texts : List (List Nat)) (t : Tally) : Tally :=
  let tree := texts.foldl (fun tree octets => plant octets 0 tree) #[⟨[], []⟩]
  tree.foldl (fun t s => s.grow t) (t.add 0)

/-! ## Expressions -/

namespace Expr

/-- Whether an expression cannot match the empty text. -/
def consumes (e : Expr) : Bool := e.minLength.any (0 < ·)

/-- Whether the automaton ends in a state with several ways on, to which
another is added when it is continued. -/
def endsOpen (backwards : Bool) : Expr → Bool
  | .empty | .set _ | .look _ | .alt _ _ => false
  | .group _ e => backwards && e.endsOpen backwards
  | .cat a b => if backwards then a.endsOpen backwards else b.endsOpen backwards
  | .times e min more _ =>
    match more with
    | none => 0 < min || e.consumes
    | some k => k = 0 && e.endsOpen backwards

/-- Whether each match begins, or going backwards ends, where a condition holds. -/
def leadsWith (backwards : Bool) (b : Boundary) : Expr → Bool
  | .empty | .set _ => false
  | .look b' => b = b'
  | .group _ e => e.leadsWith backwards b
  | .cat x y =>
    if backwards then y.leadsWith backwards b || (y.isTrivial && x.leadsWith backwards b)
    else x.leadsWith backwards b || (x.isTrivial && y.leadsWith backwards b)
  | .alt x y => x.leadsWith backwards b && y.leadsWith backwards b
  | .times e min _ _ => 0 < min && e.leadsWith backwards b

/-- A set of characters. -/
def growSet (backwards : Bool) (s : CodeSet) : Tally → Tally :=
  match s.single? with
  | some n => fun t => t.addPlain (octets n)
  | none =>
    if s.isAscii then
      let arcs := s.ranges.length
      fun t => (t.add 0).add arcs
    else
      let sequences := s.ranges.flatMap fun (a, b) => Utf8Range.sequences a b
      if backwards then growBackwards sequences else growForwards sequences

/-- Several alternatives; two states join them. -/
def growBranches : List (Tally → Tally) → Tally → Tally
  | g :: g' :: rest, t => rest.foldl (fun t g => g t) ((g' (g t)).addPlain 2)
  | gs, t => gs.foldl (fun t g => g t) t

/-- A repetition of what grows by `body`; `isOpen` tells whether that ends open. -/
def growRounds (body : Tally → Tally) (isOpen consumes : Bool) (min : Nat) (more : Option Nat)
    (t : Tally) : Tally :=
  let joints (n : Nat) : Nat := if isOpen then n else 0
  match more with
  | none =>
    if min = 0 then
      if consumes then (body (t.add 0)).link (1 + joints 1)
      else ((body t).addPlain 3).link (4 + joints 1)
    else ((t.repeatedly body min).add 0).link (1 + joints min)
  | some 0 => if min = 0 then t.add 0 else (t.repeatedly body min).link (joints (min - 1))
  | some k =>
    if min = 0 ∧ k = 1 then ((body (t.add 0)).add 0).link (2 + joints 1)
    else
      let first := if min = 0 then t.add 0 else t.repeatedly body min
      ((first.add 0).repeatedly (fun t => (body (t.add 0)).link 2) k).link (joints (min + k))

/-- How automata grow by an expression, and by each of its alternatives
with the way that leads to it. -/
structure Growth where
  whole : Tally → Tally
  arms : List (Tally → Tally)

/-- The growth of an expression that is no choice between alternatives. -/
def Growth.solo (isOpen : Bool) (whole : Tally → Tally) : Growth :=
  ⟨whole, [fun t => (whole t).link (if isOpen then 2 else 1)]⟩

/-- How an automaton grows by an expression. -/
def growth (backwards : Bool) : Expr → Growth
  | .empty => .solo false (·.add 0)
  | .set s => .solo false (growSet backwards s)
  | .look _ => .solo false (·.add 0)
  | .group index e =>
    let inner := (e.growth backwards).whole
    .solo (endsOpen backwards (.group index e))
      (if backwards then inner
      else fun t => ((inner (t.add 0)).add 0).link (if e.endsOpen false then 1 else 0))
  | .cat a b =>
    let first := (a.growth backwards).whole
    let second := (b.growth backwards).whole
    .solo (endsOpen backwards (.cat a b))
      (if backwards then fun t =>
        (first (second t)).link (if b.endsOpen true then 1 else 0)
      else fun t =>
        (second (first t)).link (if a.endsOpen false then 1 else 0))
  | .alt a b =>
    let first := (a.growth backwards).whole
    let arms := (fun t => (first t).link (if a.endsOpen backwards then 2 else 1)) ::
      (b.growth backwards).arms
    match (Expr.alt a b).branches.mapM literal? with
    | some texts =>
      let octets := texts.map fun codes => codes.flatMap Utf8Range.octets
      ⟨growTree (if backwards then octets.map List.reverse else octets), arms⟩
    | none => ⟨growBranches arms, arms⟩
  | .times e min more greedy =>
    .solo (endsOpen backwards (.times e min more greedy))
      (growRounds (e.growth backwards).whole (e.endsOpen backwards) e.consumes min more)

/-- What the automaton of an expression takes. It may start anywhere in a
text unless each match begins at the start of the text, or going backwards
at its end. Forwards, the whole match is remembered like a group. -/
def automaton (backwards : Bool) (e : Expr) : Tally :=
  let isBound := e.leadsWith backwards (if backwards then .textEnd else .textStart)
  let start : Tally := if isBound then .add .zero 0 else (((Tally.zero.add 0).add 0).add 1).link 2
  let inner := ((e.growth backwards).whole (if backwards then start else start.add 0)).link
    (if e.endsOpen backwards then 1 else 0)
  (if backwards then inner else inner.add 0).add 0

/-- Whether both automata of an expression stay within the limit. -/
def fits (e : Expr) : Bool :=
  (e.automaton true).size ≤ Tally.limit && (e.automaton false).size ≤ Tally.limit

end Expr

end StreamFinder.Pattern
