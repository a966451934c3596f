import Std.Data.HashSet
import StreamFinder.Pattern.Expr

/-!
# Searching a text for a pattern

The search keeps a list of threads, in order of preference. A thread is
what remains to be matched (`frames`) and what the groups have matched so
far (`slots`). At each place of the text, every thread is unfolded until
it stands before a set of characters or has nothing left to match
(`visit`); then the character at that place is read, and the threads whose
set does not hold it are dropped.

What a thread can still match depends on its frames alone. So of two
threads with equal frames at one place the preferred one is kept and the
other dropped, which bounds the threads by the size of the pattern and
makes the search linear in the text. For the same reason a repetition that
has matched the empty text does not start over at the same place.

The search prefers the match that starts first, and of those the one that
the order of alternatives prefers.
-/

namespace StreamFinder.Pattern

/-- What remains to be matched: an expression, a repetition that may go on
after one of its rounds, or the end of a group. -/
inductive Frame where
  | run (e : Expr)
  | again (e : Expr) (min : Nat) (more : Option Nat) (greedy : Bool)
  | shut (index : Nat)
deriving DecidableEq, Repr, Hashable

/-- Where groups have started and ended, as places in the text. -/
structure Slots where
  starts : List (Nat × Nat)
  ends : List (Nat × Nat)
deriving DecidableEq, Repr

namespace Slots

/-- No group has matched. -/
def none : Slots := ⟨[], []⟩

/-- Note a number under an index, in place of what was noted there. -/
def note (index place : Nat) (l : List (Nat × Nat)) : List (Nat × Nat) :=
  (index, place) :: l.filter (·.1 ≠ index)

/-- A group starts. -/
def opening (s : Slots) (index place : Nat) : Slots :=
  { s with starts := note index place s.starts }

/-- A group ends. -/
def shutting (s : Slots) (index place : Nat) : Slots := { s with ends := note index place s.ends }

/-- Where a group started and ended, if it took part. -/
def span? (s : Slots) (index : Nat) : Option (Nat × Nat) :=
  match s.starts.lookup index, s.ends.lookup index with
  | some a, some b => some (a, b)
  | _, _ => Option.none

end Slots

/-- A way to go on. -/
structure Thread where
  frames : List Frame
  slots : Slots
deriving DecidableEq, Repr

/-- A place in the text: how many characters precede it, and its neighbours. -/
structure Place where
  index : Nat
  before : Option Char
  after : Option Char

/-- The unfolding at one place: the frames that have been visited, and the
threads found, the least preferred first. -/
structure Unfolding where
  seen : Std.HashSet (List Frame)
  found : List Thread

namespace Unfolding

/-- Nothing unfolded yet. -/
def start : Unfolding := ⟨∅, []⟩

/-- Go on only where these frames have not been visited at this place. -/
def once (frames : List Frame) (go : Slots → Unfolding → Unfolding) (slots : Slots)
    (u : Unfolding) : Unfolding :=
  if frames ∈ u.seen then u else go slots { u with seen := u.seen.insert frames }

/-- A thread that stands before a character, or at the end of the pattern. -/
def add (frames : List Frame) (slots : Slots) (u : Unfolding) : Unfolding :=
  { u with found := ⟨frames, slots⟩ :: u.found }

end Unfolding

open Unfolding

/-- A step of the unfolding: with the slots so far, more is found. -/
abbrev Step := Slots → Unfolding → Unfolding

/-- One more round and the end of a repetition, in the order of preference. -/
def prefer (greedy : Bool) (enter leave : Step) : Step := fun slots u =>
  if greedy then leave slots (enter slots u) else enter slots (leave slots u)

/-- Unfold a round of a repetition in front of `tail`, which `next` unfolds.
`body` unfolds the repeated expression. -/
def round (body : List Frame → Step → Step) (e : Expr) (tail : List Frame) (next : Step) : Step :=
  once (.run e :: tail) (body tail (once tail next))

/-- Unfold a repetition that need not go on but may, so many times or any number of times. -/
def roundsWithin (body : List Frame → Step → Step) (e : Expr) (greedy : Bool)
    (rest : List Frame) (leave : Step) : Nat → Step
  | 0 => leave
  | k + 1 =>
    prefer greedy
      (round body e (.again e 0 (some k) greedy :: rest)
        (roundsWithin body e greedy rest leave k))
      leave

@[inherit_doc roundsWithin]
def optionalRounds (body : List Frame → Step → Step) (e : Expr) (greedy : Bool)
    (rest : List Frame) (leave : Step) : Option Nat → Step
  | some k => roundsWithin body e greedy rest leave k
  | none => prefer greedy (round body e (.again e 0 none greedy :: rest) leave) leave

/-- Unfold a repetition. -/
def rounds (body : List Frame → Step → Step) (e : Expr) (more : Option Nat) (greedy : Bool)
    (rest : List Frame) (leave : Step) : Nat → Step
  | 0 => optionalRounds body e greedy rest leave more
  | n + 1 =>
    round body e (.again e n more greedy :: rest) (rounds body e more greedy rest leave n)

/-- Unfold an expression that has been noted as visited in front of `rest`.
`rest` is what remains after it, and `next` unfolds that. -/
def explore (p : Place) : Expr → List Frame → Step → Step
  | .empty, _, next => next
  | .set s, rest, _ => add (.run (.set s) :: rest)
  | .look b, _, next => fun slots u => if b.holds p.before p.after then next slots u else u
  | .group index e, rest, next => fun slots u =>
    let tail := .shut index :: rest
    let leave := once tail fun slots u => next (slots.shutting index p.index) u
    once (.run e :: tail) (explore p e tail leave) (slots.opening index p.index) u
  | .cat a b, rest, next =>
    let tail := .run b :: rest
    once (.run a :: tail) (explore p a tail (once tail (explore p b rest next)))
  | .alt a b, rest, next => fun slots u =>
    once (.run b :: rest) (explore p b rest next) slots
      (once (.run a :: rest) (explore p a rest next) slots u)
  | .times e min more greedy, rest, next =>
    rounds (explore p e) e more greedy rest next min

/-- Unfold frames, unless that has been done at this place. -/
def visit (p : Place) : List Frame → Step
  | [] => once [] (add [])
  | .run e :: rest => once (.run e :: rest) (explore p e rest (visit p rest))
  | .shut index :: rest =>
    once (.shut index :: rest) fun slots u => visit p rest (slots.shutting index p.index) u
  | .again e min more greedy :: rest =>
    once (.again e min more greedy :: rest)
      (rounds (explore p e) e more greedy rest (visit p rest) min)

/-- The thread after reading a character, if it stands before a set that holds it. -/
def Thread.read? (c : Char) (t : Thread) : Option Thread :=
  match t.frames with
  | .run (.set s) :: rest => if s.hasChar c then some ⟨rest, t.slots⟩ else none
  | _ => none

/-- The threads that stand before the preferred complete one, and the slots of that one. -/
def settle : List Thread → List Thread × Option Slots
  | [] => ([], none)
  | t :: ts =>
    if t.frames = [] then ([], some t.slots)
    else
      let (before, complete) := settle ts
      (t :: before, complete)

/-- Search from a place on. `threads` have come this far, `best` is the
preferred complete match so far, and `entry` starts a new match at this
place while there is none. -/
def scan (entry : Place → Unfolding → Unfolding) :
    List Char → Nat → Option Char → List Thread → Option Slots → Option Slots
  | text, index, before, threads, best =>
    let p : Place := ⟨index, before, text.head?⟩
    let u := threads.foldl (fun u t => visit p t.frames t.slots u) .start
    let u := if best.isNone then entry p u else u
    let (alive, complete) := settle u.found.reverse
    let best := complete.or best
    match text with
    | [] => best
    | c :: rest => scan entry rest (index + 1) (some c) (alive.filterMap (·.read? c)) best

/-- The groups of the preferred match of an expression anywhere in the text. -/
def search (e : Expr) (text : List Char) : Option Slots :=
  scan (fun p u => visit p [.run e] .none u) text 0 none [] none

/-- The groups of the preferred match of an expression at the start of the text. -/
def searchAtStart (e : Expr) (text : List Char) : Option Slots :=
  scan (fun p u => if p.index = 0 then visit p [.run e] .none u else u) text 0 none [] none

end StreamFinder.Pattern
