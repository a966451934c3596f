import StreamFinder.Text.CodeSet
import StreamFinder.Text.Split

/-!
# Maps from code points to texts

A map sends some code points to texts, which are lists of code points. It
is kept as runs of code points that are sent in the same way: by the same
distance, to the same text, or each to a text of its own.

Tables are written as words between blanks, with numbers in hexadecimal:
`41-5a>61` sends every code point of a range to the one at the same
distance from the goal, `100-12e/2>101` so every second one,
`2000-200a=20` sends all of a range to one text, and `c0=41+300,41+301`
sends a code point and those that follow it to one text each.
-/

namespace StreamFinder.Text

/-- Where the code points of a run are sent. -/
inductive CodeImage where
  /-- To the code point at the same distance from a goal. -/
  | moved (goal : Nat)
  /-- To one text. -/
  | same (text : List Nat)
  /-- To a text of its own each. -/
  | listed (texts : List (List Nat))
deriving DecidableEq, Repr

/-- Every `step`-th code point from `first` to `last`, and where they are sent. -/
structure CodeRun where
  first : Nat
  last : Nat
  step : Nat
  image : CodeImage
deriving DecidableEq, Repr

/-- The code points of a run. -/
def CodeRun.codes (r : CodeRun) : List Nat :=
  (List.range ((r.last - r.first) / r.step + 1)).map (r.first + · * r.step)

/-- What a code point is sent to by a run; nothing if it is not in the run. -/
def CodeRun.image? (r : CodeRun) (n : Nat) : Option (List Nat) :=
  if n < r.first || r.last < n || (n - r.first) % r.step != 0 then none
  else
    match r.image with
    | .moved goal => some [goal + (n - r.first)]
    | .same text => some text
    | .listed texts => texts[n - r.first]?

/-- A map from code points to texts, as its runs. -/
structure CodeMap where
  runs : List CodeRun
deriving DecidableEq, Repr

namespace CodeMap

/-- What a code point is sent to; nothing if the map does not speak of it. -/
def image? (m : CodeMap) (n : Nat) : Option (List Nat) := m.runs.findSome? (·.image? n)

/-- What the map speaks of: code points with their texts, in the order of the runs. -/
def entries (m : CodeMap) : List (Nat × List Nat) :=
  m.runs.flatMap fun r => r.codes.filterMap fun n => (r.image? n).map (n, ·)

/-! ## Reading tables -/

/-- The number that hexadecimal digits write. -/
def number (digits : List Char) : Nat :=
  digits.foldl (fun n c => 16 * n + CodeSet.hexValue c) 0

/-- The text whose code points stand between plus signs. -/
def text (s : List Char) : List Nat := (splitAtChars (· = '+') s).map number

/-- The ends and the step that a word of a table begins with. -/
def readPlace? (place : List Char) : Option (Nat × Nat × Nat) :=
  match (splitAtChars (fun c => c = '-' || c = '/') place).map number with
  | [first] => some (first, first, 1)
  | [first, last] => some (first, last, 1)
  | [first, last, step] => some (first, last, step)
  | _ => none

/-- The run that a word of a table writes. -/
def readRun? (word : List Char) : Option CodeRun :=
  let isGoal (c : Char) : Bool := c = '>' || c = '='
  match readPlace? (word.takeWhile (!isGoal ·)), word.dropWhile (!isGoal ·) with
  | some (first, last, step), '>' :: target => some ⟨first, last, step, .moved (number target)⟩
  | some (first, last, step), '=' :: texts =>
    match (splitAtChars (· = ',') texts).map text with
    | [one] => some ⟨first, last, step, .same one⟩
    | several => some ⟨first, first + several.length - 1, 1, .listed several⟩
  | _, _ => none

/-- The map that the lines of a table write. -/
def read (lines : List String) : CodeMap :=
  ⟨lines.flatMap fun line => (splitAtChars (· = ' ') line.toList).filterMap readRun?⟩

end CodeMap

end StreamFinder.Text
