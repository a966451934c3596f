/-!
# Punycode

The form in which the parts of a domain name carry characters beyond
ASCII. The ASCII characters come first, then one number for each of the
others, which says how many steps of a walk through code points and places
lie before it. The numbers are written with digits of base 36 whose
thresholds follow a bias that adapts to the numbers so far.
-/

namespace StreamFinder.Web.Punycode

/-- The digit of a number below 36. -/
def digit (n : Nat) : Char :=
  if n < 26 then Char.ofNat ('a'.toNat + n) else Char.ofNat ('0'.toNat + (n - 26))

/-- The value of a digit, in either case. -/
def digitValue? (c : Char) : Option Nat :=
  if c.isLower then some (c.toNat - 'a'.toNat)
  else if c.isUpper then some (c.toNat - 'A'.toNat)
  else if c.isDigit then some (c.toNat - '0'.toNat + 26)
  else none

/-- The threshold of the digit at a position. -/
def threshold (position bias : Nat) : Nat := max 1 (min 26 (position - bias))

theorem threshold_pos (position bias : Nat) : 1 ≤ threshold position bias := Nat.le_max_left _ _

/-- Divide a number by 35 until it is at most 455, with the positions that this takes. -/
def shrink (delta position : Nat) : Nat × Nat :=
  if 455 < delta then shrink (delta / 35) (position + 36) else (delta, position)
termination_by delta
decreasing_by exact Nat.div_lt_self (by omega) (by omega)

/-- The bias after a number, when so many characters are in place. -/
def adapt (delta count : Nat) (first : Bool) : Nat :=
  let scaled := if first then delta / 700 else delta / 2
  let (rest, position) := shrink (scaled + scaled / count) 0
  position + 36 * rest / (rest + 38)

/-! ## Writing -/

/-- The digits of a number. -/
def digits (bias position n : Nat) : List Char :=
  let t := threshold position bias
  if n < t then [digit n]
  else digit (t + (n - t) % (36 - t)) :: digits bias (position + 36) ((n - t) / (36 - t))
termination_by n
decreasing_by
  have hpos := threshold_pos position bias
  have hdiv := Nat.div_le_self (n - threshold position bias) (36 - threshold position bias)
  omega

/-- The walk so far: what is written, the steps since the last number, the
bias, and how many characters are in place. -/
structure Walk where
  written : List Char
  steps : Nat
  bias : Nat
  count : Nat

/-- Pass a character on the way to a code point. -/
def pass (basic code : Nat) (w : Walk) (c : Char) : Walk :=
  if c.toNat < code then { w with steps := w.steps + 1 }
  else if c.toNat = code then
    ⟨w.written ++ digits w.bias 36 w.steps, 0,
      adapt w.steps (w.count + 1) (w.count = basic), w.count + 1⟩
  else w

/-- Walk through the code points of a text in ascending order. -/
def walk (s : List Char) (basic : Nat) : List Nat → Nat → Walk → Walk
  | [], _, w => w
  | code :: codes, place, w =>
    let w := s.foldl (pass basic code)
      { w with steps := w.steps + (code - place) * (w.count + 1) }
    walk s basic codes (code + 1) { w with steps := w.steps + 1 }

/-- Put a number into an ascending list, unless it is there. -/
def insertOnce (n : Nat) : List Nat → List Nat
  | [] => [n]
  | m :: rest =>
    if n < m then n :: m :: rest
    else if n = m then m :: rest
    else m :: insertOnce n rest

/-- The coded form of a text. -/
def encode (s : List Char) : List Char :=
  let ascii := s.filter fun c => c.toNat < 0x80
  let codes := (s.filter fun c => 0x80 ≤ c.toNat).foldr (fun c l => insertOnce c.toNat l) []
  let start : Walk := ⟨if ascii = [] then [] else ascii ++ ['-'], 0, 72, ascii.length⟩
  (walk s ascii.length codes 0x80 start).written

/-! ## Reading -/

/-- The largest weight of a digit; numbers have 32 bits. -/
def maxWeight : Nat := 0xffffffff

/-- Read a number: its value and the rest of the digits. -/
def readNumber (bias position weight value : Nat) : List Char → Option (Nat × List Char)
  | [] => none
  | c :: rest =>
    match digitValue? c with
    | none => none
    | some d =>
      let t := threshold position bias
      let value := value + d * weight
      if d < t then some (value, rest)
      else if maxWeight < weight * (36 - t) then none
      else readNumber bias (position + 36) (weight * (36 - t)) value rest

/-- Put the characters that the digits tell into their places. `fuel`
bounds the number of characters. -/
def place : Nat → Nat → Nat → Nat → List Char → List Char → Option (List Char)
  | _, _, _, _, text, [] => some text
  | 0, _, _, _, _, _ => none
  | fuel + 1, code, index, bias, text, coded =>
    match readNumber bias 36 1 index coded with
    | none => none
    | some (value, rest) =>
      let count := text.length + 1
      let next := code + value / count
      if next.isValidChar then
        place fuel next (value % count + 1) (adapt (value - index) count (index = 0))
          (text.insertIdx (value % count) (Char.ofNat next)) rest
      else none

/-- The text of a coded form: what stands before the last hyphen are
characters in place, at least one of them, and the rest are digits. -/
def decode (coded : List Char) : Option (List Char) :=
  let digits := (coded.reverse.takeWhile (· ≠ '-')).reverse
  let text :=
    if digits.length = coded.length then some []
    else
      match coded.take (coded.length - digits.length - 1) with
      | [] => none
      | start => some start
  match text with
  | none => none
  | some text =>
    if coded.all fun c => c.toNat < 0x80 then place digits.length 0x80 0 72 text digits else none

end StreamFinder.Web.Punycode
