/-!
# Durations

A length of time in whole nanoseconds. It is shown in the largest unit
that gives it a whole part, seconds at most, with as many decimals as are
needed to be exact.
-/

namespace StreamFinder

/-- A length of time. -/
structure Duration where
  nanos : Nat
deriving DecidableEq, Repr

namespace Duration

/-- Whole seconds. -/
def ofSeconds (n : Nat) : Duration := ⟨n * 1000000000⟩

/-- Whole milliseconds. -/
def ofMillis (n : Nat) : Duration := ⟨n * 1000000⟩

/-- Whole microseconds. -/
def ofMicros (n : Nat) : Duration := ⟨n * 1000⟩

/-- The whole milliseconds that fit into the duration. -/
def toMillis (d : Duration) : Nat := d.nanos / 1000000

/-- A number below `10 ^ places` with leading zeros to that many digits. -/
def padded (places n : Nat) : List Char :=
  let digits := (toString n).toList
  List.replicate (places - digits.length) '0' ++ digits

/-- The decimals of a fraction given in units of `10 ^ -places`: no
zeros at the end, and nothing at all for a whole number. -/
def decimals (places fraction : Nat) : List Char :=
  match ((padded places fraction).reverse.dropWhile (· = '0')).reverse with
  | [] => []
  | ds => '.' :: ds

/-- A duration in a unit that holds `10 ^ places` nanoseconds. -/
def inUnit (places : Nat) (unit : String) (d : Duration) : String :=
  let fraction := if places = 0 then [] else decimals places (d.nanos % Nat.pow 10 places)
  toString (d.nanos / Nat.pow 10 places) ++ String.ofList fraction ++ unit

/-- The duration as a text. -/
def render (d : Duration) : String :=
  if 1000000000 ≤ d.nanos then d.inUnit 9 "s"
  else if 1000000 ≤ d.nanos then d.inUnit 6 "ms"
  else if 1000 ≤ d.nanos then d.inUnit 3 "µs"
  else d.inUnit 0 "ns"

end Duration

end StreamFinder
