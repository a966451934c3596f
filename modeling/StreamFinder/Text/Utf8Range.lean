/-!
# Ranges of code points in UTF-8

The UTF-8 forms of the code points of a range are not a range of octets at
each place. But a range falls into parts for which they are: all forms of
a part have the same length, and if two of them differ at some place, then
every octet that can continue a form stands behind it. The parts come in
ascending order.
-/

namespace StreamFinder.Text.Utf8Range

/-- The octets of a code point. -/
def octets (n : Nat) : List Nat :=
  let tail (k : Nat) : Nat := 0x80 + n / Nat.pow 64 k % 64
  if n < 0x80 then [n]
  else if n < 0x800 then [0xc0 + n / 64, tail 0]
  else if n < 0x10000 then [0xe0 + n / 4096, tail 1, tail 0]
  else [0xf0 + n / 262144, tail 2, tail 1, tail 0]

/-- Cut a range at multiples of the sizes, which grow, so that each part
lies within one block of a size or is made of whole blocks. -/
def aligned : List Nat → Nat × Nat → List (Nat × Nat)
  | [], r => [r]
  | size :: sizes, (first, last) =>
    if first / size = last / size then [(first, last)]
    else
      let start := if first % size = 0 then first else (first / size + 1) * size
      let stop := if last % size = size - 1 then last + 1 else last / size * size
      let head := if first < start then [(first, start - 1)] else []
      let tail := if stop ≤ last then [(stop, last)] else []
      let middle := if start < stop then aligned sizes (start, stop - 1) else []
      head ++ middle ++ tail

/-- The ranges whose code points have UTF-8 forms of one length. -/
def lengths : List (Nat × Nat) := [(0, 0x7f), (0x80, 0x7ff), (0x800, 0xffff), (0x10000, 0x10ffff)]

/-- The parts of a range, each as the ranges of octets at its places. -/
def sequences (first last : Nat) : List (List (Nat × Nat)) :=
  let clipped := lengths.filterMap fun (a, b) =>
    if Nat.max a first ≤ Nat.min b last then some (Nat.max a first, Nat.min b last) else none
  (clipped.flatMap (aligned [64, 4096, 262144])).map fun (a, b) => (octets a).zip (octets b)

end StreamFinder.Text.Utf8Range
