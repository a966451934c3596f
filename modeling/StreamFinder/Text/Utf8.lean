/-!
# Texts as bytes

UTF-8 in both directions. Every text has bytes; not all bytes make a text.
Reading bytes as a text therefore puts the replacement character in the
place of each stretch that is no character, where a stretch is as long as
it could have been the beginning of one.
-/

namespace StreamFinder.Text

/-- The bytes of a character. -/
def charBytes (c : Char) : List UInt8 :=
  let n := c.toNat
  if n < 0x80 then [.ofNat n]
  else if n < 0x800 then [.ofNat (0xc0 + n / 0x40), .ofNat (0x80 + n % 0x40)]
  else if n < 0x10000 then
    [.ofNat (0xe0 + n / 0x1000), .ofNat (0x80 + n / 0x40 % 0x40), .ofNat (0x80 + n % 0x40)]
  else
    [.ofNat (0xf0 + n / 0x40000), .ofNat (0x80 + n / 0x1000 % 0x40),
      .ofNat (0x80 + n / 0x40 % 0x40), .ofNat (0x80 + n % 0x40)]

/-- The bytes of a text. -/
def utf8 (s : List Char) : List UInt8 := s.flatMap charBytes

/-- The ranges of the bytes that must follow a first byte beyond ASCII. -/
def followers (n : Nat) : Option (List (Nat × Nat)) :=
  if 0xc2 ≤ n ∧ n ≤ 0xdf then some [(0x80, 0xbf)]
  else if n = 0xe0 then some [(0xa0, 0xbf), (0x80, 0xbf)]
  else if n = 0xed then some [(0x80, 0x9f), (0x80, 0xbf)]
  else if 0xe1 ≤ n ∧ n ≤ 0xef then some [(0x80, 0xbf), (0x80, 0xbf)]
  else if n = 0xf0 then some [(0x90, 0xbf), (0x80, 0xbf), (0x80, 0xbf)]
  else if 0xf1 ≤ n ∧ n ≤ 0xf3 then some [(0x80, 0xbf), (0x80, 0xbf), (0x80, 0xbf)]
  else if n = 0xf4 then some [(0x80, 0x8f), (0x80, 0xbf), (0x80, 0xbf)]
  else none

/-- The bits that a first byte contributes, by the number of bytes that follow. -/
def leadingBits (n count : Nat) : Nat :=
  if count = 1 then n - 0xc0 else if count = 2 then n - 0xe0 else n - 0xf0

/-- Collect the bits of the bytes that must follow; nothing if one is
missing. The rest begins with the first byte that does not belong. -/
def collect : List (Nat × Nat) → Nat → List UInt8 → Option Nat × List UInt8
  | [], bits, s => (some bits, s)
  | _ :: _, _, [] => (none, [])
  | (low, high) :: ranges, bits, b :: s =>
    if low ≤ b.toNat ∧ b.toNat ≤ high then collect ranges (bits * 0x40 + b.toNat % 0x40) s
    else (none, b :: s)

theorem length_collect_le (ranges : List (Nat × Nat)) (bits : Nat) (s : List UInt8) :
    (collect ranges bits s).2.length ≤ s.length := by
  fun_induction collect ranges bits s with
  | case1 => exact Nat.le_refl _
  | case2 => exact Nat.le_refl _
  | case3 _ _ _ _ _ _ _ ih => exact Nat.le_succ_of_le ih
  | case4 => exact Nat.le_refl _

/-- The character that stands for bytes that are none. -/
def replacement : Char := '\ufffd'

/-- The first character that bytes make, and the rest. -/
def firstChar (b : UInt8) (s : List UInt8) : Char × List UInt8 :=
  if b.toNat < 0x80 then (Char.ofNat b.toNat, s)
  else
    match followers b.toNat with
    | none => (replacement, s)
    | some ranges =>
      match collect ranges (leadingBits b.toNat ranges.length) s with
      | (some n, rest) => (Char.ofNat n, rest)
      | (none, rest) => (replacement, rest)

theorem length_firstChar_le (b : UInt8) (s : List UInt8) :
    (firstChar b s).2.length ≤ s.length := by
  unfold firstChar
  split
  · exact Nat.le_refl _
  · split
    · exact Nat.le_refl _
    · next ranges _ =>
      have h := length_collect_le ranges (leadingBits b.toNat ranges.length) s
      split <;> simp_all

/-- The text that bytes make, whatever they are. -/
def lossy : List UInt8 → List Char
  | [] => []
  | b :: s => (firstChar b s).1 :: lossy (firstChar b s).2
termination_by s => s.length
decreasing_by exact Nat.lt_succ_of_le (length_firstChar_le b s)

/-- The text that bytes make, if they are a text: if its own bytes are the given ones. -/
def ofUtf8? (s : List UInt8) : Option (List Char) :=
  if utf8 (lossy s) = s then some (lossy s) else none

end StreamFinder.Text
