import StreamFinder.Text.Digits
import StreamFinder.Text.Utf8

/-!
# Percent encoding

A byte can be written as a percent sign and two hexadecimal digits. What
must be written like that depends on the place, so encoding takes the set
of characters in question; beyond ASCII every byte is encoded. Decoding
takes a percent sign that is not followed by two digits as itself.
-/

namespace StreamFinder.Text

/-- The hexadecimal digit of a number below 16, in upper case. -/
def upperHexDigit (n : Nat) : Char :=
  if n < 10 then Char.ofNat ('0'.toNat + n) else Char.ofNat ('A'.toNat + (n - 10))

/-- A byte as a percent sign and two digits. -/
def percentByte (b : UInt8) : List Char :=
  ['%', upperHexDigit (b.toNat / 16), upperHexDigit (b.toNat % 16)]

/-- The text with the characters of a set, and those beyond ASCII, encoded. -/
def percentEncode (mustEncode : Char → Bool) (s : List Char) : List Char :=
  s.flatMap fun c =>
    if 0x80 ≤ c.toNat || mustEncode c then (charBytes c).flatMap percentByte else [c]

/-- The value of a byte that is a hexadecimal digit. -/
def hexByte? (b : UInt8) : Option Nat :=
  if b.toNat < 0x80 then hexValue? (Char.ofNat b.toNat) else none

/-- The bytes with the encoded ones decoded. -/
def percentDecodeBytes : List UInt8 → List UInt8
  | 0x25 :: a :: b :: rest =>
    match hexByte? a, hexByte? b with
    | some high, some low => .ofNat (high * 16 + low) :: percentDecodeBytes rest
    | _, _ => 0x25 :: percentDecodeBytes (a :: b :: rest)
  | b :: rest => b :: percentDecodeBytes rest
  | [] => []

/-- The bytes of a text with the encoded ones decoded. -/
def percentDecode (s : List Char) : List UInt8 := percentDecodeBytes (utf8 s)

end StreamFinder.Text
