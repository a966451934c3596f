/-!
# Base64

Three bytes are written as four digits of six bits each. One or two bytes
at the end are filled up with zero bits, and the digits that hold none of
their bits are written as `=`.
-/

namespace StreamFinder.Text

/-- The digit of a six-bit number. -/
def base64Digit (n : Nat) : Char :=
  if n < 26 then Char.ofNat ('A'.toNat + n)
  else if n < 52 then Char.ofNat ('a'.toNat + (n - 26))
  else if n < 62 then Char.ofNat ('0'.toNat + (n - 52))
  else if n = 62 then '+'
  else '/'

/-- The digits of bytes. -/
def base64 : List UInt8 → List Char
  | [] => []
  | [a] =>
    let n := a.toNat * 0x10
    [base64Digit (n / 0x40), base64Digit (n % 0x40), '=', '=']
  | [a, b] =>
    let n := (a.toNat * 0x100 + b.toNat) * 4
    [base64Digit (n / 0x1000), base64Digit (n / 0x40 % 0x40), base64Digit (n % 0x40), '=']
  | a :: b :: c :: rest =>
    let n := (a.toNat * 0x100 + b.toNat) * 0x100 + c.toNat
    base64Digit (n / 0x40000) :: base64Digit (n / 0x1000 % 0x40) ::
      base64Digit (n / 0x40 % 0x40) :: base64Digit (n % 0x40) :: base64 rest

end StreamFinder.Text
