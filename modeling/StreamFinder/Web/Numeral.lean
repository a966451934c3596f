import StreamFinder.Text.Percent

/-!
# Numbers in addresses

Addresses write numbers in several bases; here are the readers that their
parts share.
-/

namespace StreamFinder.Web

open Text

/-- The number that digits write in a base, the most significant first. -/
def numeral (base : Nat) (digits : List Nat) : Nat :=
  digits.foldl (fun n d => n * base + d) 0

/-- The values of the digits of a base; nothing if one of the characters is none. -/
def digitsIn? (base : Nat) (s : List Char) : Option (List Nat) :=
  s.mapM fun c =>
    match hexValue? c with
    | some d => if d < base then some d else none
    | none => none

/-- The number that a text writes in a base. The empty text writes zero. -/
def numberIn? (base : Nat) (s : List Char) : Option Nat := (digitsIn? base s).map (numeral base)

end StreamFinder.Web
