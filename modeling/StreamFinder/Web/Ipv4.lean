import StreamFinder.Text.Split
import StreamFinder.Web.Numeral

/-!
# IPv4 addresses

A host whose last part is a number is an IPv4 address or nothing. The
parts are numbers in decimal, octal or hexadecimal, at most four of them,
and the last one fills all bytes that the others leave.
-/

namespace StreamFinder.Web.Ipv4

open Text

/-- The number that a part writes: hexadecimal behind `0x`, octal behind
another `0`, decimal otherwise. -/
def part? (s : List Char) : Option Nat :=
  match s with
  | [] => none
  | '0' :: 'x' :: digits => numberIn? 16 digits
  | '0' :: 'X' :: digits => numberIn? 16 digits
  | ['0'] => some 0
  | '0' :: digits => numberIn? 8 digits
  | digits => numberIn? 10 digits

/-- The parts of a host, without an empty one at the end. -/
def parts (host : List Char) : List (List Char) :=
  let all := splitAtChars (· = '.') host
  match all.reverse with
  | [] :: x :: rest => (x :: rest).reverse
  | _ => all

/-- Whether the last part of a host is a number. -/
def endsInNumber (host : List Char) : Bool :=
  match (parts host).getLast? with
  | none => false
  | some last => (last ≠ [] && last.all Char.isDigit) || (part? last).isSome

/-- The address that leading bytes and the number of the last part make. -/
def combine : Nat → List Nat → Nat → Nat
  | _, [], last => last
  | place, n :: rest, last => n * Nat.pow 0x100 place + combine (place - 1) rest last

/-- The address of a host. -/
def parse (host : List Char) : Option Nat :=
  match (parts host).mapM part? with
  | none => none
  | some numbers =>
    match numbers.reverse with
    | [] => none
    | last :: leading =>
      if leading.length ≤ 3 ∧ leading.all (· < 0x100) ∧
          last < Nat.pow 0x100 (4 - leading.length) then
        some (combine 3 leading.reverse last)
      else none

/-- The address as four decimal numbers. -/
def render (address : Nat) : List Char :=
  let byte (place : Nat) : List Char := (toString (address / Nat.pow 0x100 place % 0x100)).toList
  byte 3 ++ '.' :: byte 2 ++ '.' :: byte 1 ++ '.' :: byte 0

end StreamFinder.Web.Ipv4
