import StreamFinder.Text.Decomposition

/-!
# Composed form

Texts that mean the same characters can be written in several ways. The
composed form is one of them: the text is taken apart, and then every
starter takes up the marks behind it that it has a character with. A mark
is out of reach when another one of the same place, or another starter,
stands between it and the starter.
-/

namespace StreamFinder.Text

namespace Composed

/-- Characters that are taken apart and never put together again. -/
def excluded : CodeSet := CodeSet.read [
  "344 958-95f 9dc-9dd 9df a33 a36 a59-a5b a5e b5c-b5d f43 f4d-f5c/5 f69 f73 f75-f76 f78 f81",
  "f93 f9d-fac/5 fb9 1f71-1f7d/2 1fbb 1fc9 1fcb-1feb/8 1fee 1ff9 1ffb 212b 2adc fb1d fb1f",
  "fb2a-fb36 fb38-fb3c fb3e fb40-fb41 fb43-fb44 fb46-fb4e 1d15e-1d164 1d1bb-1d1c0"]

/-- A starter and what it takes up, with the character that they make. -/
structure Pair where
  head : Nat
  tail : Nat
  whole : Nat
deriving DecidableEq, Repr

/-- All pairs but those of Hangul. -/
def pairs : List Pair :=
  Decomposition.table.entries.filterMap fun (whole, parts) =>
    match parts with
    | [head, tail] => if excluded.has whole then none else some ⟨head, tail, whole⟩
    | _ => none

/-- The syllable of Hangul that a consonant makes with a vowel, or a
syllable of two letters with a final consonant. -/
def syllable? (head tail : Nat) : Option Nat :=
  if 0x1100 ≤ head && head ≤ 0x1112 && 0x1161 ≤ tail && tail ≤ 0x1175 then
    some (0xac00 + ((head - 0x1100) * 21 + (tail - 0x1161)) * 28)
  else if 0xac00 ≤ head && head ≤ 0xd7a3 && (head - 0xac00) % 28 = 0
      && 0x11a8 ≤ tail && tail ≤ 0x11c2 then
    some (head + (tail - 0x11a7))
  else none

/-- The character that a starter makes with a code point. -/
def whole? (head tail : Nat) : Option Nat :=
  if tail < 0x300 then none
  else
    match syllable? head tail with
    | some n => some n
    | none => (pairs.find? fun p => p.head = head && p.tail = tail).map (·.whole)

/-- Put a text together behind a starter. `kept` are the marks that stay
behind it, the latest first, and `rank` is the class of the latest. -/
def behind (starter : Nat) (kept : List Nat) (rank : Nat) : List Decomposition.Classed → List Nat
  | [] => starter :: kept.reverse
  | c :: rest =>
    let reached := kept.isEmpty || rank < c.rank
    match if reached then whole? starter c.code else none with
    | some whole => behind whole kept rank rest
    | none =>
      if c.rank = 0 then starter :: (kept.reverse ++ behind c.code [] 0 rest)
      else behind starter (c.code :: kept) c.rank rest

/-- Put a text together. What stands before the first starter stays. -/
def together : List Decomposition.Classed → List Nat
  | [] => []
  | c :: rest => if c.rank = 0 then behind c.code [] 0 rest else c.code :: together rest

end Composed

/-- The composed form of a text. -/
def composed (s : List Char) : List Char :=
  if s.all fun c => c.toNat < 0xc0 then s
  else (Composed.together (Decomposition.of (s.map (·.toNat)))).map Char.ofNat

end StreamFinder.Text
