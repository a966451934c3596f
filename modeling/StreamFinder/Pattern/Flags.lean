/-!
# Flags of a pattern

Flags change how the rest of a group is read. They are set for the rest of
the enclosing group, `(?i)`, or for one group, `(?i:...)`, and a minus
sign unsets those that follow it.
-/

namespace StreamFinder.Pattern

/-- The flags in force at a place of a pattern. -/
structure Flags where
  /-- Letters match in either case. -/
  caseless : Bool
  /-- `^` and `$` match at line ends. -/
  multiline : Bool
  /-- The dot matches line ends, too. -/
  dotAll : Bool
  /-- Repetitions are lazy unless marked, instead of greedy. -/
  swapGreed : Bool
  /-- Classes and case follow Unicode, not ASCII. -/
  unicode : Bool
  /-- A carriage return ends a line, too. -/
  crlf : Bool
  /-- White space and comments in the pattern are ignored. -/
  verbose : Bool
deriving DecidableEq, Repr

namespace Flags

/-- The flags at the start of a pattern. -/
def initial : Flags := ⟨false, false, false, false, true, false, false⟩

/-- Set or unset the flag of a letter. -/
def assign (f : Flags) (letter : Char) (on : Bool) : Option Flags :=
  if letter = 'i' then some { f with caseless := on }
  else if letter = 'm' then some { f with multiline := on }
  else if letter = 's' then some { f with dotAll := on }
  else if letter = 'U' then some { f with swapGreed := on }
  else if letter = 'u' then some { f with unicode := on }
  else if letter = 'R' then some { f with crlf := on }
  else if letter = 'x' then some { f with verbose := on }
  else none

/-- How a list of flags ends: the pattern goes on, or a group begins. -/
inductive Ending where
  | rest
  | group
deriving DecidableEq, Repr

/-- The letters of a list of flags up to its end, with a minus sign among
them, and the text behind it. No letter comes twice, nor does the minus. -/
def readLetters : List Char → List Char → Option (List Char × Ending × List Char)
  | _, [] => none
  | letters, ':' :: text => some (letters.reverse, .group, text)
  | letters, ')' :: text => some (letters.reverse, .rest, text)
  | letters, c :: text => if c ∈ letters then none else readLetters (c :: letters) text

/-- Change flags by a list of letters; a minus sign must be followed by a letter. -/
def change : Bool → List Char → Flags → Option Flags
  | _, [], f => some f
  | _, ['-'], _ => none
  | on, c :: letters, f =>
    if c = '-' then change false letters f
    else (f.assign c on).bind (change on letters)

end Flags

end StreamFinder.Pattern
