import StreamFinder.Pattern.Expr
import StreamFinder.Pattern.Flags
import StreamFinder.Text.Blank
import StreamFinder.Text.Digits
import StreamFinder.Text.Fold

/-!
# Escapes in a pattern

A backslash gives a character a meaning of its own or takes its meaning
away. The readers here start behind the backslash. Where the verbose flag
is on, white space and comments are skipped between the parts of an escape.
-/

namespace StreamFinder.Pattern

open Text

/-- Skip white space and comments; a comment runs to the end of its line. -/
def skipRemarks (inComment : Bool) : List Char → List Char
  | [] => []
  | c :: text =>
    if inComment then skipRemarks (c ≠ '\n') text
    else if isBlank c then skipRemarks false text
    else if c = '#' then skipRemarks true text
    else c :: text

/-- The text from its next meaningful character on. -/
def skip (verbose : Bool) (text : List Char) : List Char :=
  if verbose then skipRemarks false text else text

/-- What an escape stands for. -/
inductive Escape where
  /-- A character; `byte` tells that it was written as two hexadecimal digits. -/
  | char (c : Char) (byte : Bool)
  /-- A set of characters. -/
  | set (s : CodeSet)
  /-- A condition on a place. -/
  | look (b : Boundary)
deriving DecidableEq, Repr

/-- Characters with a meaning of their own, which an escape takes away. -/
def isMeta (c : Char) : Bool :=
  "\\.+*?()|[]\x7b\x7d^$#&-~".toList.contains c

/-- Characters that an escape leaves as they are: the ASCII characters
that are neither letters, digits nor angle brackets. -/
def isEscapable (c : Char) : Bool :=
  isMeta c || (c.toNat < 128 && !c.isAlphanum && c ≠ '<' && c ≠ '>')

/-- The character with a code point, if there is one. -/
def charOf? (n : Nat) : Option Char :=
  if h : n.isValidChar then some (Char.ofNatAux n h) else none

/-- So many hexadecimal digits. -/
def readHexDigits (verbose : Bool) : Nat → Nat → List Char → Option (Nat × List Char)
  | 0, value, text => some (value, text)
  | n + 1, value, text =>
    match text with
    | [] => none
    | c :: text =>
      (hexValue? c).bind fun d => readHexDigits verbose n (16 * value + d) (skip verbose text)

/-- Hexadecimal digits up to a closing brace; `seen` tells whether there was one. -/
def readHexBraced (verbose : Bool) : Nat → Bool → Nat → List Char → Option (Nat × List Char)
  | 0, _, _, _ => none
  | fuel + 1, seen, value, text =>
    match text with
    | [] => none
    | c :: text =>
      if c = '\x7d' then if seen then some (value, skip verbose text) else none
      else (hexValue? c).bind fun d =>
        readHexBraced verbose fuel true (16 * value + d) (skip verbose text)

/-- A character given by its code point, behind the letter that says how many digits follow. -/
def readHex (verbose : Bool) (digits : Nat) (text : List Char) : Option (Escape × List Char) :=
  match skip verbose text with
  | [] => none
  | c :: text =>
    if c = '\x7b' then
      (readHexBraced verbose (text.length + 1) false 0 (skip verbose text)).bind
        fun (n, rest) => (charOf? n).map fun c => (.char c false, rest)
    else
      (readHexDigits verbose digits 0 (c :: text)).bind
        fun (n, rest) => (charOf? n).map fun c => (.char c (digits = 2), rest)

/-- A name up to a closing brace. -/
def readName (verbose : Bool) : Nat → List Char → List Char → Option (List Char × List Char)
  | 0, _, _ => none
  | fuel + 1, name, text =>
    match text with
    | [] => none
    | c :: text =>
      if c = '\x7d' then some (name.reverse, text)
      else readName verbose fuel (c :: name) (skip verbose text)

/-- A property in an escape, behind its letter. -/
def readProperty (f : Flags) (negated : Bool) (text : List Char) : Option (Escape × List Char) :=
  let close : CodeSet × Bool → Escape := fun (s, others) =>
    let s := if f.caseless then caseClosed s else s
    .set (if negated = others then s else .compl s)
  if !f.unicode then none
  else
    match skip f.verbose text with
    | [] => none
    | c :: text =>
      if c = '\x7b' then
        (readName f.verbose (text.length + 1) [] (skip f.verbose text)).bind
          fun (name, rest) => (describedSet? name).map fun s => (close s, rest)
      else if c = '\\' then none
      else (describedSet? [c]).map fun s => (close s, skip f.verbose text)

/-- The set of one of the letters `d`, `s` and `w`, or of what it leaves
out. In ASCII mode what a set leaves out is not text. -/
def shorthand? (f : Flags) (letter : Char) : Option CodeSet :=
  let pick (s ascii : CodeSet) : CodeSet := if f.unicode then s else ascii
  let opposite (s : CodeSet) : Option CodeSet := if f.unicode then some (.compl s) else none
  if letter = 'd' then some (pick decimals asciiDigits)
  else if letter = 's' then some (pick blanks asciiBlanks)
  else if letter = 'w' then some (pick wordCharacters asciiWordCharacters)
  else if letter = 'D' then opposite decimals
  else if letter = 'S' then opposite blanks
  else if letter = 'W' then opposite wordCharacters
  else none

/-- The kind of word boundary that is named in braces, and the text behind
the closing brace. What does not start like a name is no such kind, and the
brace is left to begin a repetition. -/
def readEdgeName (f : Flags) (text : List Char) : Option (Option Boundary × List Char) :=
  let words : Words := if f.unicode then .unicode else .ascii
  let isNameChar (c : Char) : Bool := c.isAlpha || c = '-'
  match text with
  | '\x7b' :: inner =>
    match skip f.verbose inner with
    | [] => none
    | c :: _ =>
      if !isNameChar c then some (none, text)
      else
        let rec go : Nat → List Char → List Char → Option (List Char × List Char)
          | 0, _, _ => none
          | fuel + 1, name, text =>
            match text with
            | [] => none
            | c :: text =>
              if isNameChar c then go fuel (c :: name) (skip f.verbose text)
              else if c = '\x7d' then some (name.reverse, text) else none
        match go (inner.length + 1) [] (skip f.verbose inner) with
        | none => none
        | some (name, rest) =>
          match String.ofList name with
          | "start" => some (some (.wordStart words), rest)
          | "end" => some (some (.wordEnd words), rest)
          | "start-half" => some (some (.wordStartHalf words), rest)
          | "end-half" => some (some (.wordEndHalf words), rest)
          | _ => none
  | _ => some (none, text)

/-- An escape, behind its backslash. -/
def readEscape (f : Flags) (text : List Char) : Option (Escape × List Char) :=
  let words : Words := if f.unicode then .unicode else .ascii
  match text with
  | [] => none
  | c :: text =>
    if c = 'x' then readHex f.verbose 2 text
    else if c = 'u' then readHex f.verbose 4 text
    else if c = 'U' then readHex f.verbose 8 text
    else if c = 'p' ∨ c = 'P' then readProperty f (c = 'P') text
    else if "dswDSW".toList.contains c then (shorthand? f c).map fun s => (.set s, text)
    else if isEscapable c then some (.char c false, text)
    else if c = 'a' then some (.char '\x07' false, text)
    else if c = 'f' then some (.char '\x0c' false, text)
    else if c = 't' then some (.char '\t' false, text)
    else if c = 'n' then some (.char '\n' false, text)
    else if c = 'r' then some (.char '\r' false, text)
    else if c = 'v' then some (.char '\x0b' false, text)
    else if c = 'A' then some (.look .textStart, text)
    else if c = 'z' then some (.look .textEnd, text)
    else if c = 'b' then
      (readEdgeName f text).map fun (edge, rest) => (.look (edge.getD (.wordEdge words)), rest)
    else if c = 'B' then some (.look (.notWordEdge words), text)
    else if c = '<' then some (.look (.wordStart words), text)
    else if c = '>' then some (.look (.wordEnd words), text)
    else none

/-- The character that an escape stands for, as a set under the flags. In
ASCII mode two hexadecimal digits must denote an ASCII character. -/
def literalSet? (f : Flags) (c : Char) (byte : Bool) : Option CodeSet :=
  let s := CodeSet.single c.toNat
  if !f.unicode && byte && 127 < c.toNat then none
  else if !f.caseless then some s
  else if f.unicode then some (caseClosed s)
  else some (asciiCaseClosed s)

end StreamFinder.Pattern
