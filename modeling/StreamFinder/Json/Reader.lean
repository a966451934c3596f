import StreamFinder.Json.Value
import StreamFinder.Text.Digits

/-!
# Reading JSON

The grammar of RFC 8259 and nothing beyond it: no leading zeros, no
trailing commas, no control characters in a string, and only the four
blanks of JSON around a token. A string is read in two steps. First its
pieces, characters and escaped code units; then the pieces are joined,
which fails exactly where half of a surrogate pair stands alone.

`parse` answers `none` for a document that breaks the grammar. The
nesting of a document is not limited: the fuel of the reader is the
length of the document, and each level of nesting uses up a character.
-/

namespace StreamFinder.Json

open Text

/-- The blanks between tokens. -/
def isSpace (c : Char) : Bool :=
  c = ' ' || c = '\n' || c = '\r' || c = '\t'

/-- The rest of the document from its next token on. -/
def skipSpace (s : List Char) : List Char := s.dropWhile isSpace

/-! ## Numbers -/

/-- A non-empty run of digits behind what introduces it, and the rest. -/
def readDigits (s : List Char) : Option (List Char × List Char) :=
  match s.takeWhile Char.isDigit with
  | [] => none
  | ds => some (ds, s.dropWhile Char.isDigit)

/-- The whole part of a number: a zero alone, or digits that start with no zero. -/
def readWhole : List Char → Option (Nat × List Char)
  | '0' :: s => some (0, s)
  | s => (readDigits s).map fun (ds, rest) => (decimalValue ds, rest)

/-- The fraction of a number as written, if one follows. -/
def readFraction : List Char → Option (List Char × List Char)
  | '.' :: s => (readDigits s).map fun (ds, rest) => ('.' :: ds, rest)
  | s => some ([], s)

/-- The exponent of a number as written, if one follows. -/
def readExponent : List Char → Option (List Char × List Char)
  | [] => some ([], [])
  | e :: s =>
    if e = 'e' ∨ e = 'E' then
      match s with
      | '+' :: s => (readDigits s).map fun (ds, rest) => (e :: '+' :: ds, rest)
      | '-' :: s => (readDigits s).map fun (ds, rest) => (e :: '-' :: ds, rest)
      | s => (readDigits s).map fun (ds, rest) => (e :: ds, rest)
    else some ([], e :: s)

/-- A number after its sign. -/
def readUnsigned (negative : Bool) (s : List Char) : Option (Number × List Char) :=
  match readWhole s with
  | none => none
  | some (whole, s) =>
    match readFraction s with
    | none => none
    | some (fraction, s) =>
      match readExponent s with
      | none => none
      | some (exponent, s) => some (⟨negative, whole, String.ofList (fraction ++ exponent)⟩, s)

/-- A number. -/
def readNumber : List Char → Option (Number × List Char)
  | '-' :: s => readUnsigned true s
  | s => readUnsigned false s

/-! ## Strings -/

/-- A piece of a string: a character that stands for itself or is named
by a one-letter escape, or an escaped code unit. -/
inductive Piece where
  | char (c : Char)
  | unit (n : Nat)
deriving DecidableEq, Repr

/-- The code unit written with four hexadecimal digits. -/
def codeUnit? (a b c d : Char) : Option Nat :=
  match hexValue? a, hexValue? b, hexValue? c, hexValue? d with
  | some a, some b, some c, some d => some (((a * 16 + b) * 16 + c) * 16 + d)
  | _, _, _, _ => none

/-- The character that a one-letter escape names. -/
def escapedChar? (c : Char) : Option Char :=
  if c = '"' then some '"'
  else if c = '\\' then some '\\'
  else if c = '/' then some '/'
  else if c = 'b' then some '\x08'
  else if c = 'f' then some '\x0c'
  else if c = 'n' then some '\n'
  else if c = 'r' then some '\r'
  else if c = 't' then some '\t'
  else none

/-- The pieces of a string from behind its opening quotation mark to its
closing one, and the rest of the document. -/
def readPieces : List Char → Option (List Piece × List Char)
  | [] => none
  | '"' :: rest => some ([], rest)
  | '\\' :: 'u' :: a :: b :: c :: d :: rest =>
    match codeUnit? a b c d, readPieces rest with
    | some n, some (pieces, rest) => some (.unit n :: pieces, rest)
    | _, _ => none
  | '\\' :: c :: rest =>
    match escapedChar? c, readPieces rest with
    | some c, some (pieces, rest) => some (.char c :: pieces, rest)
    | _, _ => none
  | c :: rest =>
    if c.toNat < 0x20 ∨ c = '\\' then none
    else (readPieces rest).map fun (pieces, rest) => (.char c :: pieces, rest)

/-- A code unit that is the first half of a surrogate pair. -/
def isLeading (n : Nat) : Bool := 0xd800 ≤ n && n ≤ 0xdbff

/-- A code unit that is the second half of a surrogate pair. -/
def isTrailing (n : Nat) : Bool := 0xdc00 ≤ n && n ≤ 0xdfff

/-- The text of a string, unless half of a surrogate pair stands alone in it. -/
def joinPieces : List Piece → Option (List Char)
  | [] => some []
  | .char c :: rest => (joinPieces rest).map (c :: ·)
  | .unit a :: .unit b :: rest =>
    if isLeading a && isTrailing b then
      (joinPieces rest).map (Char.ofNat (0x10000 + (a - 0xd800) * 0x400 + (b - 0xdc00)) :: ·)
    else if isLeading a || isTrailing a then none
    else (joinPieces (.unit b :: rest)).map (Char.ofNat a :: ·)
  | .unit a :: rest =>
    if isLeading a || isTrailing a then none
    else (joinPieces rest).map (Char.ofNat a :: ·)

/-- The text of a string and the rest of the document; no text if the string is garbled. -/
def readString (s : List Char) : Option (Option String × List Char) :=
  (readPieces s).map fun (pieces, rest) => ((joinPieces pieces).map String.ofList, rest)

/-! ## Values -/

/-- The rest of the document behind the given characters, if it starts with them. -/
def expect (word : List Char) (s : List Char) : Option (List Char) :=
  if word.isPrefixOf s then some (s.drop word.length) else none

mutual

/-- The value that a token begins. -/
def readValue : Nat → List Char → Option (Value × List Char)
  | 0, _ => none
  | fuel + 1, s =>
    match s with
    | '"' :: s =>
      match readString s with
      | some (some t, rest) => some (.text t, rest)
      | some (none, rest) => some (.garbled, rest)
      | none => none
    | '[' :: s =>
      match skipSpace s with
      | ']' :: rest => some (.array [], rest)
      | s => (readItems fuel s).map fun (items, rest) => (.array items, rest)
    | '\x7b' :: s =>
      match skipSpace s with
      | '\x7d' :: rest => some (.object [], rest)
      | s => (readMembers fuel s).map fun (members, rest) => (.object members, rest)
    | 'n' :: s => (expect ['u', 'l', 'l'] s).map (.null, ·)
    | 't' :: s => (expect ['r', 'u', 'e'] s).map (.bool true, ·)
    | 'f' :: s => (expect ['a', 'l', 's', 'e'] s).map (.bool false, ·)
    | s => (readNumber s).map fun (n, rest) => (.number n, rest)

/-- The items of an array up to its closing bracket. -/
def readItems : Nat → List Char → Option (List Value × List Char)
  | 0, _ => none
  | fuel + 1, s =>
    match readValue fuel s with
    | none => none
    | some (item, s) =>
      match skipSpace s with
      | ',' :: s => (readItems fuel (skipSpace s)).map fun (items, rest) => (item :: items, rest)
      | ']' :: rest => some ([item], rest)
      | _ => none

/-- The members of an object up to its closing brace. -/
def readMembers : Nat → List Char → Option (List (Option String × Value) × List Char)
  | 0, _ => none
  | fuel + 1, s =>
    match s with
    | '"' :: s =>
      match readString s with
      | none => none
      | some (name, s) =>
        match skipSpace s with
        | ':' :: s =>
          match readValue fuel (skipSpace s) with
          | none => none
          | some (value, s) =>
            match skipSpace s with
            | ',' :: s =>
              (readMembers fuel (skipSpace s)).map fun (members, rest) =>
                ((name, value) :: members, rest)
            | '\x7d' :: rest => some ([(name, value)], rest)
            | _ => none
        | _ => none
    | _ => none

end

/-- The value of a document: one value with blanks around it. -/
def parse (document : String) : Option Value :=
  let s := document.toList
  match readValue (2 * s.length + 1) (skipSpace s) with
  | some (value, rest) => if skipSpace rest = [] then some value else none
  | none => none

end StreamFinder.Json
