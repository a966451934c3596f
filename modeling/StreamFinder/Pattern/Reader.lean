import StreamFinder.Pattern.Automaton
import StreamFinder.Pattern.Bracket
import StreamFinder.Pattern.Search

/-!
# Reading a pattern

The written form of patterns: alternatives, sequences, groups with and
without names, greedy and lazy repetitions, flags, sets in brackets,
escapes and boundaries. There is no look-around and no reference back to a
group.

A pattern is read from left to right, one token at a time
(`Reading.token?`). What encloses the place being read is kept on a stack
of open groups, so a token is read the same way whatever encloses it.
`Pattern.parse` refuses a pattern that is ill formed, nested too deeply or
too large for its automaton.
-/

namespace StreamFinder.Pattern

open Text

/-- An expression with its depth of nesting. -/
structure Item where
  expr : Expr
  depth : Nat
deriving DecidableEq, Repr

namespace Item

/-- The empty expression. -/
def empty : Item := ⟨.empty, 0⟩

/-- A set of characters, nested so deep. -/
def ofSet (s : CodeSet) (depth : Nat) : Item := ⟨.set s, depth⟩

/-- The depth of several items side by side. -/
def depthOf (items : List Item) : Nat := items.foldl (fun d p => Nat.max d p.depth) 0

/-- Items one after the other. -/
def sequence (items : List Item) : Item :=
  match items with
  | [] => .empty
  | [p] => p
  | ps => ⟨.sequence (ps.map (·.expr)), depthOf ps + 1⟩

/-- One of several items. -/
def choice (items : List Item) : Item :=
  match items with
  | [] => .empty
  | [p] => p
  | ps => ⟨.choice (ps.map (·.expr)), depthOf ps + 1⟩

end Item

/-- The depth of nesting up to which a pattern is accepted. -/
def depthLimit : Nat := 250

/-- The largest bound of a counted repetition. -/
def countLimit : Nat := Nat.pow 2 32

/-- An element of a sequence: an expression, or a change of flags, which
matches nothing and cannot be repeated. -/
inductive Element where
  | item (p : Item)
  | flags
deriving DecidableEq, Repr

/-- The expression of an element. -/
def Element.toItem : Element → Item
  | .item p => p
  | .flags => .empty

/-- A group that is open: what precedes it at its level, and the flags to return to. -/
structure Opened where
  elements : List Element
  branches : List Item
  index : Option Nat
  flags : Flags
deriving DecidableEq, Repr

/-- What has been read. The elements of the sequence being read and the
finished alternatives beside it come newest first, as do the open groups. -/
structure Reading where
  elements : List Element
  branches : List Item
  opened : List Opened
  flags : Flags
  groups : Nat
  names : List (String × Nat)
deriving DecidableEq, Repr

namespace Reading

/-- Nothing has been read. -/
def start : Reading := ⟨[], [], [], .initial, 0, []⟩

/-- One more element. -/
def push (r : Reading) (p : Item) : Reading := { r with elements := .item p :: r.elements }

/-- The sequence being read, as it stands. -/
def sequence (r : Reading) : Item := Item.sequence (r.elements.reverse.map Element.toItem)

/-- The alternatives being read, as they stand. -/
def level (r : Reading) : Item := Item.choice (r.sequence :: r.branches).reverse

/-! ## Groups -/

/-- Open a group. Its content is read under `flags`. -/
def openGroup (r : Reading) (index : Option Nat) (flags : Flags) : Reading :=
  { r with
    elements := [], branches := [], flags := flags
    opened := ⟨r.elements, r.branches, index, r.flags⟩ :: r.opened }

/-- A character that a group name may start with. -/
def startsName (c : Char) : Bool := c = '_' || isAlphabetic c

/-- A character that a group name may go on with. -/
def continuesName (c : Char) : Bool :=
  c = '_' || c = '.' || c = '[' || c = ']' || isAlphanumeric c

/-- A group with a name, behind the bracket that opens the name. -/
def openNamed? (r : Reading) (text : List Char) : Option (Reading × List Char) :=
  match text.span (· ≠ '>') with
  | (c :: name, '>' :: rest) =>
    let label := String.ofList (c :: name)
    if startsName c && name.all continuesName && !r.names.any (·.1 == label) then
      let index := r.groups + 1
      let r := { r with groups := index, names := r.names ++ [(label, index)] }
      some (r.openGroup (some index) r.flags, rest)
    else none
  | _ => none

/-- A group or a change of flags, behind the parenthesis. -/
def openParenthesis? (r : Reading) (text : List Char) : Option (Reading × List Char) :=
  match skip r.flags.verbose text with
  | '?' :: '=' :: _ => none
  | '?' :: '!' :: _ => none
  | '?' :: '<' :: '=' :: _ => none
  | '?' :: '<' :: '!' :: _ => none
  | '?' :: 'P' :: '<' :: text => r.openNamed? text
  | '?' :: '<' :: text => r.openNamed? text
  | '?' :: text =>
    match Flags.readLetters [] text with
    | none => none
    | some (letters, ending, rest) =>
      match Flags.change true letters r.flags, ending with
      | none, _ => none
      | some flags, .group => some (r.openGroup none flags, rest)
      | some flags, .rest =>
        if letters.isEmpty then none
        else some ({ r with flags := flags, elements := .flags :: r.elements }, rest)
  | text =>
    let index := r.groups + 1
    some ({ r with groups := index }.openGroup (some index) r.flags, text)

/-- Close the innermost group. -/
def closeGroup? (r : Reading) : Option Reading :=
  match r.opened with
  | [] => none
  | g :: opened =>
    let inner := r.level
    let expr := match g.index with
      | some index => .group index inner.expr
      | none => inner.expr
    some { r with
      elements := .item ⟨expr, inner.depth + 1⟩ :: g.elements
      branches := g.branches, flags := g.flags, opened := opened }

/-- Begin another alternative. -/
def nextBranch (r : Reading) : Reading :=
  { r with elements := [], branches := r.sequence :: r.branches }

/-! ## Repetitions -/

/-- Repeat the last element. A question mark behind the operator makes it lazy. -/
def repeatLast? (r : Reading) (min : Nat) (max : Option Nat) (text : List Char) :
    Option (Reading × List Char) :=
  match r.elements with
  | .item p :: elements =>
    let (lazily, rest) := match text with
      | '?' :: rest => (true, rest)
      | text => (false, text)
    let greedy := lazily = r.flags.swapGreed
    let expr := Expr.repeated p.expr min max greedy
    some ({ r with elements := .item ⟨expr, p.depth + 1⟩ :: elements }, rest)
  | _ => none

/-- The digits of a number, and the text behind them. -/
def readDigits (verbose : Bool) : Nat → List Char → List Char → List Char × List Char
  | 0, digits, text => (digits.reverse, text)
  | fuel + 1, digits, text =>
    match text with
    | [] => (digits.reverse, [])
    | c :: rest =>
      if c.isDigit then readDigits verbose fuel (c :: digits) (skip verbose rest)
      else (digits.reverse, text)

/-- The text behind white space, and in verbose mode behind comments that follow it. -/
def skipSpaces (verbose : Bool) (text : List Char) : List Char :=
  match text with
  | [] => []
  | c :: _ => if isBlank c then skip verbose (text.dropWhile isBlank) else text

/-- A number with white space around it. -/
def readCount (verbose : Bool) (text : List Char) : Option (Nat × List Char) :=
  match readDigits verbose (text.length + 1) [] (text.dropWhile isBlank) with
  | ([], _) => none
  | (digits, rest) =>
    let n := decimalValue digits
    if n < countLimit then some (n, skipSpaces verbose rest) else none

/-- The bounds of a counted repetition, behind its opening brace. -/
def readBounds (verbose : Bool) (text : List Char) : Option (Nat × Option Nat × List Char) :=
  match readCount verbose (skip verbose text) with
  | none => none
  | some (min, rest) =>
    match rest with
    | '\x7d' :: rest => some (min, some min, rest)
    | ',' :: rest =>
      match skip verbose rest with
      | '\x7d' :: rest => some (min, none, rest)
      | text =>
        match readCount verbose text with
        | some (max, '\x7d' :: rest) => if min ≤ max then some (min, some max, rest) else none
        | _ => none
    | _ => none

/-! ## Tokens -/

/-- The dot: any character but a line end, or any character at all. -/
def dot? (f : Flags) : Option CodeSet :=
  if !f.unicode then none
  else if f.dotAll then some .all
  else if f.crlf then some (.compl (.union (.single '\n'.toNat) (.single '\r'.toNat)))
  else some (.compl (.single '\n'.toNat))

/-- The caret. -/
def caret (f : Flags) : Boundary :=
  if !f.multiline then .textStart else if f.crlf then .lineStartCrlf else .lineStart

/-- The dollar sign. -/
def dollar (f : Flags) : Boundary :=
  if !f.multiline then .textEnd else if f.crlf then .lineEndCrlf else .lineEnd

/-- One more condition on a place. -/
def pushLook (r : Reading) (b : Boundary) : Reading := r.push ⟨.look b, 0⟩

/-- One more set of characters. -/
def pushSet (r : Reading) (s : CodeSet) : Reading := r.push (.ofSet s 0)

/-- Read the token that starts with the given character; `text` is what follows it. -/
def token? (r : Reading) (c : Char) (text : List Char) : Option (Reading × List Char) :=
  if c = '(' then r.openParenthesis? text
  else if c = ')' then r.closeGroup?.map (·, text)
  else if c = '|' then some (r.nextBranch, text)
  else if c = '[' then
    (readBracketed r.flags text).map fun (s, depth, rest) => (r.push (.ofSet s depth), rest)
  else if c = '?' then r.repeatLast? 0 (some 1) text
  else if c = '*' then r.repeatLast? 0 none text
  else if c = '+' then r.repeatLast? 1 none text
  else if c = '\x7b' then
    (readBounds r.flags.verbose text).bind fun (min, max, rest) =>
      r.repeatLast? min max (skip r.flags.verbose rest)
  else if c = '.' then (dot? r.flags).map fun s => (r.pushSet s, text)
  else if c = '^' then some (r.pushLook (caret r.flags), text)
  else if c = '$' then some (r.pushLook (dollar r.flags), text)
  else if c = '\\' then
    match readEscape r.flags text with
    | none => none
    | some (.char c byte, rest) => (literalSet? r.flags c byte).map fun s => (r.pushSet s, rest)
    | some (.set s, rest) => some (r.pushSet s, rest)
    | some (.look b, rest) => some (r.pushLook b, rest)
  else (literalSet? r.flags c false).map fun s => (r.pushSet s, text)

/-- Read tokens up to the end of the text. -/
def run : Nat → Reading → List Char → Option Reading
  | 0, r, text => if skip r.flags.verbose text = [] then some r else none
  | fuel + 1, r, text =>
    match skip r.flags.verbose text with
    | [] => some r
    | c :: rest => (r.token? c rest).bind fun (r, rest) => run fuel r rest

end Reading

end Pattern

/-- A pattern: what it matches, and the names of its groups with their numbers. -/
structure Pattern where
  expr : Pattern.Expr
  names : List (String × Nat)
deriving DecidableEq, Repr

namespace Pattern

/-- The pattern that a text writes. -/
def parse (source : List Char) : Option Pattern :=
  match Reading.run source.length .start source with
  | none => none
  | some r =>
    let whole := r.level
    if r.opened = [] ∧ whole.depth ≤ depthLimit ∧ whole.expr.fits then
      some ⟨whole.expr, r.names⟩
    else none

/-- Whether the pattern matches somewhere in the text. -/
def isMatch (p : Pattern) (text : List Char) : Bool := (search p.expr text).isSome

/-- Whether the pattern has a match that begins at the start of the text. -/
def matchesAtStart (p : Pattern) (text : List Char) : Bool := (searchAtStart p.expr text).isSome

/-- What the named groups of the preferred match have matched; groups that
took no part are left out. -/
def groups (p : Pattern) (text : List Char) : List (String × String) :=
  match search p.expr text with
  | none => []
  | some slots => p.names.filterMap fun (name, index) =>
    (slots.span? index).map fun (a, b) => (name, String.ofList ((text.drop a).take (b - a)))

end Pattern

end StreamFinder
