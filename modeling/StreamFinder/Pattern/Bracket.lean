import StreamFinder.Pattern.Escape

/-!
# Sets in brackets

A set in brackets lists characters, ranges, named sets and further sets in
brackets; `&&`, `--` and `~~` between them stand for intersection,
difference and symmetric difference, without precedence among each other.
A caret behind the opening bracket takes the complement. Directly behind
the opening, hyphens and then a closing bracket stand for themselves.

The reader keeps the open brackets and operators on a stack, so it reads
the text from left to right in one pass.
-/

namespace StreamFinder.Pattern

open Text

/-- An operator between sets. -/
inductive SetOp where
  | inter
  | diff
  | symmDiff
deriving DecidableEq, Repr

/-- The members of a set being read: what they hold, how many there are,
and how deep they are nested. -/
structure Members where
  set : CodeSet
  count : Nat
  depth : Nat
deriving DecidableEq, Repr

namespace Members

/-- No members. -/
def empty : Members := ⟨.empty, 0, 0⟩

/-- One more member, nested so deep. -/
def add (m : Members) (s : CodeSet) (depth : Nat) : Members :=
  ⟨.union m.set s, m.count + 1, Nat.max m.depth depth⟩

/-- How deep the members are nested together; two or more make a union. -/
def depthTogether (m : Members) : Nat := if m.count < 2 then m.depth else m.depth + 1

end Members

/-- What waits for the set being read to end. -/
inductive Pending where
  /-- A bracket, among the members `outer`. -/
  | bracket (outer : Members) (negated : Bool)
  /-- An operator with its left side, nested so deep. -/
  | op (kind : SetOp) (left : CodeSet) (depth : Nat)
deriving DecidableEq, Repr

/-- A set with the case variants that the flags ask for. -/
def withVariants (f : Flags) (s : CodeSet) : CodeSet :=
  if !f.caseless then s else if f.unicode then caseClosed s else asciiCaseClosed s

/-- Two sets under an operator. -/
def SetOp.combine (f : Flags) (left right : CodeSet) : SetOp → CodeSet
  | .inter => .inter (withVariants f left) (withVariants f right)
  | .diff => .diff (withVariants f left) (withVariants f right)
  | .symmDiff => .symmDiff (withVariants f left) (withVariants f right)

/-- A set at the end of its bracket: case variants first, then the
complement. In ASCII mode only a set of ASCII characters is text. -/
def closedSet? (f : Flags) (negated : Bool) (s : CodeSet) : Option CodeSet :=
  let s := withVariants f s
  let s := if negated then .compl s else s
  if f.unicode || s.isAscii then some s else none

/-- The named set in `[:name:]`, behind its opening bracket. -/
def readAsciiClass (f : Flags) (text : List Char) : Option (CodeSet × List Char) :=
  match text with
  | ':' :: text =>
    let (negated, text) := match text with
      | '^' :: text => (true, text)
      | text => (false, text)
    match text.span (· ≠ ':') with
    | (name, ':' :: ']' :: rest) =>
      match asciiNamed? (String.ofList name) with
      | some s => (closedSet? f negated s).map fun s => (s, rest)
      | none => none
    | _ => none
  | _ => none

/-- Whether the text starts with a named set, well or ill formed under the flags. -/
def startsAsciiClass (text : List Char) : Bool :=
  (readAsciiClass .initial text).isSome

/-- One member of a set: a character, which may start or end a range, or a set. -/
inductive Member where
  | char (c : Char)
  | set (s : CodeSet)
deriving DecidableEq, Repr

/-- A member that stands alone, or one end of a range. In ASCII mode a
character beyond ASCII is none. -/
def readMember (f : Flags) (text : List Char) : Option (Member × List Char) :=
  let char (c : Char) (rest : List Char) : Option (Member × List Char) :=
    if f.unicode || c.toNat < 128 then some (.char c, rest) else none
  match text with
  | [] => none
  | '\\' :: text =>
    match readEscape f text with
    | some (.char c _, rest) => char c rest
    | some (.set s, rest) => some (.set s, rest)
    | _ => none
  | c :: text => char c text

/-- The set of a member that stands alone. -/
def Member.toSet : Member → CodeSet
  | .char c => .single c.toNat
  | .set s => s

/-- A member or a range. A hyphen makes a range unless a closing bracket or
another hyphen follows it. -/
def readRange (f : Flags) (text : List Char) : Option (CodeSet × List Char) :=
  match readMember f text with
  | none => none
  | some (first, rest) =>
    match skip f.verbose rest with
    | [] => none
    | '-' :: behind =>
      match skip f.verbose behind with
      | [] => none
      | c :: rest' =>
        if c = ']' ∨ c = '-' then some (first.toSet, skip f.verbose rest)
        else
          match first, readMember f (c :: rest') with
          | .char a, some (.char b, rest) =>
            if a ≤ b then some (.ofChars a b, rest) else none
          | _, _ => none
    | rest => some (first.toSet, rest)

/-- The hyphens at the start of a set. -/
def readHyphens (verbose : Bool) : Nat → Members → List Char → Option (Members × List Char)
  | 0, _, _ => none
  | fuel + 1, m, text =>
    match text with
    | [] => none
    | '-' :: text => readHyphens verbose fuel (m.add (.single '-'.toNat) 0) (skip verbose text)
    | text => some (m, text)

/-- The opening of a set, behind its bracket: whether it is negated, and
the hyphens or the closing bracket that it starts with. -/
def readOpening (verbose : Bool) (text : List Char) : Option (Bool × Members × List Char) :=
  let (negated, text) := match skip verbose text with
    | '^' :: text => (true, skip verbose text)
    | text => (false, text)
  match readHyphens verbose (text.length + 1) .empty text with
  | none => none
  | some (m, text) =>
    if m.count ≠ 0 then some (negated, m, text)
    else
      match text with
      | ']' :: text =>
        match skip verbose text with
        | [] => none
        | text => some (negated, Members.empty.add (.single ']'.toNat) 0, text)
      | text => some (negated, m, text)

/-- Apply the operator that waits for its right side: the set, how deep it
is nested, and what else waits. -/
def applyPending (f : Flags) (right : Members) : List Pending → CodeSet × Nat × List Pending
  | .op kind left depth :: stack =>
    (kind.combine f left right.set, Nat.max depth right.depthTogether + 1, stack)
  | stack => (right.set, right.depthTogether, stack)

/-- Read a set from behind its opening to behind its closing bracket, with
its depth of nesting. `members` are those so far. -/
def readSet (f : Flags) :
    Nat → List Pending → Members → List Char → Option (CodeSet × Nat × List Char)
  | 0, _, _, _ => none
  | fuel + 1, stack, members, text =>
    let operator (kind : SetOp) (rest : List Char) : Option (CodeSet × Nat × List Char) :=
      let (left, depth, stack) := applyPending f members stack
      readSet f fuel (.op kind left depth :: stack) .empty rest
    match skip f.verbose text with
    | [] => none
    | '[' :: text =>
      if startsAsciiClass text then
        match readAsciiClass f text with
        | none => none
        | some (s, rest) => readSet f fuel stack (members.add s 0) rest
      else
        match readOpening f.verbose text with
        | none => none
        | some (negated, start, rest) =>
          readSet f fuel (.bracket members negated :: stack) start rest
    | ']' :: text =>
      match applyPending f members stack with
      | (whole, depth, .bracket outer negated :: stack) =>
        match closedSet? f negated whole with
        | none => none
        | some s =>
          if stack.isEmpty then some (s, depth + 1, text)
          else readSet f fuel stack (outer.add s (depth + 1)) text
      | _ => none
    | '&' :: '&' :: text => operator .inter text
    | '-' :: '-' :: text => operator .diff text
    | '~' :: '~' :: text => operator .symmDiff text
    | text =>
      match readRange f text with
      | none => none
      | some (s, rest) => readSet f fuel stack (members.add s 0) rest

/-- A set in brackets, behind its opening bracket, with its depth of nesting. -/
def readBracketed (f : Flags) (text : List Char) : Option (CodeSet × Nat × List Char) :=
  match readOpening f.verbose text with
  | none => none
  | some (negated, start, rest) =>
    readSet f (text.length + 1) [.bracket .empty negated] start rest

end StreamFinder.Pattern
