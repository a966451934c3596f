import StreamFinder.Json.Value

/-!
# Writing JSON

The compact form: no blanks between tokens, members in the order they
have, a string with the fewest escapes. The quotation mark, the backslash
and the control characters are escaped, the last by their one-letter
escape where JSON has one and as four hexadecimal digits otherwise; every
other character is written as it is.
-/

namespace StreamFinder.Json

/-- One character of a string. -/
def escape (c : Char) : List Char :=
  if c = '"' then ['\\', '"']
  else if c = '\\' then ['\\', '\\']
  else if c = '\x08' then ['\\', 'b']
  else if c = '\x0c' then ['\\', 'f']
  else if c = '\n' then ['\\', 'n']
  else if c = '\r' then ['\\', 'r']
  else if c = '\t' then ['\\', 't']
  else if c.toNat < 0x20 then
    ['\\', 'u', '0', '0', Nat.digitChar (c.toNat / 16), Nat.digitChar (c.toNat % 16)]
  else [c]

/-- A string in quotation marks. -/
def quote (s : String) : List Char :=
  '"' :: (s.toList.flatMap escape ++ ['"'])

/-- A number as it is written. -/
def Number.render (n : Number) : List Char :=
  (if n.negative then ['-'] else []) ++ (toString n.whole).toList ++ n.tail.toList

/-- The texts with commas between them. -/
def commaSeparated : List (List Char) → List Char
  | [] => []
  | [t] => t
  | t :: ts => t ++ ',' :: commaSeparated ts

namespace Value

mutual

/-- The compact form of a value. A garbled string has no text and is written empty. -/
def chars : Value → List Char
  | .null => ['n', 'u', 'l', 'l']
  | .bool true => ['t', 'r', 'u', 'e']
  | .bool false => ['f', 'a', 'l', 's', 'e']
  | .number n => n.render
  | .text s => quote s
  | .garbled => quote ""
  | .array items => '[' :: (commaSeparated (itemChars items) ++ [']'])
  | .object members => '\x7b' :: (commaSeparated (memberChars members) ++ ['\x7d'])

/-- The compact forms of the items of an array. -/
def itemChars : List Value → List (List Char)
  | [] => []
  | v :: vs => v.chars :: itemChars vs

/-- The compact forms of the members of an object. -/
def memberChars : List (Option String × Value) → List (List Char)
  | [] => []
  | (name, v) :: ms => (quote (name.getD "") ++ ':' :: v.chars) :: memberChars ms

end

/-- The compact form of a value as a text. -/
def render (v : Value) : String := String.ofList v.chars

/-- The members with one more, in the order of their names; a member of the same name gives way. -/
def insertMember (name : Option String) (v : Value) :
    List (Option String × Value) → List (Option String × Value)
  | [] => [(name, v)]
  | (name', v') :: ms =>
    if name = name' then (name, v) :: ms
    else if (name.getD "") < (name'.getD "") then (name, v) :: (name', v') :: ms
    else (name', v') :: insertMember name v ms

mutual

/-- The value with the members of every object in the order of their names. -/
def sorted : Value → Value
  | .array items => .array (sortedItems items)
  | .object members => .object (sortedMembers members)
  | v => v

/-- The items with their objects in order. -/
def sortedItems : List Value → List Value
  | [] => []
  | v :: vs => v.sorted :: sortedItems vs

/-- The members in order; of repeated names the last counts. -/
def sortedMembers : List (Option String × Value) → List (Option String × Value)
  | [] => []
  | (name, v) :: ms =>
    let rest := sortedMembers ms
    if rest.any (·.1 == name) then rest else insertMember name v.sorted rest

end

end Value

end StreamFinder.Json
