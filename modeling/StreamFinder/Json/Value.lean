/-!
# JSON values

A value of the JSON data format, as it stands in a document: members of
an object keep their order and their repetitions, and a number keeps the
way it is written, because whether a number is an integer is decided by
its spelling.
-/

namespace StreamFinder.Json

/-- A number: its sign, its whole part and, as written, the fraction and
the exponent that follow. The grammar admits no leading zeros, so the
whole part is told by its value. -/
structure Number where
  negative : Bool
  whole : Nat
  tail : String
deriving DecidableEq, Repr

/-- A JSON value. A `garbled` string, as a value or as the name of a
member (`none`), is one whose escapes denote half of a surrogate pair:
it is well formed, and no text. -/
inductive Value where
  | null
  | bool (b : Bool)
  | number (n : Number)
  | text (s : String)
  | garbled
  | array (items : List Value)
  | object (members : List (Option String × Value))

namespace Number

/-- The integer as a number. -/
def ofInt (i : Int) : Number := ⟨i < 0, i.natAbs, ""⟩

/-- The value of an integer literal without a minus sign. -/
def toNat? (n : Number) : Option Nat :=
  if n.negative = false ∧ n.tail = "" then some n.whole else none

/-- The integer that an integer literal denotes. -/
def toInt? (n : Number) : Option Int :=
  if n.tail = "" then some (if n.negative then -(n.whole : Int) else n.whole) else none

end Number

namespace Value

/-- A natural number. -/
def nat (n : Nat) : Value := .number (.ofInt n)

/-- An object whose member names are given as texts. -/
def record (members : List (String × Value)) : Value :=
  .object (members.map fun (name, value) => (some name, value))

/-- A list of texts. -/
def texts (items : List String) : Value := .array (items.map .text)

/-- The value if it is there, and `null` otherwise. -/
def orNull {α : Type} (toValue : α → Value) : Option α → Value
  | none => .null
  | some a => toValue a

/-- The member of an object under a name: the last one, where the name is repeated. -/
def member? (name : String) : Value → Option Value
  | .object members => (members.reverse.find? fun m => m.1 == some name).map (·.2)
  | _ => none

/-- The member under a name, where an absent member is the same as `null`. -/
def member (v : Value) (name : String) : Value := (v.member? name).getD .null

/-- The text of a string. -/
def text? : Value → Option String
  | .text s => some s
  | _ => none

/-- The truth value. -/
def bool? : Value → Option Bool
  | .bool b => some b
  | _ => none

/-- A natural number written as an integer. -/
def nat? : Value → Option Nat
  | .number n => n.toNat?
  | _ => none

/-- The items of an array. -/
def array? : Value → Option (List Value)
  | .array items => some items
  | _ => none

/-- Whether the value is `null`. -/
def isNull : Value → Bool
  | .null => true
  | _ => false

end Value

end StreamFinder.Json
