import StreamFinder.Text.Category

/-!
# Texts and values as a reader of a log sees them

A quoted text is enclosed in quotation marks. What would be mistaken for
the end of the text, what does not show and what would merge with the
mark before it is written as an escape: the usual one-letter escapes, and
the code point in hexadecimal for the rest. A record is written with its
name and its fields in order.
-/

namespace StreamFinder.Text

/-- The digits of a code point in lower-case hexadecimal. -/
def hexDigits (n : Nat) : List Char := Nat.toDigits 16 n

/-- The escape that names a code point. -/
def codePointEscape (c : Char) : List Char :=
  ['\\', 'u', '\x7b'] ++ hexDigits c.toNat ++ ['\x7d']

/-- One character of a quoted text. -/
def quotedChar (c : Char) : List Char :=
  if c = '\x00' then ['\\', '0']
  else if c = '\t' then ['\\', 't']
  else if c = '\r' then ['\\', 'r']
  else if c = '\n' then ['\\', 'n']
  else if c = '"' then ['\\', '"']
  else if c = '\\' then ['\\', '\\']
  else if c.toNat < 128 then
    if isPrintable c then [c] else codePointEscape c
  else if extendsPrevious c then codePointEscape c
  else if isPrintable c then [c]
  else codePointEscape c

/-- A text in quotation marks. -/
def quoted (s : String) : String :=
  String.ofList ('"' :: s.toList.flatMap quotedChar ++ ['"'])

/-- A record with its fields, `Name \x7b a: x, b: y \x7d`. -/
def recorded (name : String) (fields : List (String × String)) : String :=
  let shown := fields.map fun (label, value) => label ++ ": " ++ value
  name ++ " \x7b " ++ ", ".intercalate shown ++ " \x7d"

/-- A variant with one value, `Name(value)`. -/
def variant (name value : String) : String := name ++ "(" ++ value ++ ")"

/-- A list in brackets. -/
def listed (items : List String) : String := "[" ++ ", ".intercalate items ++ "]"

end StreamFinder.Text
