import StreamFinder.Text.Utf8

/-!
# Header fields

The name of a header field is a token, and names that differ in case only
are the same. Its value is any bytes but controls, where the tabulator is
no control.
-/

namespace StreamFinder.Web.Header

open Text

/-- The characters of a token. -/
def isTokenChar (c : Char) : Bool :=
  c.isAlphanum || c = '!' || c = '#' || c = '$' || c = '%' || c = '&' || c = '\x27' || c = '*' ||
  c = '+' || c = '-' || c = '.' || c = '^' || c = '_' || c = '\x60' || c = '|' || c = '~'

/-- How long the name of a field may be. -/
def maxNameLength : Nat := 65535

/-- Whether a text is the name of a field. -/
def isName (name : String) : Bool :=
  let s := name.toList
  s ≠ [] && s.all isTokenChar && s.length ≤ maxNameLength

/-- Whether a text is the value of a field. -/
def isValue (value : String) : Bool :=
  value.toList.all fun c => c = '\t' || (0x20 ≤ c.toNat && c ≠ '\x7f')

/-- Whether a value is all visible ASCII, where blanks and tabulators count as visible. -/
def isVisible (value : String) : Bool :=
  value.toList.all fun c => c = '\t' || (0x20 ≤ c.toNat && c.toNat < 0x7f)

/-- The form of a text in which names are compared: ASCII letters in lower case. -/
def lowered (name : String) : String := String.ofList (name.toList.map Char.toLower)

/-- Whether two names are the same. -/
def sameName (a b : String) : Bool := lowered a = lowered b

/-- The fields of a request: each name once, in lower case, with its values in order. -/
abbrev Fields := List (String × List String)

namespace Fields

/-- The values of a field. -/
def values (fields : Fields) (name : String) : List String := (fields.lookup (lowered name)).getD []

/-- The fields with one more value under a name, behind the values it has. -/
def append (fields : Fields) (name value : String) : Fields :=
  let key := lowered name
  match fields with
  | [] => [(key, [value])]
  | (key', values) :: rest =>
    if key' = key then (key', values ++ [value]) :: rest
    else (key', values) :: append rest name value

/-- The fields with one value under a name, in place of the values it has. -/
def replace (fields : Fields) (name value : String) : Fields :=
  let key := lowered name
  match fields with
  | [] => [(key, [value])]
  | (key', values) :: rest =>
    if key' = key then (key', [value]) :: rest
    else (key', values) :: replace rest name value

end Fields

end StreamFinder.Web.Header
