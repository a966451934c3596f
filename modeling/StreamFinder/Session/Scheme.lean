/-!
# Addresses without a scheme

Users write addresses without a scheme, `host/path` or `//host/path`. They
are given one before anything else happens. A letter, more letters, digits
or `+`, `.`, `-`, and a colon make a scheme; but digits behind the colon
make it a host with a port, unless what looks like a scheme is taken from
an address that lends its scheme to others.
-/

namespace StreamFinder.Session

/-- The characters of a scheme after its first one. -/
def isSchemeChar (c : Char) : Bool := c.isAlphanum || c = '+' || c = '.' || c = '-'

/-- The scheme that an address begins with, and what follows the colon. -/
def splitScheme (url : List Char) : Option (List Char × List Char) :=
  match url with
  | [] => none
  | c :: rest =>
    if c.isAlpha then
      match rest.dropWhile isSchemeChar with
      | ':' :: after => some (c :: rest.takeWhile isSchemeChar, after)
      | _ => none
    else none

/-- Whether the text behind a colon begins like a port. -/
def beginsWithDigit : List Char → Bool
  | [] => false
  | c :: _ => c.isDigit

/-- Whether an address has a scheme of its own. -/
def hasScheme (url : List Char) : Bool :=
  match splitScheme url with
  | none => false
  | some (_, after) => !beginsWithDigit after

/-- The scheme of addresses that neither have one nor are lent one. -/
def defaultScheme : List Char := ['h', 't', 't', 'p', 's']

/-- The scheme that an address lends to others. -/
def lentScheme (current : List Char) : List Char :=
  match splitScheme current with
  | none => defaultScheme
  | some (scheme, _) => scheme

/-- An address without two slashes at its start. -/
def dropSlashes : List Char → List Char
  | '/' :: '/' :: rest => rest
  | url => url

/-- The target with the scheme of the current address, unless it has one of its own. -/
def updateScheme (current target : String) : String :=
  if hasScheme target.toList then target
  else
    String.ofList (lentScheme current.toList ++ ':' :: '/' :: '/' :: dropSlashes target.toList)

/-- The address that a session works with in place of the given one. -/
def normalized (url : String) : String := updateScheme "https://" url

end StreamFinder.Session
