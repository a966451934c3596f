import StreamFinder.Text.Digits
import StreamFinder.Text.Utf8

/-!
# Request addresses

The strict form in which an address stands in a request. Nothing is
repaired here: a text either has the form or it does not. An address is a
path, or an authority alone, or a scheme, an authority and a path with
perhaps a query; a fragment is dropped.
-/

namespace StreamFinder.Web

open Text

/-- The characters of an authority, and those that end it. -/
def isAuthorityChar (c : Char) : Bool :=
  c.isAlphanum || c = '!' || c = '#' || c = '$' || c = '&' || c = '\x27' || c = '(' || c = ')' ||
  c = '*' || c = '+' || c = ',' || c = '-' || c = '.' || c = '/' || c = ':' || c = ';' ||
  c = '=' || c = '?' || c = '@' || c = '[' || c = ']' || c = '_' || c = '~'

/-- Whether a character ends an authority. -/
def endsAuthority (c : Char) : Bool := c = '/' || c = '?' || c = '#'

/-- What has been seen of an authority. A new user part forgets the colons
and percent signs before it, and so does the end of an IPv6 address. -/
structure AuthorityScan where
  colons : Nat
  opened : Bool
  shut : Bool
  percent : Bool
  endsInAt : Bool

namespace AuthorityScan

/-- Nothing has been seen. -/
def start : AuthorityScan := ⟨0, false, false, false, false⟩

/-- How many colons an address in brackets with a port can have. -/
def maxColons : Nat := 8

/-- See one character. -/
def next (a : AuthorityScan) (c : Char) : Option AuthorityScan :=
  if c = ':' then
    if maxColons ≤ a.colons then none else some { a with colons := a.colons + 1, endsInAt := false }
  else if c = '[' then
    if a.percent || a.opened then none else some { a with opened := true, endsInAt := false }
  else if c = ']' then
    if !a.opened || a.shut then none else some ⟨0, true, true, false, false⟩
  else if c = '@' then some { a with colons := 0, percent := false, endsInAt := true }
  else if c = '%' then some { a with percent := true, endsInAt := false }
  else if isAuthorityChar c then some { a with endsInAt := false }
  else none

/-- Whether the authority may end here. -/
def isComplete (a : AuthorityScan) : Bool :=
  a.opened == a.shut && a.colons ≤ 1 && !a.endsInAt && !a.percent

end AuthorityScan

/-- The authority at the front of a text, and what follows it. -/
def splitAuthority (s : List Char) : Option (List Char × List Char) :=
  let front := s.takeWhile fun c => !endsAuthority c
  match front.foldlM AuthorityScan.next .start with
  | none => none
  | some a => if a.isComplete then some (front, s.drop front.length) else none

/-- Whether a text is an authority. -/
def isAuthority (s : List Char) : Bool :=
  match splitAuthority s with
  | some (_ :: _, []) => true
  | _ => false

/-- A request address. An absent authority or path is empty. -/
structure Uri where
  scheme : Option String
  authority : String
  path : String
deriving DecidableEq, Repr

namespace Uri

/-- How many bytes an address may have. -/
def maxLength : Nat := 65534

/-- How many characters a scheme may have. -/
def maxSchemeLength : Nat := 64

/-- The characters of a scheme. -/
def isSchemeChar (c : Char) : Bool :=
  c.isAlphanum || c = '+' || c = '-' || c = '.' || c = '~'

/-- The characters of a path. -/
def isPathChar (c : Char) : Bool :=
  c = '!' || ('$' ≤ c && c ≤ ';') || c = '=' || ('@' ≤ c && c ≤ '_') || ('a' ≤ c && c ≤ 'z') ||
  c = '|' || c = '~' || c = '"' || c = '\x7b' || c = '\x7d' || 0x7f ≤ c.toNat

/-- The characters of a query. -/
def isQueryChar (c : Char) : Bool :=
  c = '!' || ('$' ≤ c && c ≤ ';') || c = '=' || '?' ≤ c

/-- The path and the query of an address, from behind its authority to its fragment. -/
def path? (s : List Char) : Option (List Char) :=
  let path := s.takeWhile fun c => c ≠ '?' && c ≠ '#'
  if path.all isPathChar then
    match s.drop path.length with
    | '?' :: rest =>
      let query := rest.takeWhile (· ≠ '#')
      if query.all isQueryChar then some (path ++ '?' :: query) else none
    | _ => some path
  else none

/-- The scheme before `://`, if there is one, and what follows. A scheme
that is too long spoils the address. -/
def splitScheme (s : List Char) : Option (Option (List Char) × List Char) :=
  let scheme := s.takeWhile isSchemeChar
  match s.drop scheme.length with
  | ':' :: '/' :: '/' :: rest =>
    if s.length ≤ 3 then some (none, s)
    else if scheme.length ≤ maxSchemeLength then some (some scheme, rest)
    else none
  | _ => some (none, s)

/-- The scheme as it is kept: the two schemes of the web in lower case. -/
def keptScheme (scheme : List Char) : String :=
  let lower := String.ofList (scheme.map Char.toLower)
  if lower = "http" ∨ lower = "https" then lower else String.ofList scheme

/-- The address that a text writes. -/
def parse (text : String) : Option Uri :=
  let s := text.toList
  if maxLength < (utf8 s).length then none
  else
    match s with
    | [] => none
    | ['*'] => some ⟨none, "", "*"⟩
    | '/' :: _ => (path? s).map fun path => ⟨none, "", String.ofList path⟩
    | _ =>
      match splitScheme s with
      | none => none
      | some (scheme, rest) =>
        match scheme, splitAuthority rest with
        | _, none => none
        | none, some (authority, []) => some ⟨none, String.ofList authority, ""⟩
        | none, some (_, _ :: _) => none
        | some _, some ([], _) => none
        | some scheme, some (c :: authority, after) =>
          (path? after).map fun path =>
            ⟨some (keptScheme scheme), String.ofList (c :: authority), String.ofList path⟩

/-- The authority without its user part. -/
def hostAndPort (authority : List Char) : List Char :=
  (authority.reverse.takeWhile (· ≠ '@')).reverse

/-- The host. -/
def host (u : Uri) : List Char :=
  match hostAndPort u.authority.toList with
  | '[' :: rest => '[' :: rest.takeWhile (· ≠ ']') ++ [']']
  | s => s.takeWhile (· ≠ ':')

/-- The number that decimal digits write, with a plus sign before them or without. -/
def portNumber? (s : List Char) : Option Nat :=
  let digits := match s with
    | '+' :: rest => rest
    | _ => s
  if digits ≠ [] ∧ digits.all Char.isDigit then
    let n := decimalValue digits
    if n < 65536 then some n else none
  else none

/-- The port, if one is written. -/
def port? (u : Uri) : Option Nat :=
  let s := u.authority.toList
  if s.contains ':' then portNumber? (s.reverse.takeWhile (· ≠ ':')).reverse else none

/-- The authority behind its first user part. -/
def hostHeader (u : Uri) : List Char :=
  let s := u.authority.toList
  if s.contains '@' then (s.dropWhile (· ≠ '@')).drop 1 else s

end Uri

end StreamFinder.Web
