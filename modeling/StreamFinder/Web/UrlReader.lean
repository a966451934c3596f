import StreamFinder.Text.Split
import StreamFinder.Web.Url

/-!
# Reading URLs

A URL is read the way browsers read one: blanks around it and line breaks
inside are dropped, schemes and hosts are put into their canonical form,
dots in the path are resolved, and what cannot stand as it is is percent
encoded. A text without a scheme is a reference, which needs a base to be
read against.
-/

namespace StreamFinder.Web.Url

open Text

/-! ## What is encoded where -/

/-- Encoded in a fragment. -/
def inFragment (c : Char) : Bool :=
  c.toNat ≤ 0x20 || c = '\x7f' || c = '"' || c = '<' || c = '>' || c = '\x60'

/-- Encoded in a path. -/
def inPath (c : Char) : Bool := inFragment c || c = '#' || c = '?' || c = '\x7b' || c = '\x7d'

/-- Encoded in a user name or a password. -/
def inUserInfo (c : Char) : Bool :=
  inPath c || c = '/' || c = ':' || c = ';' || c = '=' || c = '@' || c = '[' || c = '\\' ||
  c = ']' || c = '^' || c = '|'

/-- Encoded in a query; the apostrophe only where domain names are known. -/
def inQuery (special : Bool) (c : Char) : Bool :=
  c.toNat ≤ 0x20 || c = '\x7f' || c = '"' || c = '#' || c = '<' || c = '>' ||
  (special && c = '\x27')

/-- A text with the characters of a set encoded. -/
def encoded (mustEncode : Char → Bool) (s : List Char) : String :=
  String.ofList (percentEncode mustEncode s)

/-! ## The end of a URL -/

/-- The fragment behind a number sign. -/
def fragmentOf : List Char → Option String
  | '#' :: rest => some (encoded inFragment rest)
  | _ => none

/-- The query and the fragment at the end of a URL. -/
def queryAndFragment (special : Bool) : List Char → Option String × Option String
  | '?' :: rest =>
    let query := rest.takeWhile (· ≠ '#')
    (some (encoded (inQuery special) query), fragmentOf (rest.drop query.length))
  | s => (none, fragmentOf s)

/-! ## Paths -/

/-- Whether a character separates the segments of a path. -/
def isSlash (special : Bool) (c : Char) : Bool := c = '/' || (special && c = '\\')

/-- Whether a segment is a dot, written or encoded. -/
def isDot (s : List Char) : Bool :=
  let lower := s.map Char.toLower
  lower = ['.'] || lower = ['%', '2', 'e']

/-- Whether a segment is two dots, each written or encoded. -/
def isDotDot (s : List Char) : Bool :=
  match s with
  | '.' :: rest => isDot rest
  | a :: b :: c :: rest => isDot [a, b, c] && isDot rest
  | _ => false

/-- Whether a segment names a drive. -/
def isDrive (s : List Char) : Bool :=
  match s with
  | [letter, mark] => letter.isAlpha && (mark = ':' || mark = '|')
  | _ => false

/-- The path without its last segment; a drive alone stays in the path of a file. -/
def shortened (file : Bool) (path : List String) : List String :=
  match path with
  | [only] => if file && isDrive only.toList then [only] else []
  | _ => path.dropLast

/-- The text of a segment. The first segment of a file's path may name a
drive, which is written with a colon. -/
def segmentText (file : Bool) (path : List String) (s : List Char) : String :=
  match file && path.isEmpty && isDrive s, s with
  | true, letter :: _ => String.ofList [letter, ':']
  | _, _ => encoded inPath s

/-- Walk along segments. A dot stays, two dots go back, and either at the
end leaves an empty segment. -/
def walkPath (file : Bool) : List String → List (List Char) → List String
  | path, [] => path
  | path, [s] =>
    if isDotDot s then shortened file path ++ [""]
    else if isDot s then path ++ [""]
    else path ++ [segmentText file path s]
  | path, s :: rest =>
    if isDotDot s then walkPath file (shortened file path) rest
    else if isDot s then walkPath file path rest
    else walkPath file (path ++ [segmentText file path s]) rest

/-- The front of a text up to a query or a fragment, and the rest. -/
def splitPath (s : List Char) : List Char × List Char :=
  let path := s.takeWhile fun c => c ≠ '?' && c ≠ '#'
  (path, s.drop path.length)

/-- The URL with a path that is walked from the given segments on, and
with the query and the fragment behind it. -/
def withPath (u : Url) (start : List String) (s : List Char) : Url :=
  let special := isSpecial u.scheme
  let (path, rest) := splitPath s
  let (query, fragment) := queryAndFragment special rest
  let segments := walkPath (u.scheme = "file") start (splitAtChars (isSlash special) path)
  { u with path := .segments segments, query := query, fragment := fragment }

/-- The URL with the path that stands behind its authority. -/
def withPathStart (u : Url) (s : List Char) : Url :=
  let special := isSpecial u.scheme
  match s with
  | [] => if special then withPath u [] [] else { u with path := .segments [] }
  | c :: rest =>
    if isSlash special c then withPath u [] rest
    else if special then withPath u [] s
    else
      let (query, fragment) := queryAndFragment special s
      { u with path := .segments [], query := query, fragment := fragment }

/-! ## Authorities -/

/-- The user part and the rest of an authority: what stands before and
behind the last `@` in front of the path. -/
def splitUserInfo (special : Bool) (s : List Char) : Option (List Char) × List Char :=
  let front := s.takeWhile fun c => c ≠ '?' && c ≠ '#' && !isSlash special c
  if front.contains '@' then
    let behind := (front.reverse.takeWhile (· ≠ '@')).reverse
    (some (front.take (front.length - behind.length - 1)), s.drop (front.length - behind.length))
  else (none, s)

/-- The text up to the colon before a port; a colon in brackets is none. -/
def hostLength (special : Bool) : Bool → List Char → Nat
  | _, [] => 0
  | bracket, c :: rest =>
    if c = '?' || c = '#' || isSlash special c || (c = ':' && !bracket) then 0
    else hostLength special (c = '[' || (bracket && c ≠ ']')) rest + 1

/-- The port behind a colon, and the rest. The port that the scheme implies is left out. -/
def readPort (scheme : String) (s : List Char) : Option (Option Nat × List Char) :=
  let digits := s.takeWhile Char.isDigit
  let rest := s.drop digits.length
  let ended := match rest with
    | [] => true
    | c :: _ => c = '/' || c = '\\' || c = '?' || c = '#'
  match numberIn? 10 digits with
  | none => none
  | some n =>
    if n < 65536 && ended then
      some (if digits = [] ∨ some n = defaultPort? scheme then none else some n, rest)
    else none

/-- A URL of nothing but a scheme. -/
def bare (scheme : String) : Url := ⟨scheme, "", "", none, none, .segments [], none, none⟩

/-- The URL whose authority begins here. -/
def readAuthority (scheme : String) (s : List Char) : Option Url :=
  let special := isSpecial scheme
  let (user, s) := splitUserInfo special s
  let length := hostLength special false s
  let text := s.take length
  let host? := if special then Host.named? text else Host.plain? text
  let after := s.drop length
  match host?, user with
  | none, _ => none
  | some [], some _ => none
  | some host, _ =>
    let info := user.getD []
    let name := info.takeWhile (· ≠ ':')
    let secret := info.drop (name.length + 1)
    let u := { bare scheme with
      username := encoded inUserInfo name
      password := encoded inUserInfo secret
      host := some (String.ofList host) }
    match after with
    | ':' :: rest =>
      if host = [] then none
      else (readPort scheme rest).map fun (port, rest) => withPathStart { u with port := port } rest
    | _ => some (withPathStart u after)

/-! ## References -/

/-- The base with another fragment. -/
def withFragment (base : Url) (s : List Char) : Url := { base with fragment := fragmentOf s }

/-- The segments of a path. -/
def segmentsOf (u : Url) : List String :=
  match u.path with
  | .segments list => list
  | .plain _ => []

/-- Read a reference that has no scheme of its own, or the scheme of the base. -/
def readRelative (base : Url) (s : List Char) : Option Url :=
  let special := isSpecial base.scheme
  match s with
  | [] => some { base with fragment := none }
  | '#' :: _ => some (withFragment base s)
  | '?' :: _ =>
    let (query, fragment) := queryAndFragment special s
    some { base with query := query, fragment := fragment }
  | '/' :: '/' :: rest => readAuthority base.scheme rest
  | c :: rest =>
    if isSlash special c then
      match rest with
      | d :: _ =>
        if isSlash special d then
          readAuthority base.scheme (s.dropWhile (isSlash special))
        else some (withPath base [] rest)
      | [] => some (withPath base [] [])
    else
      some (withPath base (shortened (base.scheme = "file") base.segmentsOf) s)

/-! ## Files -/

/-- Whether a text begins with the name of a drive. -/
def beginsWithDrive (s : List Char) : Bool :=
  match s with
  | a :: b :: rest =>
    isDrive [a, b] &&
      (match rest with
        | [] => true
        | c :: _ => c = '/' || c = '\\' || c = '?' || c = '#')
  | _ => false

/-- The URL of a file whose host begins here. The host of this machine is left out. -/
def readFileHost (s : List Char) : Option Url :=
  let host := s.takeWhile fun c => c ≠ '?' && c ≠ '#' && !isSlash true c
  let u := bare "file"
  if isDrive host then some (withPath { u with host := some "" } [] s)
  else if host = [] then some (withPathStart { u with host := some "" } s)
  else
    match Host.named? host with
    | none => none
    | some name =>
      let text := String.ofList name
      let shown := if text = "localhost" then "" else text
      some (withPathStart { u with host := some shown } (s.drop host.length))

/-- The drive that the path of a base begins with. -/
def driveOf (base : Option Url) : List String :=
  match base with
  | none => []
  | some b =>
    match b.segmentsOf with
    | first :: _ => if b.scheme = "file" ∧ isDrive first.toList then [first] else []
    | [] => []

/-- The URL of a file. -/
def readFile (base : Option Url) (s : List Char) : Option Url :=
  let base := base.filter fun b => b.scheme = "file"
  let u := base.getD { bare "file" with host := some "" }
  match s with
  | c :: rest =>
    if isSlash true c then
      match rest with
      | d :: more =>
        if isSlash true d then readFileHost more
        else if beginsWithDrive rest then some (withPath u [] rest)
        else some (withPath u (driveOf base) rest)
      | [] => some (withPath u (driveOf base) [])
    else if base.isNone || beginsWithDrive s then some (withPath u [] s)
    else readRelative u s
  | [] => if base.isNone then some (withPath u [] []) else readRelative u []

/-! ## The whole -/

/-- The scheme of a text, in lower case, and what follows its colon. -/
def splitScheme : List Char → Option (String × List Char)
  | [] => none
  | c :: rest =>
    if c.isAlpha then
      let tail := rest.takeWhile fun c => c.isAlphanum || c = '+' || c = '-' || c = '.'
      match rest.drop tail.length with
      | ':' :: after => some (String.ofList ((c :: tail).map Char.toLower), after)
      | _ => none
    else none

/-- The URL behind a scheme. -/
def readScheme (base : Option Url) (scheme : String) (s : List Char) : Option Url :=
  if scheme = "file" then readFile base s
  else if isSpecial scheme then
    let slashes := (s.takeWhile (isSlash true)).length
    match base.filter fun b => b.scheme = scheme ∧ slashes < 2 with
    | some b => readRelative b s
    | none => readAuthority scheme (s.drop slashes)
  else
    match s with
    | '/' :: '/' :: rest => readAuthority scheme rest
    | '/' :: rest => some (withPath (bare scheme) [] rest)
    | _ =>
      let (path, rest) := splitPath s
      let (query, fragment) := queryAndFragment false rest
      some { bare scheme with
        path := .plain (encoded Host.isControl path), query := query, fragment := fragment }

/-- Whether a character is dropped at both ends of a URL. -/
def isMargin (c : Char) : Bool := c.toNat ≤ 0x20

/-- Whether a character is dropped everywhere. -/
def isBreak (c : Char) : Bool := c = '\t' || c = '\n' || c = '\r'

/-- A text without what is dropped. -/
def cleaned (text : String) : List Char :=
  (((text.toList.dropWhile isMargin).reverse.dropWhile isMargin).reverse).filter (!isBreak ·)

/-- Read a URL against a base. -/
def read (base : Option Url) (text : String) : Option Url :=
  let s := cleaned text
  match splitScheme s with
  | some (scheme, rest) => readScheme base scheme rest
  | none =>
    match base with
    | none => none
    | some b =>
      match b.path, s with
      | .plain _, '#' :: _ => some (withFragment b s)
      | .plain _, _ => none
      | .segments _, _ => if b.scheme = "file" then readFile base s else readRelative b s

/-- The URL that a text writes. -/
def parse (text : String) : Option Url := read none text

/-- The URL that a reference means in a URL. -/
def join (u : Url) (reference : String) : Option Url := read (some u) reference

end StreamFinder.Web.Url
