import StreamFinder.Web.Ipv4

/-!
# IPv6 addresses

Eight groups of up to four hexadecimal digits, where `::` stands for the
zero groups that are missing and the last two groups may be written as an
IPv4 address. An address is shown with its longest run of at least two
zero groups as `::`, the first one of equally long runs.
-/

namespace StreamFinder.Web.Ipv6

open Text

/-- A decimal byte of the IPv4 form: no sign, no leading zero, at most 255. -/
def decimalByte? (s : List Char) : Option Nat :=
  match s with
  | [] => none
  | ['0'] => some 0
  | '0' :: _ => none
  | digits =>
    match numberIn? 10 digits with
    | some n => if n ≤ 0xff then some n else none
    | none => none

/-- The groups that the IPv4 form stands for. -/
def embedded? (s : List Char) : Option (List Nat) :=
  match (splitAtChars (· = '.') s).mapM decimalByte? with
  | some [a, b, c, d] => some [a * 0x100 + b, c * 0x100 + d]
  | _ => none

/-- One group of hexadecimal digits. -/
def group? (s : List Char) : Option Nat :=
  if s ≠ [] ∧ s.length ≤ 4 then numberIn? 16 s else none

/-- Groups between colons, the last of which may have the IPv4 form. -/
def groups? : List (List Char) → Option (List Nat)
  | [] => some []
  | [last] => if last.contains '.' then embedded? last else (group? last).map fun n => [n]
  | s :: rest =>
    match group? s, groups? rest with
    | some n, some ns => some (n :: ns)
    | _, _ => none

/-- The text before and behind the first `::`. -/
def atGap : List Char → Option (List Char × List Char)
  | ':' :: ':' :: rest => some ([], rest)
  | c :: rest => (atGap rest).map fun (before, after) => (c :: before, after)
  | [] => none

/-- The groups of a text without `::`; none for the empty text. -/
def side? (s : List Char) : Option (List Nat) :=
  if s = [] then some [] else groups? (splitAtChars (· = ':') s)

/-- The eight groups of an address. -/
def parse (s : List Char) : Option (List Nat) :=
  match atGap s with
  | none =>
    match side? s with
    | some groups => if groups.length = 8 then some groups else none
    | none => none
  | some (before, after) =>
    if before.contains '.' then none
    else
      match side? before, side? after with
      | some left, some right =>
        if left.length + right.length ≤ 7 then
          some (left ++ List.replicate (8 - (left.length + right.length)) 0 ++ right)
        else none
      | _, _ => none

/-- How many zero groups stand at the front. -/
def zeroRun (groups : List Nat) : Nat := (groups.takeWhile (· = 0)).length

/-- The longest run of zero groups: where it starts and how long it is. -/
def longestRun : Nat → List Nat → Nat × Nat
  | place, [] => (place, 0)
  | place, g :: rest =>
    let later := longestRun (place + 1) rest
    let here := zeroRun (g :: rest)
    if later.2 ≤ here then (place, here) else later

/-- Groups with colons between them. -/
def joined : List Nat → List Char
  | [] => []
  | [g] => Nat.toDigits 16 g
  | g :: rest => Nat.toDigits 16 g ++ ':' :: joined rest

/-- The address in its short form. -/
def render (groups : List Nat) : List Char :=
  let (start, length) := longestRun 0 groups
  if length < 2 then joined groups
  else joined (groups.take start) ++ ':' :: ':' :: joined (groups.drop (start + length))

end StreamFinder.Web.Ipv6
