import StreamFinder.Web.Domain
import StreamFinder.Web.Ipv6

/-!
# Hosts

The host of an address in its canonical text. For the schemes that know
domain names it is one, or an IPv4 address, or an IPv6 address in
brackets; for other schemes it is an IPv6 address or any text without the
characters that end a host.
-/

namespace StreamFinder.Web.Host

open Text

/-- The text between a pair of brackets around the whole. -/
def bracketed? : List Char → Option (List Char)
  | '[' :: rest =>
    match rest.reverse with
    | ']' :: inner => some inner.reverse
    | _ => none
  | _ => none

/-- An IPv6 address in brackets. -/
def ipv6? (s : List Char) : Option (List Char) :=
  match bracketed? s with
  | none => none
  | some inner => (Ipv6.parse inner).map fun groups => '[' :: Ipv6.render groups ++ [']']

/-- The host of a scheme that knows domain names. -/
def named? (s : List Char) : Option (List Char) :=
  match s with
  | '[' :: _ => ipv6? s
  | _ =>
    match ofUtf8? (percentDecode s) with
    | none => none
    | some text =>
      match Domain.parse text with
      | none => none
      | some name =>
        if Ipv4.endsInNumber name then (Ipv4.parse name).map Ipv4.render else some name

/-- Characters that never stand in the host of any scheme. -/
def isForbidden (c : Char) : Bool :=
  c = '\x00' || c = '\t' || c = '\n' || c = '\r' || c = ' ' || c = '#' || c = '/' || c = ':' ||
  c = '<' || c = '>' || c = '?' || c = '@' || c = '[' || c = '\\' || c = ']' || c = '^' || c = '|'

/-- Control characters. -/
def isControl (c : Char) : Bool := c.toNat < 0x20 || c = '\x7f'

/-- The host of any other scheme. -/
def plain? (s : List Char) : Option (List Char) :=
  match s with
  | '[' :: _ => ipv6? s
  | _ => if s.any isForbidden then none else some (percentEncode isControl s)

end StreamFinder.Web.Host
