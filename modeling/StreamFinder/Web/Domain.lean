import StreamFinder.Text.Split
import StreamFinder.Web.Domain.Label

/-!
# Domain names

The ASCII form of a domain name. The name is put into its one spelling and
cut into labels; each label is checked as the text that it stands for, and
is written in ASCII, in coded form where it has other characters. Where
one of the labels runs from right to left, every label must keep one
direction, so that the order of the labels can be seen.
-/

namespace StreamFinder.Web.Domain

open Text

/-- Characters that never stand in a domain name. -/
def isForbidden (c : Char) : Bool :=
  c.toNat ≤ 0x20 || c = '#' || c = '/' || c = ':' || c = '<' || c = '>' || c = '?' || c = '@' ||
  c = '[' || c = '\\' || c = ']' || c = '^' || c = '|' || c = '%' || c = '\x7f'

/-- Labels with full stops between them. -/
def joined : List (List Char) → List Char
  | [] => []
  | [label] => label
  | label :: rest => label ++ '.' :: joined rest

/-- The texts of the labels of a name in its one spelling. -/
def labels? (name : List Char) : Option (List (List Char)) :=
  match (splitAtChars (· = '.') name).mapM plain? with
  | none => none
  | some labels =>
    if labels.all isWellFormed &&
        (!labels.any hasRightToLeft || labels.all fun l => directionsFit (l.map Direction.of))
    then some labels
    else none

/-- The ASCII form of a domain name. -/
def parse (s : List Char) : Option (List Char) :=
  match (spelled? s).bind labels? with
  | none => none
  | some labels =>
    let name := joined (labels.map ascii)
    if name = [] ∨ name.any isForbidden then none else some name

end StreamFinder.Web.Domain
