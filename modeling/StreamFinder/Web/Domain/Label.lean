import StreamFinder.Text.CombiningClass
import StreamFinder.Text.Direction
import StreamFinder.Text.Joining
import StreamFinder.Web.Domain.Spelling
import StreamFinder.Web.Punycode

/-!
# Labels of domain names

The labels are the parts of a name between its full stops. A label may be
given in coded form, behind `xn--`; it then stands for the text that is
coded (`plain?`), which must be one that has to be coded and that is in
the one spelling already. On the text of a label there are three rules: it
does not begin with a mark, a joiner stands in it only where it has an
effect on what is shown (`joinersFit`), and in a name that runs from right
to left somewhere it keeps one direction (`directionsFit`).
-/

namespace StreamFinder.Web.Domain

open Text

/-- What a coded label begins with. -/
def codeMark : List Char := ['x', 'n', '-', '-']

/-- The length of the longest code that is read. -/
def maxCode : Nat := 2000

/-- The length of the longest text that is coded. -/
def maxText : Nat := 1000

/-- The text that a label stands for; nothing if the label is in coded
form but not the code of such a text. -/
def plain? (label : List Char) : Option (List Char) :=
  if !codeMark.isPrefixOf label then some label
  else
    let code := label.drop codeMark.length
    if maxCode < code.length then none
    else
      match Punycode.decode code with
      | none => none
      | some text =>
        if text.all (fun c => c.toNat < 0x80) || codeMark.isPrefixOf text then none
        else if spelled? text = some text then some text
        else none

/-! ## Joiners -/

/-- Whether the first of these characters that is not transparent has a property. -/
def firstSolid (has : Char → Bool) (s : List Char) : Bool :=
  match s.find? fun c => has c || !Joining.transparent.hasChar c with
  | some c => has c
  | none => false

/-- Whether a joiner may stand between two texts, of which the one before
it is reversed: behind a mark that takes away a vowel, and the one that
prevents joining also between letters that would join. -/
def joinerFits (c : Char) (before behind : List Char) : Bool :=
  match before with
  | [] => false
  | b :: _ =>
    CombiningClass.of b.toNat = 9 ||
      (c = '\u200c' && firstSolid Joining.joinsNext before &&
        firstSolid Joining.joinsPrevious behind)

/-- Whether every joiner of a text fits, where `before` stands before the text, reversed. -/
def joinersFit (before : List Char) : List Char → Bool
  | [] => true
  | c :: rest =>
    (!(c = '\u200c' || c = '\u200d') || joinerFits c before rest) && joinersFit (c :: before) rest

/-! ## Directions -/

/-- The classes that a label which runs from left to right is made of. -/
def leftToRightParts : List Direction :=
  [.leftToRight, .europeanNumber, .europeanSeparator, .commonSeparator, .europeanTerminator,
   .neutral, .boundary, .mark]

/-- The classes that a label which runs from right to left is made of. -/
def rightToLeftParts : List Direction :=
  [.rightToLeft, .arabicLetter, .arabicNumber, .europeanNumber, .europeanSeparator,
   .commonSeparator, .europeanTerminator, .neutral, .boundary, .mark]

/-- The classes in which a label that runs from left to right may end. -/
def leftToRightEnds : List Direction := [.leftToRight, .europeanNumber]

/-- The classes in which a label that runs from right to left may end. -/
def rightToLeftEnds : List Direction :=
  [.rightToLeft, .arabicLetter, .arabicNumber, .europeanNumber]

/-- Whether a label, given as the classes of its characters, keeps one
direction: its first character is a letter and sets it, what comes last
before any marks is a letter of that direction or a number, and numbers
are of one kind. -/
def directionsFit : List Direction → Bool
  | [] => true
  | first :: rest =>
    let body := (rest.reverse.dropWhile (· = .mark)).reverse
    if first = .leftToRight then
      body.getLast?.all (leftToRightEnds.contains ·) && body.all (leftToRightParts.contains ·)
    else if first = .rightToLeft ∨ first = .arabicLetter then
      body.getLast?.all (rightToLeftEnds.contains ·) && body.all (rightToLeftParts.contains ·) &&
        !(body.contains .europeanNumber && body.contains .arabicNumber)
    else false

/-- Whether a text runs from right to left somewhere. -/
def hasRightToLeft (s : List Char) : Bool :=
  s.any fun c => Direction.of c ∈ [.rightToLeft, .arabicLetter, .arabicNumber]

/-! ## The rules together -/

/-- Whether the text of a label keeps the rules that do not hang on the rest of the name. -/
def isWellFormed (label : List Char) : Bool :=
  !(label.take 1).any (fun c => Category.of c ∈ Category.marks) && joinersFit [] label &&
    (label.length ≤ maxText || label.all fun c => c.toNat < 0x80)

/-- The form of a label in which it is sent. -/
def ascii (label : List Char) : List Char :=
  if label.all fun c => c.toNat < 0x80 then label else codeMark ++ Punycode.encode label

end StreamFinder.Web.Domain
