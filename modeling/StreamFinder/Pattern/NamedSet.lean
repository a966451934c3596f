import StreamFinder.Text.Break

/-!
# Sets of characters by name

A pattern may name a set instead of listing its characters: a class of
ASCII characters in brackets, digits, white space and word characters by a
letter, and the properties of Unicode by their names. Patterns know the
characters of version 16.0 of Unicode.

The name of a property is compared without its case, blanks, hyphens and
underscores, and `is` in front of it does not count.
-/

namespace StreamFinder.Pattern

open Text

/-- Decimal digits of any script. -/
def decimals : CodeSet := Property.category .decimalNumber

/-- White space. -/
def blanks : CodeSet := Property.whiteSpace

/-- What words are made of: letters, marks, decimal digits, connecting
punctuation and the two joiners. -/
def wordCharacters : CodeSet :=
  .unionOf [Property.alphabetic, Property.categories Category.marks, decimals,
    Property.category .connectorPunctuation, Property.joinControl]

/-! ## The named sets of the ASCII notation -/

/-- The characters of one of the ranges, given by their first and last characters. -/
def ofRanges (ranges : List (Char × Char)) : CodeSet :=
  .unionOf (ranges.map fun (a, b) => .ofChars a b)

/-- The ASCII digits. -/
def asciiDigits : CodeSet := ofRanges [('0', '9')]

/-- The ASCII letters, digits and the underscore. -/
def asciiWordCharacters : CodeSet := ofRanges [('0', '9'), ('A', 'Z'), ('_', '_'), ('a', 'z')]

/-- The ASCII blanks and line ends. -/
def asciiBlanks : CodeSet := ofRanges [('\t', '\r'), (' ', ' ')]

/-- The set that a bracketed class name stands for. -/
def asciiNamed? (name : String) : Option CodeSet :=
  match name with
  | "alnum" => some (ofRanges [('0', '9'), ('A', 'Z'), ('a', 'z')])
  | "alpha" => some (ofRanges [('A', 'Z'), ('a', 'z')])
  | "ascii" => some (ofRanges [('\x00', '\x7f')])
  | "blank" => some (ofRanges [('\t', '\t'), (' ', ' ')])
  | "cntrl" => some (ofRanges [('\x00', '\x1f'), ('\x7f', '\x7f')])
  | "digit" => some asciiDigits
  | "graph" => some (ofRanges [('!', '~')])
  | "lower" => some (ofRanges [('a', 'z')])
  | "print" => some (ofRanges [(' ', '~')])
  | "punct" => some (ofRanges [('!', '/'), (':', '@'), ('[', '\x60'), ('\x7b', '~')])
  | "space" => some asciiBlanks
  | "upper" => some (ofRanges [('A', 'Z')])
  | "word" => some asciiWordCharacters
  | "xdigit" => some (ofRanges [('0', '9'), ('A', 'F'), ('a', 'f')])
  | _ => none

/-! ## Properties by name -/

/-- A name as it is compared: ASCII letters in lower case, without `is` in
front, blanks, hyphens and underscores. What would be left of `isc` is the
name of another property, so it stays whole. -/
def looseName (name : List Char) : String :=
  let kept (text : List Char) : List Char :=
    (text.filter fun c => c.toNat < 128 && c ≠ ' ' && c ≠ '-' && c ≠ '_').map Char.toLower
  match name with
  | a :: b :: rest =>
    if a.toLower = 'i' ∧ b.toLower = 's' then
      if kept rest = ['c'] then "isc" else String.ofList (kept rest)
    else String.ofList (kept name)
  | _ => String.ofList (kept name)

/-- The general categories of a name, short or long, for one or for several of them. -/
def categories? (name : String) : Option (List Category) :=
  match name with
  | "l" | "letter" => some Category.letters
  | "lc" | "casedletter" => some [.uppercaseLetter, .lowercaseLetter, .titlecaseLetter]
  | "lu" | "uppercaseletter" => some [.uppercaseLetter]
  | "ll" | "lowercaseletter" => some [.lowercaseLetter]
  | "lt" | "titlecaseletter" => some [.titlecaseLetter]
  | "lm" | "modifierletter" => some [.modifierLetter]
  | "lo" | "otherletter" => some [.otherLetter]
  | "m" | "mark" | "combiningmark" => some Category.marks
  | "mn" | "nonspacingmark" => some [.nonspacingMark]
  | "mc" | "spacingmark" => some [.spacingMark]
  | "me" | "enclosingmark" => some [.enclosingMark]
  | "n" | "number" => some Category.numbers
  | "nd" | "decimalnumber" | "digit" => some [.decimalNumber]
  | "nl" | "letternumber" => some [.letterNumber]
  | "no" | "othernumber" => some [.otherNumber]
  | "p" | "punctuation" | "punct" => some
      [.connectorPunctuation, .dashPunctuation, .openPunctuation, .closePunctuation,
       .initialPunctuation, .finalPunctuation, .otherPunctuation]
  | "pc" | "connectorpunctuation" => some [.connectorPunctuation]
  | "pd" | "dashpunctuation" => some [.dashPunctuation]
  | "ps" | "openpunctuation" => some [.openPunctuation]
  | "pe" | "closepunctuation" => some [.closePunctuation]
  | "pi" | "initialpunctuation" => some [.initialPunctuation]
  | "pf" | "finalpunctuation" => some [.finalPunctuation]
  | "po" | "otherpunctuation" => some [.otherPunctuation]
  | "s" | "symbol" => some [.mathSymbol, .currencySymbol, .modifierSymbol, .otherSymbol]
  | "sm" | "mathsymbol" => some [.mathSymbol]
  | "sc" | "currencysymbol" => some [.currencySymbol]
  | "sk" | "modifiersymbol" => some [.modifierSymbol]
  | "so" | "othersymbol" => some [.otherSymbol]
  | "z" | "separator" => some [.spaceSeparator, .lineSeparator, .paragraphSeparator]
  | "zs" | "spaceseparator" => some [.spaceSeparator]
  | "zl" | "lineseparator" => some [.lineSeparator]
  | "zp" | "paragraphseparator" => some [.paragraphSeparator]
  | "c" | "other" => some [.control, .format, .privateUse, .unassigned]
  | "cc" | "control" | "cntrl" => some [.control]
  | "cf" | "format" => some [.format]
  | "co" | "privateuse" => some [.privateUse]
  | "cn" | "unassigned" => some [.unassigned]
  | _ => none

/-- The set of a category, or of a set that is named like one. -/
def categorySet? (name : String) : Option CodeSet :=
  match name with
  | "any" => some .all
  | "ascii" => some (.range 0 0x7f)
  | "assigned" => some (.compl (Property.category .unassigned))
  | _ => (categories? name).map Property.categories

/-- The characters of a script. -/
def scriptSet? (name : String) : Option CodeSet := (Script.named? name).map Script.own

/-- What a version of Unicode and those before it gave a meaning to. -/
def ageSet? (name : String) : Option CodeSet :=
  let isNamed (a : Age) : Bool :=
    name = a.version || name = "v" ++ String.ofList (a.version.toList.filter (· ≠ '.'))
  match Age.all.span (!isNamed ·) with
  | (before, a :: _) => some (.unionOf ((before ++ [a]).map Age.added))
  | _ => none

/-- The set of a property that a character has or has not, of a category or
of a script. Of the abbreviations with two meanings, `cf`, `sc` and `lc`
are categories. -/
def propertySet? (name : String) : Option CodeSet :=
  match Property.named? name with
  | some s => some s
  | none => (categorySet? name).or (scriptSet? name)

/-- The set of the characters for which a property has a value. -/
def valueSet? (property value : String) : Option CodeSet :=
  match property with
  | "gc" | "generalcategory" => categorySet? value
  | "sc" | "script" => scriptSet? value
  | "scx" | "scriptextensions" => (Script.named? value).map Script.extended
  | "age" => ageSet? value
  | "gcb" | "graphemeclusterbreak" => CharacterBreak.named? value
  | "wb" | "wordbreak" => WordBreak.named? value
  | "sb" | "sentencebreak" => SentenceBreak.named? value
  | _ => none

/-- The text before and behind the first place where `mark` stands. -/
def splitAtMark? (mark : List Char) : List Char → Option (List Char × List Char)
  | [] => none
  | c :: text =>
    if mark.isPrefixOf (c :: text) then some ([], (c :: text).drop mark.length)
    else (splitAtMark? mark text).map fun (before, behind) => (c :: before, behind)

/-- The set that a property in a pattern describes, and whether it is the
other characters that are meant: `name`, `name=value`, `name:value` or
`name!=value`. -/
def describedSet? (text : List Char) : Option (CodeSet × Bool) :=
  let value (property value : List Char) : Option CodeSet :=
    valueSet? (looseName property) (looseName value)
  match splitAtMark? ['!', '='] text with
  | some (property, v) => (value property v).map (·, true)
  | none =>
    match (splitAtMark? [':'] text).or (splitAtMark? ['='] text) with
    | some (property, v) => (value property v).map (·, false)
    | none => (propertySet? (looseName text)).map (·, false)

end StreamFinder.Pattern
