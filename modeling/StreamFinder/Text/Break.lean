import StreamFinder.Text.Property
import StreamFinder.Text.Script

/-!
# Where characters, words and sentences end

The classes of characters by which a text is cut into what a reader takes
for characters, into words and into sentences, as of version 16.0 of
Unicode. A class is made of other properties and of a short list; what
belongs to no class has no name here.
-/

namespace StreamFinder.Text

open Property CodeSet

/-- Numbers that are written behind a sign that encloses them begin with it. -/
def numberSign : CodeSet := .diff prependedConcatenationMark (.single 0x70f)

/-! ## Characters -/

namespace CharacterBreak

/-- What belongs to the character before it. -/
def extending : CodeSet := .union graphemeExtend emojiModifier

/-- What stands alone and does not show. -/
def controls : CodeSet :=
  .diff
    (.unionOf [categories [.lineSeparator, .paragraphSeparator, .control, .format],
      .inter (category .unassigned) defaultIgnorable])
    (.unionOf [.read ["a d 200c-200d"], prependedConcatenationMark, graphemeExtend])

/-- What belongs to the character behind it. -/
def prepended : CodeSet :=
  .union prependedConcatenationMark
    (.read ["d4e 111c2-111c3 113d1 1193f 11941 11a3a 11a84-11a89 11d46 11f02"])

/-- Marks with a width that belong to the character before them. -/
def spacing : CodeSet :=
  .diff (.union (category .spacingMark) (.read ["e33 eb3"]))
    (.union extending (.read
      ["102b-102c 1038 1062-1064 1067-106d 1083 1087-108c 108f 109a-109c 1a61 1a63-1a64 aa7b",
       "aa7d 11720-11721"]))

/-- Syllables of a consonant and a vowel. -/
def openSyllables : CodeSet := .read ["ac00-d788/1c"]

/-- The class of a name, in lower case without hyphens. -/
def named? (name : String) : Option CodeSet :=
  match name with
  | "control" | "cn" => some controls
  | "cr" => some (.single 0xd)
  | "lf" => some (.single 0xa)
  | "extend" | "ex" => some extending
  | "prepend" | "pp" => some prepended
  | "regionalindicator" | "ri" => some regionalIndicator
  | "spacingmark" | "sm" => some spacing
  | "l" => some (.read ["1100-115f a960-a97c"])
  | "v" => some (.read ["1160-11a7 d7b0-d7c6 16d63 16d67-16d6a"])
  | "t" => some (.read ["11a8-11ff d7cb-d7fb"])
  | "lv" => some openSyllables
  | "lvt" => some (.diff (.range 0xac00 0xd7a3) openSyllables)
  | "zwj" => some (.single 0x200d)
  | _ => none

end CharacterBreak

/-! ## Words -/

namespace WordBreak

/-- What belongs to the character before it. -/
def extending : CodeSet :=
  .diff (.unionOf [graphemeExtend, category .spacingMark, emojiModifier]) (.single 0x200d)

/-- What does not count between other characters. -/
def formats : CodeSet :=
  .diff (category .format)
    (.unionOf [.range 0x200b 0x200d, graphemeExtend, prependedConcatenationMark])

/-- Letters of Hebrew. -/
def hebrew : CodeSet :=
  .inter (((Script.named? "hebrew").map Script.own).getD .empty) (category .otherLetter)

/-- Letters of Katakana. -/
def katakana : CodeSet :=
  .union (((Script.named? "katakana").map Script.own).getD .empty)
    (.read ["3031-3035 309b-309c 30a0 30fc ff70"])

/-- Letters of scripts that write words without anything between them. -/
def unseparated : CodeSet := CodeSet.read [
  "e01-e30 e32-e33 e40-e46 e81-e82 e84 e86-e8a e8c-ea3 ea5 ea7-eb0 eb2-eb3 ebd ec0-ec4 ec6",
  "edc-edf 1000-102a 103f 1050-1055 105a-105d 1061 1065-1066 106e-1070 1075-1081 108e 1780-17b3",
  "17d7 17dc 1950-196d 1970-1974 1980-19ab 19b0-19c9 1a20-1a54 1aa7 a9e0-a9e4 a9e6-a9ef",
  "a9fa-a9fe aa60-aa76 aa7a aa7e-aaaf aab1 aab5-aab6 aab9-aabd aac0 aac2 aadb-aadd 11700-1171a",
  "11740-11746"]

/-- Letters of which a word is made. -/
def letters : CodeSet :=
  .diff
    (.union alphabetic (.read
      ["2c2-2c5 2d2-2d7 2de-2df 2e5-2eb 2ed 2ef-2ff 55a-55c 55e 58a 5f3 70f a708-a716 a720-a721",
       "a789-a78a ab5b"]))
    (.unionOf [ideographic, katakana, hebrew, extending, unseparated,
      ((Script.named? "hiragana").map Script.own).getD .empty])

/-- The class of a name, in lower case without hyphens. -/
def named? (name : String) : Option CodeSet :=
  match name with
  | "cr" => some (.single 0xd)
  | "lf" => some (.single 0xa)
  | "newline" | "nl" => some (.read ["b-c 85 2028-2029"])
  | "extend" => some extending
  | "format" | "fo" => some formats
  | "katakana" | "ka" => some katakana
  | "hebrewletter" | "hl" => some hebrew
  | "aletter" | "le" => some letters
  | "singlequote" | "sq" => some (.single 0x27)
  | "doublequote" | "dq" => some (.single 0x22)
  | "midnumlet" | "mb" => some (.read ["2e 2018-2019 2024 fe52 ff07 ff0e"])
  | "midletter" | "ml" => some (.read ["3a b7 387 55f 5f4 2027 fe13 fe55 ff1a"])
  | "midnum" | "mn" =>
    some (.read ["2c 3b 37e 589 60c-60d 66c 7f8 2044 fe10 fe14 fe50 fe54 ff0c ff1b"])
  | "numeric" | "nu" =>
    some (.unionOf [category .decimalNumber, .single 0x66b, numberSign])
  | "extendnumlet" | "ex" => some (.union (category .connectorPunctuation) (.single 0x202f))
  | "regionalindicator" | "ri" => some regionalIndicator
  | "wsegspace" => some (.diff (category .spaceSeparator) (.read ["a0 2007 202f"]))
  | "zwj" => some (.single 0x200d)
  | _ => none

end WordBreak

/-! ## Sentences -/

namespace SentenceBreak

/-- What belongs to the character before it. -/
def extending : CodeSet :=
  .unionOf [graphemeExtend, category .spacingMark, .single 0x200d]

/-- What does not count between other characters. -/
def formats : CodeSet :=
  .diff (category .format) (.unionOf [.range 0x200c 0x200d, graphemeExtend, numberSign])

/-- Small letters. -/
def lower : CodeSet :=
  .diff lowercase (.union graphemeExtend (.read ["10d0-10fa 10fd-10ff"]))

/-- Capital letters. -/
def upper : CodeSet :=
  .diff (.union uppercase (category .titlecaseLetter)) (.read ["1c90-1cba 1cbd-1cbf"])

/-- Full stops, which may stand inside a sentence. -/
def fullStops : CodeSet := .read ["2e 2024 fe52 ff0e"]

/-- The class of a name, in lower case without hyphens. -/
def named? (name : String) : Option CodeSet :=
  match name with
  | "cr" => some (.single 0xd)
  | "lf" => some (.single 0xa)
  | "extend" | "ex" => some extending
  | "sep" | "se" => some (.read ["85 2028-2029"])
  | "format" | "fo" => some formats
  | "sp" => some (.diff whiteSpace (.read ["a d 85 2028-2029"]))
  | "lower" | "lo" => some lower
  | "upper" | "up" => some upper
  | "oletter" | "le" =>
    some (.diff (.union alphabetic (.single 0x5f3)) (.unionOf [lower, upper, extending]))
  | "numeric" | "nu" =>
    some (.unionOf [category .decimalNumber, .range 0x66b 0x66c, numberSign])
  | "aterm" | "at" => some fullStops
  | "scontinue" | "sc" => some (.read
      ["2c-2d 3a-3b 37e 55d 60c-60d 7f8 1802 1808 2013-2014 3001 fe10-fe11 fe13-fe14 fe31-fe32",
       "fe50-fe51 fe54-fe55 fe58 fe63 ff0c-ff0d ff1a-ff1b ff64"])
  | "sterm" | "st" => some (.diff sentenceTerminal fullStops)
  | "close" | "cl" =>
    some (.union
      (categories
        [.openPunctuation, .closePunctuation, .initialPunctuation, .finalPunctuation])
      (.read ["22 27 275b-2760 2e00-2e01 2e06-2e08 2e0b 1f676-1f678"]))
  | _ => none

end SentenceBreak

end StreamFinder.Text
