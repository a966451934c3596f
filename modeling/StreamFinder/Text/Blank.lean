/-!
# White space

The white space of Unicode: the ASCII blanks and line ends, the no-break
and ideographic spaces and the typographic spaces. Trimming removes it at
both ends of a text and nowhere else.
-/

namespace StreamFinder.Text

/-- A character that is white space in Unicode. -/
def isBlank (c : Char) : Bool :=
  let n := c.toNat
  (9 ≤ n && n ≤ 13) || n = 0x20 || n = 0x85 || n = 0xa0 || n = 0x1680
    || (0x2000 ≤ n && n ≤ 0x200a) || n = 0x2028 || n = 0x2029 || n = 0x202f
    || n = 0x205f || n = 0x3000

/-- The text without the white space at its ends. -/
def trim (s : List Char) : List Char :=
  ((s.dropWhile isBlank).reverse.dropWhile isBlank).reverse

/-- The words of a text: its maximal runs without white space. -/
def words (s : List Char) : List (List Char) :=
  let extend (c : Char) : List (List Char) → List (List Char)
    | [] => if isBlank c then [[]] else [[c]]
    | w :: rest => if isBlank c then [] :: w :: rest else (c :: w) :: rest
  (s.foldr extend []).filter (· ≠ [])

end StreamFinder.Text
