/-!
# Blank characters

Two classes of white space. `isWhiteSpace` is the property that Unicode defines. `isBlank` adds the four
information separators of ASCII, which text tools have long treated as white space too. Stripping and
the test for an all-blank text go by the wider class.

## Main definitions

* `isWhiteSpace`: The white space property of Unicode.
* `isBlank`: White space and the information separators.
* `allBlank`: A text that is not empty and has blank characters only.
* `dropTrailing`: A text without its longest tail in a class.
* `trim`: A text without its leading and trailing characters of a class.
* `strip`: A text without leading and trailing blanks.
-/

namespace TokenLint

namespace Text

/-- Whether a character has the white space property. -/
def isWhiteSpace (c : Char) : Bool :=
  let n := c.toNat
  (9 ≤ n && n ≤ 13) || n == 0x20 || n == 0x85 || n == 0xA0 || n == 0x1680 ||
    (0x2000 ≤ n && n ≤ 0x200A) || n == 0x2028 || n == 0x2029 || n == 0x202F || n == 0x205F ||
    n == 0x3000

/-- Whether a character is white space or one of the four information separators. -/
def isBlank (c : Char) : Bool :=
  isWhiteSpace c || (0x1C ≤ c.toNat && c.toNat ≤ 0x1F)

/-- Whether a text is not empty and has blank characters only. -/
def allBlank (cs : List Char) : Bool :=
  !cs.isEmpty && cs.all isBlank

/-- The text before its longest tail of characters in the class `p`. -/
def dropTrailing (p : Char → Bool) (cs : List Char) : List Char :=
  (cs.reverse.dropWhile p).reverse

/-- The text between its leading and its trailing characters in the class `p`. -/
def trim (p : Char → Bool) (cs : List Char) : List Char :=
  dropTrailing p (cs.dropWhile p)

/-- A text without its leading and trailing blanks. -/
def strip (s : String) : String :=
  String.ofList (trim isBlank s.toList)

/-- A name is written without surrounding blanks and is not empty. -/
def isTidy (s : String) : Bool :=
  s != "" && strip s == s

end Text

end TokenLint
