/-!
# Blank and control characters

Two character classes that the rest of the library cuts text with.

* `isBlank` is the Unicode `White_Space` property: the ASCII blanks, the next-line
  control, the no-break spaces and the typographic spaces and separators. Trimming
  with it (`trimBlank`) is how ranges, specifiers, settings and paths are tidied.
* `isControl` is the Latin-1 control block, `U+0000` to `U+001F` and `U+007F` to
  `U+009F`; a package name holding one is refused.
-/

set_option autoImplicit false

namespace DepLock.Text

/-- The Unicode `White_Space` characters: twenty-five code points. -/
def isBlank (c : Char) : Bool :=
  let n := c.toNat
  (0x09 ≤ n && n ≤ 0x0D) || n == 0x20 || n == 0x85 || n == 0xA0 || n == 0x1680 ||
    (0x2000 ≤ n && n ≤ 0x200A) || n == 0x2028 || n == 0x2029 || n == 0x202F ||
    n == 0x205F || n == 0x3000

/-- The blanks of pattern syntax: tab, line feed, form feed, carriage return and space.
The vertical tab is not among them. -/
def isPatternBlank (c : Char) : Bool :=
  c == '\t' || c == '\n' || c == '\x0c' || c == '\r' || c == ' '

/-- The Latin-1 control characters: `U+0000`–`U+001F` and `U+007F`–`U+009F`. -/
def isControl (c : Char) : Bool :=
  let n := c.toNat
  n ≤ 0x1F || (0x7F ≤ n && n ≤ 0x9F)

/-- Drops blanks from both ends of a character list. -/
def trimBlankList (cs : List Char) : List Char :=
  ((cs.dropWhile isBlank).reverse.dropWhile isBlank).reverse

/-- Drops blanks from both ends of a text. -/
def trimBlank (s : String) : String :=
  String.ofList (trimBlankList s.toList)

/-- Trimming only removes characters: the result is a contiguous piece of the input. -/
theorem trimBlankList_infix (cs : List Char) : trimBlankList cs <:+: cs := by
  unfold trimBlankList
  have h1 : (cs.dropWhile isBlank) <:+ cs := List.dropWhile_suffix isBlank
  have h2 : ((cs.dropWhile isBlank).reverse.dropWhile isBlank) <:+
      (cs.dropWhile isBlank).reverse := List.dropWhile_suffix isBlank
  have h3 : ((cs.dropWhile isBlank).reverse.dropWhile isBlank).reverse <+:
      cs.dropWhile isBlank := by
    simpa using h2.reverse
  exact (h3.isInfix).trans h1.isInfix

end DepLock.Text
