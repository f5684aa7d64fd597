import DepLock.Text.Printable
import DepLock.Text.Utf8
/-!
# Quoted text

The quoted form of a text that messages use to show a value exactly: the text between
double quotes, a quote and a backslash escaped by a backslash, printable characters as
themselves, and every other character as an escape. The seven classic controls have
their letter escapes (`\a \b \f \n \r \t \v`); other characters below the space and
the delete character are written `\xHH`; the rest `\uHHHH`, or `\UHHHHHHHH` above the
basic plane. Hex digits are lower case.

`quoteUtf8Bytes` quotes a byte string that need not be well-formed UTF-8: each
well-formed character as in `quote`, and each other byte as `\xHH`.
-/

set_option autoImplicit false

namespace DepLock.Text

/-- The lower-case hex digits of `n`, padded with zeros to `width`. -/
def hexPadded (width n : Nat) : List Char :=
  let ds := Nat.toDigits 16 n
  List.replicate (width - ds.length) '0' ++ ds

/-- The escape for one character that is not written as itself. -/
def escapeChar (c : Char) : List Char :=
  match c with
  | '\x07' => ['\\', 'a']
  | '\x08' => ['\\', 'b']
  | '\x0c' => ['\\', 'f']
  | '\n' => ['\\', 'n']
  | '\r' => ['\\', 'r']
  | '\t' => ['\\', 't']
  | '\x0b' => ['\\', 'v']
  | _ =>
    let n := c.toNat
    if n < 0x20 || n == 0x7F then '\\' :: 'x' :: hexPadded 2 n
    else if n < 0x10000 then '\\' :: 'u' :: hexPadded 4 n
    else '\\' :: 'U' :: hexPadded 8 n

/-- One character of quoted text. -/
def quoteChar (c : Char) : List Char :=
  if c == '"' || c == '\\' then ['\\', c]
  else if isPrintable c then [c]
  else escapeChar c

/-- The quoted form of a text, quotes included. -/
def quote (s : String) : String :=
  String.ofList ('"' :: (s.toList.flatMap quoteChar ++ ['"']))

/-- The quoted form of one character, between single quotes: a single quote and a
backslash are escaped, and the rest is written as in `quote`. -/
def quoteRune (c : Char) : String :=
  let body := if c == '\'' || c == '\\' then ['\\', c]
    else if isPrintable c then [c]
    else escapeChar c
  String.ofList ('\'' :: body ++ ['\''])

/-- The quoted form of a byte string: each well-formed UTF-8 character as in `quote`,
each byte that starts none as `\x` and two hex digits. -/
def quoteUtf8Bytes (bs : List UInt8) : String :=
  String.ofList ('"' :: go bs ++ ['"'])
where
  /-- Quotes the characters and stray bytes. -/
  go : List UInt8 → List Char
    | [] => []
    | b :: rest =>
      match decodeStep (b :: rest) with
      | some (c, k) => quoteChar c ++ go (rest.drop k)
      | none => '\\' :: 'x' :: hexPadded 2 b.toNat ++ go rest
  termination_by bs => bs.length
  decreasing_by all_goals (simp_all; try omega)

/-- A byte string in double quotes, as clock messages show it: a quote and a backslash
are escaped, and control and non-ASCII bytes are written as `\x` and two hex digits. -/
def quoteBytes (bs : List UInt8) : String :=
  let body := bs.flatMap fun b =>
    if b ≥ 0x80 || b < 0x20 then '\\' :: 'x' :: hexPadded 2 b.toNat
    else if b == 0x22 || b == 0x5C then ['\\', Char.ofNat b.toNat]
    else [Char.ofNat b.toNat]
  String.ofList ('"' :: body ++ ['"'])

end DepLock.Text
