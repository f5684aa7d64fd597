import DepLock.Json.Value
import DepLock.Text.Quoted
import DepLock.Text.Blank
/-!
# Reading documents

The grammar of documents, read character by character. A reading error names the
first character that no document can continue with and what was expected there, or
says that the input ended inside a value.

Two ways of reading share the grammar:

* `readDocument` reads a whole input: one value, surrounded only by blanks. The end
  of input inside the value is "unexpected end of JSON input".
* `readFirst` reads the first value of an input and ignores what follows it. An
  input of blanks only is "EOF", the end of input inside the value "unexpected EOF".

Blanks are space, tab, line feed and carriage return. A character is named in a
message by its first encoded byte, between single quotes. An escape that is not one
is shown by its bytes from the backslash on: two for an unknown letter, and for `\u`
the next four, or all that are left when fewer remain and they are not all hex digits.
-/

set_option autoImplicit false

namespace DepLock.Json

/-- Where in the grammar a reading error happened. -/
inductive Expecting where
  | valueStart
  | keyStart
  | afterKey
  | afterMember
  | afterElement
  | inString
  | inNumber
  | afterTop
  /-- Inside a literal word, expecting the given character. -/
  | inLiteral (word : String) (next : Char)
deriving Repr, DecidableEq

/-- How an error place is described. -/
def Expecting.describe : Expecting → String
  | .valueStart => "looking for beginning of value"
  | .keyStart => "looking for beginning of object key string"
  | .afterKey => "after object key"
  | .afterMember => "after object key:value pair"
  | .afterElement => "after array element"
  | .inString => "in string"
  | .inNumber => "in numeric literal"
  | .afterTop => "after top-level value"
  | .inLiteral w c => "in literal " ++ w ++ " (expecting " ++ String.ofList ['\'', c, '\''] ++ ")"

/-- Why a text is not a document. -/
inductive SyntaxError where
  /-- A character that cannot continue the document. -/
  | unexpected (c : Char) (at_ : Expecting)
  /-- An escape sequence that is not one, given by its bytes from the backslash on. -/
  | badEscape (sequence : List UInt8)
  /-- The input ended inside a value. -/
  | truncated
deriving Repr, DecidableEq

/-- The first encoded byte of a character, as the character of that code. -/
def firstByteChar (c : Char) : Char :=
  match c.toString.toUTF8.toList with
  | b :: _ => Char.ofNat b.toNat
  | [] => c

/-- A character named in a message: between single quotes, escaped as in quoted text. -/
def nameChar (c : Char) : String :=
  if c == '\'' then "'\\''"
  else if c == '"' then "'\"'"
  else
    let q := (Text.quote (firstByteChar c).toString).toList
    String.ofList ('\'' :: (q.drop 1).dropLast ++ ['\''])

/-- Whether a character cannot be shown between backquotes: a backquote, the
replacement character, a blank, or a character that is not printable. -/
def needsQuoting (c : Char) : Bool :=
  c == '\x60' || c == '\uFFFD' || Text.isBlank c || !Text.isPrintable c

/-- An escape sequence as messages show it: between backquotes, or quoted when one of
its characters (a byte that starts no character counts as the replacement character)
cannot be shown so. -/
def showSequence (bs : List UInt8) : String :=
  let cs := (Text.ofBytesLossy bs).toList
  if cs.any needsQuoting then Text.quoteUtf8Bytes bs
  else "`" ++ String.ofList cs ++ "`"

/-- The message of an error met while reading a whole input. -/
def SyntaxError.message : SyntaxError → String
  | .unexpected c e => "invalid character " ++ nameChar c ++ " " ++ e.describe
  | .badEscape bs => "invalid escape sequence " ++ showSequence bs ++ " in string"
  | .truncated => "unexpected end of JSON input"

/-- The blanks between tokens. -/
def isDocBlank (c : Char) : Bool :=
  c == ' ' || c == '\t' || c == '\n' || c == '\r'

/-- Drops leading blanks. -/
def skipDocBlanks (cs : List Char) : List Char :=
  cs.dropWhile isDocBlank

/-- The value of a hex digit. -/
def hexValue (c : Char) : Option Nat :=
  if '0' ≤ c && c ≤ '9' then some (c.toNat - '0'.toNat)
  else if 'a' ≤ c && c ≤ 'f' then some (c.toNat - 'a'.toNat + 10)
  else if 'A' ≤ c && c ≤ 'F' then some (c.toNat - 'A'.toNat + 10)
  else none

/-- Whether a byte is an ASCII hex digit. -/
def isHexByte (b : UInt8) : Bool := (hexValue (Char.ofNat b.toNat)).isSome

/-- Reads the four hex digits after `\u`. When fewer than four bytes are left, the
input ended inside the escape if they are all hex digits, and otherwise they are a bad
escape; four bytes that are not all hex digits are a bad escape. -/
def readHex4 (cs : List Char) : Except SyntaxError (Nat × List Char) :=
  let four := (String.ofList (cs.take 4)).toUTF8.toList.take 4
  if four.length < 4 then
    if four.all isHexByte then .error .truncated else .error (.badEscape ([0x5C, 0x75] ++ four))
  else if four.all isHexByte then
    .ok (four.foldl (fun acc b => 16 * acc + (hexValue (Char.ofNat b.toNat)).getD 0) 0, cs.drop 4)
  else .error (.badEscape ([0x5C, 0x75] ++ four))

/-- The code units of an escaped text, before surrogate pairs are joined. -/
inductive EscapedUnit where
  | char (c : Char)
  | code (n : Nat)

/-- Joins escaped code units: a high and a low surrogate make one character, and a
surrogate standing alone is the replacement character. -/
def joinUnits : List EscapedUnit → List Char
  | [] => []
  | .char c :: rest => c :: joinUnits rest
  | .code hi :: .code lo :: rest =>
    if 0xD800 ≤ hi && hi < 0xDC00 && 0xDC00 ≤ lo && lo < 0xE000 then
      Char.ofNat (0x10000 + (hi - 0xD800) * 0x400 + (lo - 0xDC00)) :: joinUnits rest
    else if 0xD800 ≤ hi && hi < 0xE000 then '\uFFFD' :: joinUnits (.code lo :: rest)
    else Char.ofNat hi :: joinUnits (.code lo :: rest)
  | .code n :: rest =>
    (if 0xD800 ≤ n && n < 0xE000 then '\uFFFD' else Char.ofNat n) :: joinUnits rest

/-- Reads the rest of a string after its opening quote. -/
def readStringBody (cs : List Char) : Except SyntaxError (String × List Char) :=
  go (cs.length + 1) [] cs
where
  /-- Reads characters onto `acc` (reversed) up to the closing quote. -/
  go : Nat → List EscapedUnit → List Char → Except SyntaxError (String × List Char)
    | 0, _, _ => .error .truncated
    | _ + 1, _, [] => .error .truncated
    | fuel + 1, acc, c :: rest =>
      if c == '"' then .ok (String.ofList (joinUnits acc.reverse), rest)
      else if c == '\\' then
        match rest with
        | [] => .error .truncated
        | e :: more =>
          match e with
          | '"' => go fuel (.char '"' :: acc) more
          | '\\' => go fuel (.char '\\' :: acc) more
          | '/' => go fuel (.char '/' :: acc) more
          | 'b' => go fuel (.char '\x08' :: acc) more
          | 'f' => go fuel (.char '\x0c' :: acc) more
          | 'n' => go fuel (.char '\n' :: acc) more
          | 'r' => go fuel (.char '\r' :: acc) more
          | 't' => go fuel (.char '\t' :: acc) more
          | 'u' =>
            match readHex4 more with
            | .ok (n, after) => go fuel (.code n :: acc) after
            | .error err => .error err
          | _ => .error (.badEscape (0x5C :: e.toString.toUTF8.toList.take 1))
      else if c.toNat < 0x20 then .error (.unexpected c .inString)
      else go fuel (.char c :: acc) rest

/-- Splits off the leading decimal digits. -/
def spanDigits (cs : List Char) : List Char × List Char :=
  (cs.takeWhile Char.isDigit, cs.dropWhile Char.isDigit)

/-- Reads a number literal; `cs` starts with `-` or a digit. The literal ends at the
first character that cannot continue it. -/
def readNumber (cs : List Char) : Except SyntaxError (String × List Char) := do
  let (sign, r0) := match cs with
    | '-' :: rest => (['-'], rest)
    | _ => ([], cs)
  let (intPart, r1) ← match r0 with
    | [] => .error .truncated
    | '0' :: rest => pure (['0'], rest)
    | c :: _ =>
      if c.isDigit then pure (spanDigits r0) else .error (.unexpected c .inNumber)
  let (frac, r2) ← match r1 with
    | '.' :: rest =>
      match rest with
      | [] => .error .truncated
      | c :: _ =>
        if c.isDigit then
          let (ds, after) := spanDigits rest
          pure ('.' :: ds, after)
        else .error (.unexpected c .inNumber)
    | _ => pure ([], r1)
  let (expo, r3) ← match r2 with
    | e :: rest =>
      if e == 'e' || e == 'E' then
        let (sgn, r) := match rest with
          | '+' :: more => (['+'], more)
          | '-' :: more => (['-'], more)
          | _ => ([], rest)
        match r with
        | [] => .error .truncated
        | c :: _ =>
          if c.isDigit then
            let (ds, after) := spanDigits r
            pure (e :: sgn ++ ds, after)
          else .error (.unexpected c .inNumber)
      else pure ([], r2)
    | [] => pure ([], r2)
  pure (String.ofList (sign ++ intPart ++ frac ++ expo), r3)

/-- Reads the rest of a literal word after its first letter. -/
def readWord (word : String) (rest : List Char) (cs : List Char) : Except SyntaxError (List Char) :=
  match rest, cs with
  | [], _ => .ok cs
  | _ :: _, [] => .error .truncated
  | w :: ws, c :: more =>
    if c == w then readWord word ws more else .error (.unexpected c (.inLiteral word w))

mutual
/-- Reads one value after optional blanks. The fuel bounds the nesting, and the input
length is enough. -/
def readValue : Nat → List Char → Except SyntaxError (Value × List Char)
  | 0, _ => .error .truncated
  | fuel + 1, cs =>
    match skipDocBlanks cs with
    | [] => .error .truncated
    | c :: rest =>
      if c == '{' then readObject fuel rest
      else if c == '[' then readArray fuel rest
      else if c == '"' then (readStringBody rest).map fun (s, r) => (.string s, r)
      else if c == '-' || c.isDigit then
        (readNumber (c :: rest)).map fun (n, r) => (.number n, r)
      else if c == 't' then (readWord "true" ['r', 'u', 'e'] rest).map fun r => (.bool true, r)
      else if c == 'f' then
        (readWord "false" ['a', 'l', 's', 'e'] rest).map fun r => (.bool false, r)
      else if c == 'n' then (readWord "null" ['u', 'l', 'l'] rest).map fun r => (.null, r)
      else .error (.unexpected c .valueStart)

/-- Reads the members of an object after its `{`. -/
def readObject : Nat → List Char → Except SyntaxError (Value × List Char)
  | 0, _ => .error .truncated
  | fuel + 1, cs =>
    match skipDocBlanks cs with
    | [] => .error .truncated
    | '}' :: rest => .ok (.object [], rest)
    | c :: rest =>
      if c == '"' then readMembers fuel [] rest
      else .error (.unexpected c .keyStart)

/-- Reads members after a key's opening quote, collecting them in `acc` (reversed). -/
def readMembers : Nat → List (String × Value) → List Char → Except SyntaxError (Value × List Char)
  | 0, _, _ => .error .truncated
  | fuel + 1, acc, cs => do
    let (key, r1) ← readStringBody cs
    match skipDocBlanks r1 with
    | [] => .error .truncated
    | ':' :: r2 =>
      let (v, r3) ← readValue fuel r2
      match skipDocBlanks r3 with
      | [] => .error .truncated
      | ',' :: r4 =>
        match skipDocBlanks r4 with
        | [] => .error .truncated
        | '"' :: r5 => readMembers fuel ((key, v) :: acc) r5
        | c :: _ => .error (.unexpected c .keyStart)
      | '}' :: r4 => .ok (.object ((key, v) :: acc).reverse, r4)
      | c :: _ => .error (.unexpected c .afterMember)
    | c :: _ => .error (.unexpected c .afterKey)

/-- Reads the elements of an array after its `[`. -/
def readArray : Nat → List Char → Except SyntaxError (Value × List Char)
  | 0, _ => .error .truncated
  | fuel + 1, cs =>
    match skipDocBlanks cs with
    | [] => .error .truncated
    | ']' :: rest => .ok (.array [], rest)
    | _ => readElements fuel [] cs

/-- Reads elements, collecting them in `acc` (reversed). -/
def readElements : Nat → List Value → List Char → Except SyntaxError (Value × List Char)
  | 0, _, _ => .error .truncated
  | fuel + 1, acc, cs => do
    let (v, r1) ← readValue fuel cs
    match skipDocBlanks r1 with
    | [] => .error .truncated
    | ',' :: r2 => readElements fuel (v :: acc) r2
    | ']' :: r2 => .ok (.array (v :: acc).reverse, r2)
    | c :: _ => .error (.unexpected c .afterElement)
end

/-- Fuel enough to read any value of `cs`: every step of the reading consumes a
character or ends it. -/
def fuelFor (cs : List Char) : Nat := 2 * cs.length + 2

/-- Reads a whole input as one document, with only blanks after it. -/
def readDocument (s : String) : Except SyntaxError Value := do
  let cs := s.toList
  let (v, rest) ← readValue (fuelFor cs) cs
  match skipDocBlanks rest with
  | [] => pure v
  | c :: _ => .error (.unexpected c .afterTop)

/-- Why the first value of an input could not be read. -/
inductive FirstError where
  /-- Only blanks. -/
  | empty
  /-- The input ended inside the value. -/
  | cut
  /-- A character that cannot continue the value. -/
  | unexpected (c : Char) (at_ : Expecting)
  /-- An escape sequence that is not one. -/
  | badEscape (sequence : List UInt8)
deriving Repr, DecidableEq

/-- The message of an error met while reading the first value of an input. -/
def FirstError.message : FirstError → String
  | .empty => "EOF"
  | .cut => "unexpected EOF"
  | .unexpected c e => "invalid character " ++ nameChar c ++ " " ++ e.describe
  | .badEscape bs => "invalid escape sequence " ++ showSequence bs ++ " in string"

/-- Reads the first value of an input, ignoring what follows. -/
def readFirst (s : String) : Except FirstError Value :=
  let cs := s.toList
  if (skipDocBlanks cs).isEmpty then .error .empty
  else match readValue (fuelFor cs) cs with
    | .ok (v, _) => .ok v
    | .error .truncated => .error .cut
    | .error (.unexpected c e) => .error (.unexpected c e)
    | .error (.badEscape bs) => .error (.badEscape bs)

/-- The text of the first value of an input, without the blanks before it. -/
def firstValueText (s : String) : Except FirstError String :=
  let cs := skipDocBlanks s.toList
  if cs.isEmpty then .error .empty
  else match readValue (fuelFor cs) cs with
    | .ok (_, rest) => .ok (String.ofList (cs.take (cs.length - rest.length)))
    | .error .truncated => .error .cut
    | .error (.unexpected c e) => .error (.unexpected c e)
    | .error (.badEscape bs) => .error (.badEscape bs)

end DepLock.Json
