import DepLock.Toml.Value
/-!
# Plain values of configuration documents

The values that a single token stands for: strings, integers, floats and date-times.
Each reader takes the token's text and gives the value or the message of a failure.

* Strings: a multi-line string drops a line break right after its opening delimiter,
  and a basic one drops each backslash that ends a line with the blanks after it; then
  escapes are decoded. An escape of a blank is refused, and so is a code point that is
  no character.
* Integers: underscores must stand between digits, a leading zero is refused except
  before a base prefix, and the value must fit in 64 bits.
* Floats: the same underscore and leading-zero rules on each part between points and
  exponent marks, a digit after every point, the decimal syntax, and a value that does
  not round to an infinity. `inf` and `nan` with an optional sign are the special values.
* Date-times: a lower-case `t` or `z` reads as upper case and a space as `T`; then the
  text is an offset date-time, a local date-time, a local date or a local time, each
  field in its range, hours written with two digits.
-/

set_option autoImplicit false

namespace DepLock.Toml

open DepLock.Text

/-! ## Strings -/

/-- Whether a character is a hex digit. -/
def isHexDigitChar (c : Char) : Bool :=
  c.isDigit || ('a' ≤ c && c ≤ 'f') || ('A' ≤ c && c ≤ 'F')

/-- The value of a hex digit. -/
def hexCharValue (c : Char) : Nat :=
  if c.isDigit then c.toNat - 48 else if 'a' ≤ c && c ≤ 'f' then c.toNat - 87 else c.toNat - 55

/-- Drops a line break that directly follows the opening delimiter. -/
def stripFirstNewline : List Char → List Char
  | '\n' :: rest => rest
  | '\r' :: '\n' :: rest => rest
  | cs => cs

/-- Removes each backslash that ends a line, with the blanks and line breaks after it. -/
def stripEscapedNewlines : List Char → List Char
  | [] => []
  | '\\' :: '\\' :: rest => '\\' :: '\\' :: stripEscapedNewlines rest
  | '\\' :: rest =>
    let ws := rest.takeWhile fun c => c == ' ' || c == '\t' || c == '\r' || c == '\n'
    if !ws.isEmpty && ws.contains '\n' then stripEscapedNewlines (rest.drop ws.length)
    else '\\' :: stripEscapedNewlines rest
  | c :: rest => c :: stripEscapedNewlines rest
termination_by cs => cs.length
decreasing_by all_goals (simp_all; try omega)

/-- Decodes the escapes of a basic string whose escapes the tokenizer checked; an
escaped blank, or a code point that is no character, fails. -/
def decodeEscapes : List Char → Except String (List Char)
  | [] => .ok []
  | '\\' :: c :: rest =>
    let simple : Option Char := match c with
      | 'b' => some '\x08'
      | 't' => some '\t'
      | 'n' => some '\n'
      | 'f' => some '\x0c'
      | 'r' => some '\r'
      | '"' => some '"'
      | '\\' => some '\\'
      | _ => none
    match simple with
    | some d => do pure (d :: (← decodeEscapes rest))
    | none =>
      if c == ' ' || c == '\t' then .error ("invalid escape: '\\" ++ String.singleton c ++ "'") else
      let count := if c == 'u' then 4 else 8
      let digits := rest.take count
      let n := digits.foldl (fun acc d => 16 * acc + hexCharValue d) 0
      if n > 0x10FFFF || (0xD800 ≤ n && n < 0xE000) then
        .error ("Escaped character '\\u" ++ String.ofList digits ++ "' is not valid UTF-8.")
      else do pure (Char.ofNat n :: (← decodeEscapes (rest.drop count)))
  | c :: rest => do pure (c :: (← decodeEscapes rest))
termination_by cs => cs.length
decreasing_by all_goals (simp_all; try omega)

/-- The text of a basic string token. -/
def readBasic (text : String) : Except String String :=
  (decodeEscapes text.toList).map String.ofList

/-- The text of a multi-line basic string token. -/
def readMultilineBasic (text : String) : Except String String :=
  (decodeEscapes (stripEscapedNewlines (stripFirstNewline text.toList))).map String.ofList

/-- The text of a multi-line literal string token. -/
def readMultilineLiteral (text : String) : String :=
  String.ofList (stripFirstNewline text.toList)

/-! ## Numbers -/

/-- Whether every underscore of a number follows a hex digit and the number ends with
one; the special floats pass. -/
def underscoresOk (s : String) : Bool :=
  if ["nan", "+nan", "-nan", "inf", "-inf", "+inf"].contains s then true
  else
    let (ok, accept) := s.toList.foldl (fun (acc : Bool × Bool) c =>
      let (ok, accept) := acc
      (ok && (c != '_' || accept), isHexDigitChar c)) (true, false)
    ok && accept

/-- Whether a number has a leading zero that is not allowed. -/
def hasLeadingZero (s : String) : Bool :=
  match s.toList with
  | '0' :: c :: _ => !(c == 'b' || c == 'o' || c == 'x')
  | '-' :: '0' :: _ :: _ => true
  | '+' :: '0' :: _ :: _ => true
  | _ => false

/-- The value of an integer text with an optional sign and base prefix, underscores
removed. -/
def integerValue (s : String) : Option Int :=
  let cs := s.toList.filter (· != '_')
  let (neg, cs) := match cs with
    | '-' :: rest => (true, rest)
    | '+' :: rest => (false, rest)
    | _ => (false, cs)
  let digitsIn (base : Nat) (ds : List Char) : Option Nat :=
    if ds.isEmpty then none
    else ds.foldl (fun acc d => acc.bind fun a =>
      let v := hexCharValue d
      if isHexDigitChar d && v < base then some (base * a + v) else none) (some 0)
  let mag := match cs with
    | '0' :: 'x' :: ds => digitsIn 16 ds
    | '0' :: 'o' :: ds => digitsIn 8 ds
    | '0' :: 'b' :: ds => digitsIn 2 ds
    | ds => digitsIn 10 ds
  mag.map fun m => if neg then -(m : Int) else m

/-- The least integer that does not fit in 64 bits, `2^63`. -/
def int64Bound : Int := 9223372036854775808

/-- The integer an integer token stands for. -/
def readInteger (text : String) : Except String Int :=
  if !underscoresOk text then
    .error ("Invalid integer " ++ quote text ++ ": underscores must be surrounded by digits")
  else if hasLeadingZero text then
    .error ("Invalid integer " ++ quote text ++ ": cannot have leading zeroes")
  else
    match integerValue text with
    | some n =>
      if n < -int64Bound || n ≥ int64Bound then .error (text ++ " is out of range for int64")
      else .ok n
    | none => .error ("Expected integer value, but got '" ++ text ++ "'.")

/-- Checks a float text: underscores between digits and no leading zero in each part
between points and exponent marks, and a digit after every point. -/
def checkFloat (s : String) : Option String :=
  let parts := (s.splitOn ".").flatMap (·.splitOn "e") |>.flatMap (·.splitOn "E") |>.filter (!·.isEmpty)
  if !parts.all underscoresOk then
    some ("Invalid float " ++ quote s ++ ": underscores must be surrounded by digits")
  else if (parts.head?.map hasLeadingZero).getD false then
    some ("Invalid float " ++ quote s ++ ": cannot have leading zeroes")
  else
    let cs := s.toList
    let badPeriod := (cs.zip (cs.drop 1)).any (fun (a, b) => a == '.' && !b.isDigit) || cs.getLast? == some '.'
    if badPeriod then some ("Invalid float " ++ quote s ++ ": '.' must be followed by one or more digits")
    else none

/-- The value of a run of decimal digits. -/
def decimalValue (ds : List Char) : Nat := ds.foldl (fun a d => 10 * a + (d.toNat - 48)) 0

/-- The sign, digits and decimal exponent of a float text in decimal form (underscores
removed): `[sign] digits [. digits] [(e|E) [sign] digits]` with a digit before or after
the point. Its value is the digits times ten to the exponent. -/
def decimalParts (s : String) : Option (Bool × Nat × Int) :=
  let cs := s.toList
  let (neg, cs) := match cs with
    | '-' :: rest => (true, rest)
    | '+' :: rest => (false, rest)
    | _ => (false, cs)
  let whole := cs.takeWhile Char.isDigit
  let rest := cs.drop whole.length
  let (frac, rest) := match rest with
    | '.' :: more => (more.takeWhile Char.isDigit, more.dropWhile Char.isDigit)
    | _ => ([], rest)
  let exp : Option Int := match rest with
    | [] => some 0
    | e :: more =>
      if e != 'e' && e != 'E' then none
      else
        let (negExp, ds) := match more with
          | '-' :: ds => (true, ds)
          | '+' :: ds => (false, ds)
          | ds => (false, ds)
        if ds.isEmpty || !ds.all Char.isDigit then none
        else some (if negExp then -(decimalValue ds : Int) else decimalValue ds)
  if whole.isEmpty && frac.isEmpty then none
  else exp.map fun e => (neg, decimalValue (whole ++ frac), e - frac.length)

/-- The double a float token stands for. -/
def readFloat (text : String) : Except String Number.Double :=
  match checkFloat text with
  | some m => .error m
  | none =>
    let val := String.ofList (text.toList.filter (· != '_'))
    if val == "nan" || val == "+nan" || val == "-nan" then .ok .nan
    else if val == "inf" || val == "+inf" then .ok (.infinity false)
    else if val == "-inf" then .ok (.infinity true)
    else
      match decimalParts val with
      | some (neg, digits, exp) =>
        let d := Number.Double.ofDecimal neg digits exp
        if d.isInfinite then .error (text ++ " is out of range for float64") else .ok d
      | none => .error ("Invalid float value: " ++ quote text)

/-! ## Date-times -/

/-- A number of exactly two digits, and the rest. -/
def twoDigits : List Char → Option (Nat × List Char)
  | a :: b :: rest => if a.isDigit && b.isDigit then some (decimalValue [a, b], rest) else none
  | _ => none

/-- Reads one expected character. -/
def literal (c : Char) : List Char → Option (List Char)
  | d :: rest => if c == d then some rest else none
  | [] => none

/-- A date `yyyy-mm-dd` with the month in range, and the rest; the day is checked
against the month once the whole text is read. -/
def readDate (cs : List Char) : Option ((Nat × Nat × Nat) × List Char) := do
  let year := cs.take 4
  if year.length != 4 || !year.all Char.isDigit then none
  let r ← literal '-' (cs.drop 4)
  let (month, r) ← twoDigits r
  if month == 0 || month > 12 then none
  let r ← literal '-' r
  let (day, r) ← twoDigits r
  pure ((decimalValue year, month, day), r)

/-- A time `hh:mm:ss` with an optional fraction after a point or comma (its first nine
digits count), each field in range, and the rest. -/
def readClock (cs : List Char) : Option ((Nat × Nat × Nat × Nat) × List Char) := do
  let (hour, r) ← twoDigits cs
  if hour ≥ 24 then none
  let r ← literal ':' r
  let (minute, r) ← twoDigits r
  if minute ≥ 60 then none
  let r ← literal ':' r
  let (second, r) ← twoDigits r
  if second ≥ 60 then none
  match r with
  | sep :: d :: more =>
    if (sep == '.' || sep == ',') && d.isDigit then
      let digits := (d :: more).takeWhile Char.isDigit
      let kept := digits.take 9
      pure ((hour, minute, second, decimalValue kept * Nat.pow 10 (9 - kept.length)),
        (d :: more).drop digits.length)
    else pure ((hour, minute, second, 0), r)
  | _ => pure ((hour, minute, second, 0), r)

/-- An offset `Z` or `±hh:mm` in seconds (hours up to 24, minutes up to 60), and the
rest. -/
def readZone : List Char → Option (Int × List Char)
  | 'Z' :: rest => some (0, rest)
  | s :: h1 :: h2 :: ':' :: m1 :: m2 :: rest => do
    let (h, _) ← twoDigits [h1, h2]
    let (m, _) ← twoDigits [m1, m2]
    if h > 24 || m > 60 then none
    let secs : Int := ((h * 60 + m) * 60 : Nat)
    if s == '+' then some (secs, rest)
    else if s == '-' then some (-secs, rest)
    else none
  | _ => none

/-- Reads a date-time text in one of the four forms; a local date is at midnight and a
local time is on the first day of year zero, both without offset. -/
def dateTimeOf (s : String) : Option Timestamp :=
  let cs := s.toList
  let dayOk (y m d : Nat) : Bool := 1 ≤ d && d ≤ Timestamp.daysIn m y
  let withOffset : Option Timestamp := do
    let ((y, mo, d), r) ← readDate cs
    let r ← literal 'T' r
    let ((h, mi, se, ns), r) ← readClock r
    let (off, r) ← readZone r
    if !r.isEmpty || !dayOk y mo d then none
    pure ⟨y, mo, d, h, mi, se, ns, off⟩
  let localDateTime : Option Timestamp := do
    let ((y, mo, d), r) ← readDate cs
    let r ← literal 'T' r
    let ((h, mi, se, ns), r) ← readClock r
    if !r.isEmpty || !dayOk y mo d then none
    pure ⟨y, mo, d, h, mi, se, ns, 0⟩
  let localDate : Option Timestamp := do
    let ((y, mo, d), r) ← readDate cs
    if !r.isEmpty || !dayOk y mo d then none
    pure ⟨y, mo, d, 0, 0, 0, 0, 0⟩
  let localTime : Option Timestamp := do
    let ((h, mi, se, ns), r) ← readClock cs
    if !r.isEmpty then none
    pure ⟨0, 1, 1, h, mi, se, ns, 0⟩
  withOffset <|> localDateTime <|> localDate <|> localTime

/-- The date-time a date-time token stands for. -/
def readDateTime (text : String) : Except String Timestamp :=
  let normal := String.ofList (text.toList.map fun c =>
    if c == 'z' then 'Z' else if c == 't' || c == ' ' then 'T' else c)
  match dateTimeOf normal with
  | some t => .ok t
  | none => .error ("invalid datetime: " ++ quote normal)

end DepLock.Toml
