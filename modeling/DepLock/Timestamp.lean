import DepLock.Text.Quoted
/-!
# Timestamps

A timestamp as lock files record it: a calendar date, a time of day with nanoseconds,
and an offset from UTC in seconds. `Timestamp.text` writes the RFC 3339 form with the
fraction's trailing zeros dropped and `Z` for a zero offset.

`Timestamp.parse` reads a text against the layout `2006-01-02T15:04:05Z07:00`
element by element (`readLayout`): a four-digit year, two-digit month and day, an hour
of one or two digits, two-digit minute and second, an optional fraction after a point
or a comma (its first nine digits count), and `Z` or a signed `hh:mm` offset of at
most 24 hours and 60 minutes. A failure names the first element that does not fit, or
the field that is out of range.

`Timestamp.text` can only write offsets below 24 hours; `Timestamp.checkWritable`
names the failure for the others.
-/

set_option autoImplicit false

namespace DepLock

/-- A point in time in a fixed offset from UTC. -/
structure Timestamp where
  year : Nat
  month : Nat
  day : Nat
  hour : Nat
  minute : Nat
  second : Nat
  nanos : Nat
  offset : Int
deriving Repr, DecidableEq

namespace Timestamp

open DepLock.Text

/-- The zero time: the first instant of year 1, in UTC. -/
def zero : Timestamp := ⟨1, 1, 1, 0, 0, 0, 0, 0⟩

/-- Whether a year is a leap year. -/
def isLeap (y : Nat) : Bool := y % 4 == 0 && (y % 100 != 0 || y % 400 == 0)

/-- The number of days of a month. -/
def daysIn (month year : Nat) : Nat :=
  match month with
  | 2 => if isLeap year then 29 else 28
  | 4 | 6 | 9 | 11 => 30
  | _ => 31

/-- A number written with at least `width` digits. -/
def padded (width n : Nat) : String :=
  let ds := (toString n).toList
  String.ofList (List.replicate (width - ds.length) '0' ++ ds)

/-- The fraction of a second: a point and up to nine digits without trailing zeros,
or nothing for a whole second. -/
def fraction (nanos : Nat) : String :=
  if nanos == 0 then ""
  else
    let ds := (padded 9 nanos).toList
    "." ++ String.ofList (ds.reverse.dropWhile (· == '0')).reverse

/-- The offset as `Z` or a sign, hours and minutes. -/
def offsetText (offset : Int) : String :=
  if offset == 0 then "Z"
  else
    let m := offset.natAbs / 60
    (if offset < 0 then "-" else "+") ++ padded 2 (m / 60) ++ ":" ++ padded 2 (m % 60)

/-- Why a timestamp has no RFC 3339 text, if it has none: its offset, written in
hours and minutes, must have fewer than 24 hours. -/
def checkWritable (t : Timestamp) : Except String Unit :=
  if t.offset.natAbs / 3600 ≥ 24 then .error "timezone hour outside of range [0,23]"
  else .ok ()

/-- The RFC 3339 text of a timestamp, with nanoseconds when there are any. -/
def text (t : Timestamp) : String :=
  padded 4 t.year ++ "-" ++ padded 2 t.month ++ "-" ++ padded 2 t.day ++ "T" ++
    padded 2 t.hour ++ ":" ++ padded 2 t.minute ++ ":" ++ padded 2 t.second ++
    fraction t.nanos ++ offsetText t.offset

/-- The number of days from 1970-01-01 to a date of the proleptic Gregorian calendar. -/
def daysFromCivil (year month day : Int) : Int :=
  let y := if month ≤ 2 then year - 1 else year
  let era := y / 400
  let yoe := y - era * 400
  let doy := (153 * (if month > 2 then month - 3 else month + 9) + 2) / 5 + day - 1
  let doe := yoe * 365 + yoe / 4 - yoe / 100 + doy
  era * 146097 + doe - 719468

/-- The date that is a number of days after 1970-01-01: year, month and day. -/
def civilFromDays (days : Int) : Int × Nat × Nat :=
  let z := days + 719468
  let era := z / 146097
  let doe := z - era * 146097
  let yoe := (doe - doe / 1460 + doe / 36524 - doe / 146096) / 365
  let doy := doe - (365 * yoe + yoe / 4 - yoe / 100)
  let mp := (5 * doy + 2) / 153
  let d := doy - (153 * mp + 2) / 5 + 1
  let m := if mp < 10 then mp + 3 else mp - 9
  (yoe + era * 400 + (if m ≤ 2 then 1 else 0), m.toNat, d.toNat)

/-- Nanoseconds per second. -/
def nanosPerSecond : Int := 1000000000

/-- The instant of a timestamp, in nanoseconds since 1970-01-01T00:00:00Z. -/
def toUnixNanos (t : Timestamp) : Int :=
  let days := daysFromCivil t.year t.month t.day
  let secs := days * 86400 + t.hour * 3600 + t.minute * 60 + t.second - t.offset
  secs * nanosPerSecond + t.nanos

/-- The timestamp in UTC of an instant given in nanoseconds since
1970-01-01T00:00:00Z. -/
def ofUnixNanos (n : Int) : Timestamp :=
  let secs := n / nanosPerSecond
  let days := secs / 86400
  let rest := (secs % 86400).toNat
  let (y, m, d) := civilFromDays days
  ⟨y.toNat, m, d, rest / 3600, rest / 60 % 60, rest % 60, (n % nanosPerSecond).toNat, 0⟩

/-- Whether a timestamp is the zero time. -/
def isZero (t : Timestamp) : Bool := t.toUnixNanos == zero.toUnixNanos

/-- The layout that texts are read against. -/
def layout : String := "2006-01-02T15:04:05Z07:00"

/-- Why a text is not a timestamp. -/
inductive ParseError where
  /-- The text from `rest` on does not fit the layout element `element`. -/
  | cannotParse (rest : List UInt8) (element : String)
  /-- A field is out of its range. -/
  | outOfRange (what : String)
  /-- Text is left after the layout. -/
  | extraText (rest : List UInt8)
deriving Repr, DecidableEq

/-- The message of a failure to read `whole`. -/
def ParseError.message (whole : List UInt8) : ParseError → String
  | .cannotParse rest el =>
    "parsing time " ++ quoteBytes whole ++ " as " ++ quoteBytes layout.toUTF8.toList ++
      ": cannot parse " ++ quoteBytes rest ++ " as " ++ quoteBytes el.toUTF8.toList
  | .outOfRange what => "parsing time " ++ quoteBytes whole ++ ": " ++ what ++ " out of range"
  | .extraText rest => "parsing time " ++ quoteBytes whole ++ ": extra text: " ++ quoteBytes rest

/-- Whether a byte is an ASCII digit. -/
def isDigitByte (b : UInt8) : Bool := 0x30 ≤ b && b ≤ 0x39

/-- The value of a digit byte. -/
def digitValue (b : UInt8) : Nat := b.toNat - 0x30

/-- The value of a string of digit bytes. -/
def digitsValue (bs : List UInt8) : Nat := bs.foldl (fun acc b => 10 * acc + digitValue b) 0

/-- A number of one or two digits (exactly two when `fixed`), and the rest. -/
def getNum (bs : List UInt8) (fixed : Bool) : Option (Nat × List UInt8) :=
  match bs with
  | a :: b :: rest =>
    if !isDigitByte a then none
    else if isDigitByte b then some (10 * digitValue a + digitValue b, rest)
    else if fixed then none
    else some (digitValue a, b :: rest)
  | [a] => if isDigitByte a && !fixed then some (digitValue a, []) else none
  | [] => none

/-- Consumes one literal byte of the layout. -/
def expect (c : Char) (bs : List UInt8) : Except ParseError (List UInt8) :=
  match bs with
  | b :: rest => if b == c.toNat.toUInt8 then .ok rest else .error (.cannotParse bs (String.singleton c))
  | [] => .error (.cannotParse [] (String.singleton c))

/-- The nanoseconds of a fraction's digits: the first nine, scaled. -/
def nanosOf (digits : List UInt8) : Nat :=
  let kept := digits.take 9
  digitsValue kept * Nat.pow 10 (9 - kept.length)

/-- An offset `Z` or `±hh:mm`, with the rest of the text. -/
def readOffset (bs : List UInt8) : Except ParseError (Int × List UInt8) :=
  match bs with
  | 0x5A :: rest => .ok (0, rest)
  | s :: h1 :: h2 :: c :: m1 :: m2 :: rest =>
    if c != 0x3A then .error (.cannotParse bs "Z07:00")
    else
      match getNum [h1, h2] true, getNum [m1, m2] true with
      | some (hr, _), some (mm, _) =>
        if hr > 24 then .error (.outOfRange "time zone offset hour")
        else if mm > 60 then .error (.outOfRange "time zone offset minute")
        else if s == 0x2B then .ok (((hr * 60 + mm) * 60 : Nat), rest)
        else if s == 0x2D then .ok (-(((hr * 60 + mm) * 60 : Nat) : Int), rest)
        else .error (.cannotParse bs "Z07:00")
      | some (hr, _), none =>
        if hr > 24 then .error (.outOfRange "time zone offset hour")
        else .error (.cannotParse bs "Z07:00")
      | none, _ => .error (.cannotParse bs "Z07:00")
  | _ => .error (.cannotParse bs "Z07:00")

/-- Reads a text against the layout element by element. -/
def readLayout (bs : List UInt8) : Except ParseError Timestamp := do
  let (year, r) ← match bs with
    | a :: b :: c :: d :: rest =>
      if [a, b, c, d].all isDigitByte then pure (digitsValue [a, b, c, d], rest)
      else .error (.cannotParse bs "2006")
    | _ => .error (.cannotParse bs "2006")
  let r ← expect '-' r
  let (month, r) ← match getNum r true with
    | some (m, rest) =>
      if m == 0 || m > 12 then .error (.outOfRange "month") else pure (m, rest)
    | none => .error (.cannotParse r "01")
  let r ← expect '-' r
  let (day, r) ← match getNum r true with
    | some x => pure x
    | none => .error (.cannotParse r "02")
  let r ← expect 'T' r
  let (hour, r) ← match getNum r false with
    | some (h, rest) => if h ≥ 24 then .error (.outOfRange "hour") else pure (h, rest)
    | none => .error (.cannotParse r "15")
  let r ← expect ':' r
  let (minute, r) ← match getNum r true with
    | some (m, rest) => if m ≥ 60 then .error (.outOfRange "minute") else pure (m, rest)
    | none => .error (.cannotParse r "04")
  let r ← expect ':' r
  let (second, r) ← match getNum r true with
    | some (sec, rest) => if sec ≥ 60 then .error (.outOfRange "second") else pure (sec, rest)
    | none => .error (.cannotParse r "05")
  let (nanos, r) := match r with
    | sep :: d :: rest =>
      if (sep == 0x2E || sep == 0x2C) && isDigitByte d then
        let digits := (d :: rest).takeWhile isDigitByte
        (nanosOf digits, (d :: rest).dropWhile isDigitByte)
      else (0, r)
    | _ => (0, r)
  let (offset, r) ← readOffset r
  if !r.isEmpty then .error (.extraText r)
  if day == 0 || day > daysIn month year then .error (.outOfRange "day")
  pure ⟨year, month, day, hour, minute, second, nanos, offset⟩

/-- Reads an RFC 3339 timestamp against the layout. -/
def parse (s : String) : Except String Timestamp :=
  let bs := s.toUTF8.toList
  (readLayout bs).mapError (·.message bs)

end Timestamp

end DepLock
