/-!
# Percent-encoding

Web addresses carry arbitrary text by writing a byte as `%` and two upper-case hex
digits. Letters, digits and `-`, `_`, `.`, `~` are always kept. A path segment also
keeps `$`, `&`, `+`, `:`, `=` and `@` (so a slash inside a name is escaped and the name
stays one segment); a whole path keeps `,`, `/` and `;` as well; a query component keeps
nothing else and writes a space as `+`.

`percentDecode` reads such text back: each `%` must be followed by two hex digits, and
the decoded bytes must be UTF-8.
-/

set_option autoImplicit false

namespace DepLock.Text

/-- A byte that is always written as itself. -/
def isUnreservedByte (b : UInt8) : Bool :=
  (b ≥ 0x61 && b ≤ 0x7A) || (b ≥ 0x41 && b ≤ 0x5A) || (b ≥ 0x30 && b ≤ 0x39) ||
  b == 0x2D || b == 0x5F || b == 0x2E || b == 0x7E

/-- A byte that a path segment writes as itself. -/
def keptInSegment (b : UInt8) : Bool :=
  isUnreservedByte b || b == 0x24 || b == 0x26 || b == 0x2B || b == 0x3A || b == 0x3D || b == 0x40

/-- The upper-case hex digit of a value below 16. -/
def upperHexDigit (n : Nat) : Char :=
  if n < 10 then Char.ofNat (48 + n) else Char.ofNat (55 + n)

/-- A byte as `%` and two upper-case hex digits. -/
def percentByte (b : UInt8) : List Char :=
  ['%', upperHexDigit (b.toNat / 16), upperHexDigit (b.toNat % 16)]

/-- Encodes the bytes of a text, keeping those that `keep` allows. -/
def percentEncode (keep : UInt8 → Bool) (s : String) : String :=
  String.ofList (s.toUTF8.toList.flatMap fun b =>
    if keep b then [Char.ofNat b.toNat] else percentByte b)

/-- Encodes a text as one path segment. -/
def escapeSegment (s : String) : String := percentEncode keptInSegment s

/-- Encodes a text as a query component: a space becomes `+`. -/
def escapeQuery (s : String) : String :=
  String.ofList (s.toUTF8.toList.flatMap fun b =>
    if isUnreservedByte b then [Char.ofNat b.toNat]
    else if b == 0x20 then ['+']
    else percentByte b)

/-- A byte that a whole path writes as itself. -/
def keptInPath (b : UInt8) : Bool :=
  keptInSegment b || b == 0x2C || b == 0x2F || b == 0x3B

/-- Encodes a text as a path. -/
def escapePath (s : String) : String := percentEncode keptInPath s

/-- The value of a byte that is a hex digit. -/
def hexByteValue? (b : UInt8) : Option Nat :=
  if b ≥ 0x30 && b ≤ 0x39 then some (b.toNat - 0x30)
  else if b ≥ 0x61 && b ≤ 0x66 then some (b.toNat - 0x57)
  else if b ≥ 0x41 && b ≤ 0x46 then some (b.toNat - 0x37)
  else none

/-- Decodes the escapes of a list of bytes; `plusIsSpace` reads `+` as a space. -/
def decodeBytes (plusIsSpace : Bool) : List UInt8 → Option (List UInt8)
  | [] => some []
  | 0x25 :: h :: l :: rest =>
    match hexByteValue? h, hexByteValue? l with
    | some a, some c => (decodeBytes plusIsSpace rest).map fun t => (16 * a + c).toUInt8 :: t
    | _, _ => none
  | 0x25 :: _ => none
  | b :: rest =>
    (decodeBytes plusIsSpace rest).map fun t => (if plusIsSpace && b == 0x2B then 0x20 else b) :: t

/-- Decodes a percent-encoded text; none when an escape is malformed or the bytes are
not UTF-8. -/
def percentDecode (plusIsSpace : Bool) (s : String) : Option String :=
  (decodeBytes plusIsSpace s.toUTF8.toList).bind fun bs => String.fromUTF8? (ByteArray.mk bs.toArray)

end DepLock.Text
