import DepLock.Text.Quoted
/-!
# Identifiers

Lock files are named by UUIDs, which a UUID library reads: a `Uuid.Library` is its parser,
which accepts a text or says why it does not. The lock store is written against any
library.

`Uuid.library` is the one the tool runs with. Its parser `Uuid.check` accepts the four
spellings of a UUID: 36 characters with hyphens after the 8th, 12th, 16th and 20th hex
digit; the same after `urn:uuid:` (in any case); the same between two extra characters
(conventionally braces, which are not looked at); and 32 hex digits with no hyphens.
Lengths are counted in bytes. It says why a text is refused: its length, the `urn:uuid:`
prefix, or its format.
-/

set_option autoImplicit false

namespace DepLock.Uuid

/-- Whether a byte is a hex digit of either case. -/
def isHexByte (b : UInt8) : Bool :=
  (0x30 ≤ b && b ≤ 0x39) || (0x61 ≤ b && b ≤ 0x66) || (0x41 ≤ b && b ≤ 0x46)

/-- The positions of the hyphens in the hyphenated form. -/
def hyphens : List Nat := [8, 13, 18, 23]

/-- The starts of the sixteen hex pairs in the hyphenated form. -/
def pairStarts : List Nat := [0, 2, 4, 6, 9, 11, 14, 16, 19, 21, 24, 26, 28, 30, 32, 34]

/-- Whether 36 or more bytes are in the hyphenated form. -/
def isHyphenated (bs : List UInt8) : Bool :=
  hyphens.all (fun i => bs[i]? == some 0x2D) &&
    pairStarts.all fun i => (bs[i]?.map isHexByte).getD false && (bs[i + 1]?.map isHexByte).getD false

/-- The bytes as lower-case ASCII. -/
def lowerBytes (bs : List UInt8) : List UInt8 :=
  bs.map fun b => if 0x41 ≤ b && b ≤ 0x5A then b + 0x20 else b

/-- Checks a UUID spelling; the failure is its message. -/
def check (s : String) : Except String Unit :=
  let bs := s.toUTF8.toList
  let format : Except String Unit := .error "invalid UUID format"
  match bs.length with
  | 36 => if isHyphenated bs then .ok () else format
  | 45 =>
    if lowerBytes (bs.take 9) == "urn:uuid:".toUTF8.toList then
      if isHyphenated (bs.drop 9) then .ok () else format
    else
      .error ("invalid urn prefix: " ++ Text.quoteUtf8Bytes (bs.take 9))
  | 38 => if isHyphenated (bs.drop 1) then .ok () else format
  | 32 => if bs.all isHexByte then .ok () else format
  | n => .error ("invalid UUID length: " ++ toString n)

/-- A UUID library: its parser, which accepts a text or gives the reason it does not. -/
structure Library where
  parse : String → Except String Unit

/-- The UUID library the tool runs with. -/
def library : Library := ⟨check⟩

end DepLock.Uuid
