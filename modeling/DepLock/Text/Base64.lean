import DepLock.Text.Utf8
/-!
# Base64 and bytes as text

`base64Encode` writes bytes in the standard alphabet with `=` padding.
`base64Decode` reads it back: line breaks are skipped, every group of four characters
gives up to three bytes, and padding may only end the text; a failure names the
offset of the offending character, as `illegal base64 data at input byte N`.
-/

set_option autoImplicit false

namespace DepLock.Text

/-- The standard base64 alphabet. -/
def base64Alphabet : List Char :=
  "ABCDEFGHIJKLMNOPQRSTUVWXYZabcdefghijklmnopqrstuvwxyz0123456789+/".toList

/-- The character of a six-bit value. -/
def base64Char (n : Nat) : Char := base64Alphabet.getD n 'A'

/-- Encodes bytes in base64 with padding. -/
def base64Encode : List UInt8 → String
  | [] => ""
  | [a] =>
    let v := a.toNat * 65536
    String.ofList [base64Char (v / 262144), base64Char (v / 4096 % 64), '=', '=']
  | [a, b] =>
    let v := a.toNat * 65536 + b.toNat * 256
    String.ofList [base64Char (v / 262144), base64Char (v / 4096 % 64), base64Char (v / 64 % 64), '=']
  | a :: b :: c :: rest =>
    let v := a.toNat * 65536 + b.toNat * 256 + c.toNat
    String.ofList [base64Char (v / 262144), base64Char (v / 4096 % 64), base64Char (v / 64 % 64),
      base64Char (v % 64)] ++ base64Encode rest

/-- The six-bit value of a base64 character byte. -/
def base64Value? (b : UInt8) : Option Nat :=
  if b ≥ 0x41 && b ≤ 0x5A then some (b.toNat - 0x41)
  else if b ≥ 0x61 && b ≤ 0x7A then some (b.toNat - 0x61 + 26)
  else if b ≥ 0x30 && b ≤ 0x39 then some (b.toNat - 0x30 + 52)
  else if b == 0x2B then some 62
  else if b == 0x2F then some 63
  else none

/-- Whether a byte is a line break, which decoding skips. -/
def isBreakByte (b : UInt8) : Bool := b == 0x0A || b == 0x0D

/-- The failure at an offset. -/
def base64Failure (at_ : Nat) : String := "illegal base64 data at input byte " ++ toString at_

/-- The bytes of up to four six-bit values: a full group gives three bytes, three
values two, and two values one. -/
def groupBytes (vals : List Nat) : List UInt8 :=
  let v := (vals ++ List.replicate (4 - vals.length) 0).foldl (fun acc x => 64 * acc + x) 0
  let bytes := [(v / 65536 % 256).toUInt8, (v / 256 % 256).toUInt8, (v % 256).toUInt8]
  bytes.take (vals.length - 1)

/-- Skips line breaks from an offset; gives the offset and the bytes left. -/
def skipBreaks : Nat → List UInt8 → Nat × List UInt8
  | i, b :: rest => if isBreakByte b then skipBreaks (i + 1) rest else (i, b :: rest)
  | i, [] => (i, [])

/-- Decodes base64 bytes from offset `i`, with `acc` the values of the group so far
(`start` its first offset). -/
def decodeFrom (total : Nat) : Nat → List Nat → List UInt8 → Except String (List UInt8)
  | i, acc, [] =>
    match acc.length with
    | 0 => .ok []
    | n => .error (base64Failure (i - n))
  | i, acc, b :: rest =>
    if isBreakByte b then decodeFrom total (i + 1) acc rest
    else match base64Value? b with
    | some v =>
      if acc.length == 3 then do
        let tail ← decodeFrom total (i + 1) [] rest
        pure (groupBytes (acc ++ [v]) ++ tail)
      else decodeFrom total (i + 1) (acc ++ [v]) rest
    | none =>
      if b != 0x3D then .error (base64Failure i)
      else if acc.length < 2 then .error (base64Failure i)
      else
        -- padding: two values want a second `=`
        let after : Except String (Nat × List UInt8) :=
          if acc.length == 2 then
            let (j, more) := skipBreaks (i + 1) rest
            match more with
            | [] => .error (base64Failure total)
            | c :: more' => if c == 0x3D then .ok (j + 1, more') else .error (base64Failure j)
          else .ok (i + 1, rest)
        match after with
        | .error e => .error e
        | .ok (j, more) =>
          let (k, left) := skipBreaks j more
          if left.isEmpty then .ok (groupBytes acc) else .error (base64Failure k)

/-- Decodes base64 text. -/
def base64Decode (s : String) : Except String (List UInt8) :=
  let bs := s.toUTF8.toList
  decodeFrom bs.length 0 [] bs

end DepLock.Text
