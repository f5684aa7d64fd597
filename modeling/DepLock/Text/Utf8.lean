/-!
# UTF-8 byte strings

Bytes that are meant to be UTF-8 but need not be well formed. `decodeStep` reads the
character that a byte string starts with, if its first bytes form a well-formed
sequence: a one-byte character below `0x80`, or a lead byte followed by the right
number of continuation bytes whose value is neither an overlong form, a surrogate,
nor above `U+10FFFF`. Every other first byte starts no character, and readers take
it alone: `ofBytesLossy` writes it as U+FFFD.
-/

set_option autoImplicit false

namespace DepLock.Text

/-- Whether a byte continues a UTF-8 sequence. -/
def isContinuation (b : UInt8) : Bool := b &&& 0xC0 == 0x80

/-- The character that a byte string starts with, and how many bytes follow its first,
when the first bytes are a well-formed UTF-8 sequence. -/
def decodeStep : List UInt8 → Option (Char × Nat)
  | [] => none
  | b :: rest =>
    let n := b.toNat
    let cont (k : Nat) : Option Nat :=
      let more := rest.take k
      if more.length == k && more.all isContinuation then
        some (more.foldl (fun acc c => 64 * acc + (c.toNat &&& 0x3F)) 0)
      else none
    let decoded : Option (Nat × Nat) :=
      if n < 0x80 then some (n, 0)
      else if n ≥ 0xC2 && n ≤ 0xDF then (cont 1).map fun v => ((n &&& 0x1F) * 64 + v, 1)
      else if n ≥ 0xE0 && n ≤ 0xEF then (cont 2).bind fun v =>
        let c := (n &&& 0x0F) * 4096 + v
        if c < 0x800 || (0xD800 ≤ c && c < 0xE000) then none else some (c, 2)
      else if n ≥ 0xF0 && n ≤ 0xF4 then (cont 3).bind fun v =>
        let c := (n &&& 0x07) * 262144 + v
        if c < 0x10000 || c > 0x10FFFF then none else some (c, 3)
      else none
    decoded.map fun (c, k) => (Char.ofNat c, k)

/-- Reads bytes as UTF-8, replacing each byte that starts no well-formed character
with U+FFFD. -/
def ofBytesLossy (bs : List UInt8) : String :=
  String.ofList (go bs)
where
  /-- Reads characters. -/
  go : List UInt8 → List Char
    | [] => []
    | b :: rest =>
      match decodeStep (b :: rest) with
      | some (c, k) => c :: go (rest.drop k)
      | none => '\uFFFD' :: go rest
  termination_by bs => bs.length
  decreasing_by all_goals (simp_all; try omega)

end DepLock.Text
