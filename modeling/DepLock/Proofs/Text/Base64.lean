import DepLock.Text.Base64
import DepLock.Proofs.Json.RoundTrip
/-!
# Base64 reads back what it writes

`base64Decode` inverts `base64Encode` on every byte string (`base64Decode_encode`), the
bytes that are not UTF-8 included. Each group of three bytes is written as four
characters of the alphabet, whose six-bit values put the 24 bits back together
(`groupBytes_three`); the last group of one or two bytes is padded with `=`, which the
decoder accepts only at the end.
-/

set_option autoImplicit false

namespace DepLock.Text

/-! ## The alphabet -/

/-- The alphabet's characters read back as their positions. -/
theorem base64Value_char {n : Nat} (h : n < 64) :
    base64Value? (base64Char n).toUInt8 = some n := by
  have table : (List.range 64).all
      (fun n => base64Value? (base64Char n).toUInt8 == some n) = true := by decide
  simpa using List.all_eq_true.mp table n (List.mem_range.mpr h)

/-- Every character of the alphabet is ASCII. -/
theorem base64Char_ascii (n : Nat) : (base64Char n).toNat < 128 := by
  have alphabet : base64Alphabet.all (fun c => c.toNat < 128) = true := by decide
  rw [base64Char, List.getD_eq_getElem?_getD]
  cases h : base64Alphabet[n]? with
  | none => decide
  | some c => simpa using List.all_eq_true.mp alphabet c (List.mem_of_getElem? h)

/-- No character of the alphabet is a line break. -/
theorem isBreakByte_char {n : Nat} (h : n < 64) : isBreakByte (base64Char n).toUInt8 = false := by
  have value := base64Value_char h
  cases hb : isBreakByte (base64Char n).toUInt8 with
  | false => rfl
  | true =>
    -- a line break has no six-bit value
    simp only [isBreakByte, Bool.or_eq_true, beq_iff_eq] at hb
    rcases hb with hb | hb <;> rw [hb] at value <;> simp [base64Value?] at value

/-! ## Decoding step by step -/

section Steps

variable {total i : Nat} {acc : List Nat} {k : Nat}

/-- A character of the alphabet joins the group being read. -/
theorem decodeFrom_char (hk : k < 64) (hacc : acc.length ≠ 3) (rest : List UInt8) :
    decodeFrom total i acc ((base64Char k).toUInt8 :: rest) =
      decodeFrom total (i + 1) (acc ++ [k]) rest := by
  simp [decodeFrom, isBreakByte_char hk, base64Value_char hk, hacc]

/-- The fourth character of a group ends it: its bytes come before the rest's. -/
theorem decodeFrom_char_last (hk : k < 64) (hacc : acc.length = 3) (rest : List UInt8) :
    decodeFrom total i acc ((base64Char k).toUInt8 :: rest) =
      (decodeFrom total (i + 1) [] rest >>= fun tail => pure (groupBytes (acc ++ [k]) ++ tail)) := by
  simp [decodeFrom, isBreakByte_char hk, base64Value_char hk, hacc]

end Steps

/-! ## Groups -/

/-- A number is the byte of the same value modulo 256. -/
theorem toUInt8_eq {n : Nat} {a : UInt8} (h : n % 256 = a.toNat) : n.toUInt8 = a :=
  UInt8.toNat_inj.mp (by simpa using h)

/-- Four six-bit values of three bytes give the three bytes back. -/
theorem groupBytes_three (a b c : UInt8) :
    groupBytes [(a.toNat * 65536 + b.toNat * 256 + c.toNat) / 262144,
      (a.toNat * 65536 + b.toNat * 256 + c.toNat) / 4096 % 64,
      (a.toNat * 65536 + b.toNat * 256 + c.toNat) / 64 % 64,
      (a.toNat * 65536 + b.toNat * 256 + c.toNat) % 64] = [a, b, c] := by
  have ha := a.toNat_lt
  have hb := b.toNat_lt
  have hc := c.toNat_lt
  generalize hv : a.toNat * 65536 + b.toNat * 256 + c.toNat = v
  -- the four values put back together are the 24 bits
  have whole : 64 * (64 * (64 * (64 * 0 + v / 262144) + v / 4096 % 64) + v / 64 % 64) + v % 64 = v := by
    omega
  simp only [groupBytes, List.length_cons, List.length_nil, Nat.sub_self, List.replicate_zero,
    List.append_nil, List.foldl_cons, List.foldl_nil, List.take_succ_cons, List.take_zero, whole]
  simp only [List.cons.injEq, and_true]
  refine ⟨toUInt8_eq ?_, toUInt8_eq ?_, toUInt8_eq ?_⟩ <;> omega

/-- Three six-bit values of two bytes give the two bytes back. -/
theorem groupBytes_two (a b : UInt8) :
    groupBytes [(a.toNat * 65536 + b.toNat * 256) / 262144,
      (a.toNat * 65536 + b.toNat * 256) / 4096 % 64,
      (a.toNat * 65536 + b.toNat * 256) / 64 % 64] = [a, b] := by
  have ha := a.toNat_lt
  have hb := b.toNat_lt
  generalize hv : a.toNat * 65536 + b.toNat * 256 = v
  -- the three values and a zero put back together are the 24 bits
  have whole : 64 * (64 * (64 * (64 * 0 + v / 262144) + v / 4096 % 64) + v / 64 % 64) + 0 = v := by
    omega
  simp only [groupBytes, List.length_cons, List.length_nil, List.replicate_succ,
    List.replicate_zero, List.cons_append, List.nil_append, List.foldl_cons, List.foldl_nil,
    List.take_succ_cons, List.take_zero, whole]
  simp only [List.cons.injEq, and_true]
  refine ⟨toUInt8_eq ?_, toUInt8_eq ?_⟩ <;> omega

/-- Two six-bit values of one byte give the byte back. -/
theorem groupBytes_one (a : UInt8) :
    groupBytes [a.toNat * 65536 / 262144, a.toNat * 65536 / 4096 % 64] = [a] := by
  have ha := a.toNat_lt
  generalize hv : a.toNat * 65536 = v
  -- the two values and two zeros put back together are the 24 bits
  have whole : 64 * (64 * (64 * (64 * 0 + v / 262144) + v / 4096 % 64) + 0) + 0 = v := by
    omega
  simp only [groupBytes, List.length_cons, List.length_nil, List.replicate_succ,
    List.replicate_zero, List.cons_append, List.nil_append, List.foldl_cons, List.foldl_nil,
    List.take_succ_cons, List.take_zero, whole]
  simp only [List.cons.injEq, and_true]
  exact toUInt8_eq (by omega)

/-! ## The round trip -/

/-- Decoding the characters of an encoding, from any offset, gives the bytes back. -/
theorem decodeFrom_encode (total : Nat) (bs : List UInt8) (i : Nat) :
    decodeFrom total i [] ((base64Encode bs).toList.map Char.toUInt8) = .ok bs := by
  induction bs using base64Encode.induct generalizing i with
  | case1 => rfl
  | case2 a =>
    have ha := a.toNat_lt
    have pad : '='.toUInt8 = 61 := rfl
    simp only [base64Encode, String.toList_ofList, List.map_cons, List.map_nil, pad]
    rw [decodeFrom_char (by omega) (by simp), decodeFrom_char (by omega) (by simp)]
    simp [decodeFrom, skipBreaks, isBreakByte, base64Value?, groupBytes_one]
  | case3 a b =>
    have ha := a.toNat_lt
    have hb := b.toNat_lt
    have pad : '='.toUInt8 = 61 := rfl
    simp only [base64Encode, String.toList_ofList, List.map_cons, List.map_nil, pad]
    rw [decodeFrom_char (by omega) (by simp), decodeFrom_char (by omega) (by simp),
      decodeFrom_char (by omega) (by simp)]
    simp [decodeFrom, skipBreaks, isBreakByte, base64Value?, groupBytes_two]
  | case4 a b c rest ih =>
    have ha := a.toNat_lt
    have hb := b.toNat_lt
    have hc := c.toNat_lt
    simp only [base64Encode, String.toList_append, String.toList_ofList, List.cons_append,
      List.nil_append, List.map_cons]
    rw [decodeFrom_char (by omega) (by simp), decodeFrom_char (by omega) (by simp),
      decodeFrom_char (by omega) (by simp), decodeFrom_char_last (Nat.mod_lt _ (by decide)) rfl,
      ih]
    simp [bind, Except.bind, pure, Except.pure, groupBytes_three]

/-- An encoding holds only ASCII characters. -/
theorem base64Encode_ascii (bs : List UInt8) : ∀ c ∈ (base64Encode bs).toList, c.toNat < 128 := by
  induction bs using base64Encode.induct with
  | case1 => simp [base64Encode]
  | case2 a => simp [base64Encode, base64Char_ascii]
  | case3 a b => simp [base64Encode, base64Char_ascii]
  | case4 a b c rest ih =>
    simp only [base64Encode, String.toList_append, String.toList_ofList, List.forall_mem_append,
      List.forall_mem_cons]
    exact ⟨⟨base64Char_ascii _, base64Char_ascii _, base64Char_ascii _, base64Char_ascii _,
      by simp⟩, ih⟩

/-- Every byte string, UTF-8 or not, decodes from its encoding. -/
theorem base64Decode_encode (bs : List UInt8) : base64Decode (base64Encode bs) = .ok bs := by
  have bytes := Json.toUTF8_toList_of_ascii (base64Encode_ascii bs)
  rw [String.ofList_toList] at bytes
  rw [base64Decode, bytes]
  exact decodeFrom_encode _ bs 0

end DepLock.Text
