import DepLock.Proofs.Time.Calendar
import DepLock.Proofs.Json.RoundTrip
import DepLock.Proofs.Semver.Order
/-!
# Reading a timestamp's text back

`Timestamp.text` writes a valid timestamp (`Timestamp.Valid`) in a form that
`Timestamp.parse` reads back to the same fields (`parse_text`). Every number is written
with a fixed number of digits (`digitsOf`), which `getNum` and `digitsValue` read back;
the fraction of a second loses its trailing zeros, which `nanosOf` puts back by scaling;
and the offset is `Z` or a sign with hours and minutes, which `readOffset` reads back.
-/

set_option autoImplicit false

namespace DepLock.Timestamp

open DepLock.Json DepLock.Semver

/-! ## Digits -/

/-- The last `w` decimal digits of `n`, most significant first. -/
def digitsOf : Nat → Nat → List Char
  | 0, _ => []
  | w + 1, n => digitsOf w (n / 10) ++ [Nat.digitChar (n % 10)]

/-- The last digits of a number are as many as asked for. -/
theorem digitsOf_length (w n : Nat) : (digitsOf w n).length = w := by
  induction w generalizing n with
  | zero => rfl
  | succ w ih => simp [digitsOf, ih]

/-- The digits of zero are zeros. -/
theorem digitsOf_zero (w : Nat) : digitsOf w 0 = List.replicate w '0' := by
  induction w with
  | zero => rfl
  | succ w ih => simp [digitsOf, ih, List.replicate_succ', Nat.digitChar]

/-- The last digits of a number are all digits. -/
theorem isDigit_of_mem_digitsOf {w n : Nat} {c : Char} (h : c ∈ digitsOf w n) :
    c.isDigit = true := by
  induction w generalizing n with
  | zero => simp [digitsOf] at h
  | succ w ih =>
    simp only [digitsOf, List.mem_append, List.mem_singleton] at h
    rcases h with h | rfl
    · exact ih h
    · simp [Nat.isDigit_digitChar, Nat.mod_lt]

/-- A number below `10 ^ w`, written with at least `w` digits, is its last `w` digits. -/
theorem padded_toList {w n : Nat} (hw : 0 < w) (h : n < Nat.pow 10 w) :
    (padded w n).toList = digitsOf w n := by
  induction w generalizing n with
  | zero => omega
  | succ w ih =>
    have text : ∀ w m, (padded w m).toList =
        List.replicate (w - (Nat.toDigits 10 m).length) '0' ++ Nat.toDigits 10 m := by
      intro w m
      simp [padded, toString, Nat.repr]
    rw [text, Nat.toDigits_eq_if (by decide)]
    by_cases small : n < 10
    · -- one digit: the rest of the width is zeros
      simp [small, digitsOf, Nat.div_eq_of_lt small, Nat.mod_eq_of_lt small, digitsOf_zero]
    · have hw' : 0 < w := Nat.pos_of_ne_zero (by rintro rfl; exact small h)
      have hlt : n / 10 < Nat.pow 10 w :=
        Nat.div_lt_of_lt_mul (by have h' : n < Nat.pow 10 w * 10 := h; omega)
      rw [if_neg small, digitsOf, ← ih hw' hlt, text]
      simp

/-! ## Digit bytes -/

/-- A character below 256 keeps its code as a byte. -/
theorem toNat_toUInt8_of_lt {c : Char} (h : c.toNat < 256) : c.toUInt8.toNat = c.toNat := by
  rw [← Char.toUInt8_val, UInt32.toNat_toUInt8]
  exact Nat.mod_eq_of_lt h

/-- A digit byte is one whose value lies between those of 0 and 9. -/
theorem isDigitByte_iff {b : UInt8} : isDigitByte b = true ↔ 48 ≤ b.toNat ∧ b.toNat ≤ 57 := by
  simp [isDigitByte, UInt8.le_iff_toNat_le]

/-- The byte of a digit is a digit byte. -/
theorem isDigitByte_toUInt8 {c : Char} (h : c.isDigit = true) : isDigitByte c.toUInt8 = true := by
  have digit := isDigit_toNat h
  rw [isDigitByte_iff, toNat_toUInt8_of_lt (by omega)]
  exact digit

/-- The value of the byte of a digit's character is the digit. -/
theorem digitValue_digitChar {d : Nat} (h : d < 10) : digitValue (Nat.digitChar d).toUInt8 = d := by
  have code := Nat.toNat_digitChar_of_lt_ten h
  rw [digitValue, toNat_toUInt8_of_lt (by omega), code]
  omega

/-- One more digit at the end multiplies the value by ten and adds the digit. -/
theorem digitsValue_concat (bs : List UInt8) (b : UInt8) :
    digitsValue (bs ++ [b]) = 10 * digitsValue bs + digitValue b := by
  simp [digitsValue, List.foldl_append]

/-- The digits of `n` spell `n` modulo the power of ten of their count. -/
theorem digitsValue_digitsOf (w n : Nat) :
    digitsValue ((digitsOf w n).map Char.toUInt8) = n % Nat.pow 10 w := by
  induction w generalizing n with
  | zero => show digitsValue [] = n % 1; simp [digitsValue, Nat.mod_one]
  | succ w ih =>
    have pow : Nat.pow 10 (w + 1) = 10 * Nat.pow 10 w := Nat.mul_comm _ _
    rw [digitsOf, List.map_append, List.map_singleton, digitsValue_concat, ih,
      digitValue_digitChar (Nat.mod_lt _ (by decide)), pow, Nat.mod_mul]
    omega

/-- The bytes of a number's last digits are all digit bytes. -/
theorem all_isDigitByte_digitsOf (w n : Nat) :
    ((digitsOf w n).map Char.toUInt8).all isDigitByte = true := by
  rw [List.all_eq_true]
  intro b hb
  obtain ⟨c, hc, rfl⟩ := List.mem_map.mp hb
  exact isDigitByte_toUInt8 (isDigit_of_mem_digitsOf hc)

/-- Two written digits: two digit bytes that `getNum` reads back as the number. -/
theorem digitsOf_two {n : Nat} (h : n < 100) :
    ∃ a b, (digitsOf 2 n).map Char.toUInt8 = [a, b] ∧
      ∀ fixed rest, getNum (a :: b :: rest) fixed = some (n, rest) := by
  have tens : n / 10 % 10 < 10 := Nat.mod_lt _ (by decide)
  have ones : n % 10 < 10 := Nat.mod_lt _ (by decide)
  refine ⟨_, _, rfl, fun fixed rest => ?_⟩
  have da := isDigitByte_toUInt8 (Nat.isDigit_digitChar.trans (decide_eq_true tens))
  have db := isDigitByte_toUInt8 (Nat.isDigit_digitChar.trans (decide_eq_true ones))
  simp only [getNum, da, db, Bool.not_true, Bool.false_eq_true, if_false, if_true,
    digitValue_digitChar tens, digitValue_digitChar ones, Option.some.injEq, Prod.mk.injEq,
    and_true]
  omega

/-- Four written digits: the year's four digit bytes and their value. -/
theorem digitsOf_four {n : Nat} (h : n < 10000) :
    ∃ a b c d, (digitsOf 4 n).map Char.toUInt8 = [a, b, c, d] ∧
      [a, b, c, d].all isDigitByte = true ∧ digitsValue [a, b, c, d] = n := by
  exact ⟨_, _, _, _, rfl, all_isDigitByte_digitsOf 4 n,
    (digitsValue_digitsOf 4 n).trans (Nat.mod_eq_of_lt h)⟩

/-- A number below 100 is written as its last two digits. -/
theorem padded_two {n : Nat} (h : n < 100) : (padded 2 n).toList = digitsOf 2 n :=
  padded_toList (by decide) h

/-! ## The fraction of a second -/

/-- Zeros at the end multiply the value by a power of ten. -/
theorem digitsValue_append_zeros (bs : List UInt8) (k : Nat) :
    digitsValue (bs ++ List.replicate k '0'.toUInt8) = digitsValue bs * Nat.pow 10 k := by
  induction k with
  | zero => simp
  | succ k ih =>
    have zero : digitValue '0'.toUInt8 = 0 := rfl
    have pow : Nat.pow 10 (k + 1) = 10 * Nat.pow 10 k := Nat.mul_comm _ _
    rw [List.replicate_succ', ← List.append_assoc, digitsValue_concat, ih, zero, pow,
      Nat.add_zero, Nat.mul_left_comm]

/-- Digits are the digits kept by dropping their trailing zeros, followed by the zeros. -/
theorem trailing_zeros (l : List Char) :
    ∃ k, l = (l.reverse.dropWhile (· == '0')).reverse ++ List.replicate k '0' := by
  have zeros : ∀ c ∈ l.reverse.takeWhile (· == '0'), c = '0' := fun c hc => by
    simpa using List.all_eq_true.mp List.all_takeWhile c hc
  obtain ⟨k, hk⟩ : ∃ k, l.reverse.takeWhile (· == '0') = List.replicate k '0' :=
    ⟨_, List.eq_replicate_iff.mpr ⟨rfl, zeros⟩⟩
  refine ⟨k, ?_⟩
  calc l = (l.reverse.takeWhile (· == '0') ++ l.reverse.dropWhile (· == '0')).reverse := by
        rw [List.takeWhile_append_dropWhile, List.reverse_reverse]
    _ = (l.reverse.dropWhile (· == '0')).reverse ++ List.replicate k '0' := by
        rw [List.reverse_append, hk, List.reverse_replicate]

/-- A fraction that is not zero is written as a point and the digits of the nanoseconds
up to the last one that is not zero; `nanosOf` scales them back. -/
theorem fraction_toList {nanos : Nat} (h0 : nanos ≠ 0) (h : nanos < 1000000000) :
    ∃ f : List Char, (fraction nanos).toList = '.' :: f ∧ f ≠ [] ∧
      (∀ c ∈ f, c.isDigit = true) ∧ nanosOf (f.map Char.toUInt8) = nanos := by
  have written : (padded 9 nanos).toList = digitsOf 9 nanos := padded_toList (by decide) h
  obtain ⟨k, hk⟩ := trailing_zeros (digitsOf 9 nanos)
  generalize hf : ((digitsOf 9 nanos).reverse.dropWhile (· == '0')).reverse = f at hk
  have text : (fraction nanos).toList = '.' :: f := by
    simp [fraction, h0, written, hf]
  have length : f.length + k = 9 := by
    have lengths := congrArg List.length hk
    simp only [digitsOf_length, List.length_append, List.length_replicate] at lengths
    omega
  have value : digitsValue (f.map Char.toUInt8) * Nat.pow 10 k = nanos := by
    have spelled := digitsValue_digitsOf 9 nanos
    have whole : nanos % Nat.pow 10 9 = nanos := Nat.mod_eq_of_lt h
    rw [hk, List.map_append, List.map_replicate, digitsValue_append_zeros, whole] at spelled
    exact spelled
  refine ⟨f, text, ?_, ?_, ?_⟩
  · rintro hnil
    rw [hnil] at value
    exact h0 (by simpa [digitsValue] using value.symm)
  · intro c hc
    exact isDigit_of_mem_digitsOf (w := 9) (n := nanos) (by rw [hk]; exact List.mem_append_left _ hc)
  · have kept : (f.map Char.toUInt8).take 9 = f.map Char.toUInt8 :=
      List.take_of_length_le (by simp only [List.length_map]; omega)
    simp only [nanosOf, kept, List.length_map]
    rw [show 9 - f.length = k by omega]
    exact value

/-! ## The offset -/

/-- The characters of an offset that is not zero: its sign, hours and minutes. -/
theorem offsetText_toList {offset : Int} (zero : offset ≠ 0) (hday : offset.natAbs < 86400) :
    (offsetText offset).toList =
      (if offset < 0 then '-' else '+') :: digitsOf 2 (offset.natAbs / 60 / 60) ++
        ':' :: digitsOf 2 (offset.natAbs / 60 % 60) := by
  simp only [offsetText, beq_iff_eq, zero, if_false, String.toList_append,
    padded_two (show offset.natAbs / 60 / 60 < 100 by omega),
    padded_two (show offset.natAbs / 60 % 60 < 100 by omega)]
  split <;> rfl

/-- An offset's text starts at `Z` or at a sign: neither a decimal mark nor a digit. -/
theorem offsetText_bytes {offset : Int} (hday : offset.natAbs < 86400) :
    ∃ s rest, (offsetText offset).toList.map Char.toUInt8 = s :: rest ∧
      ¬(s = 46 ∨ s = 44) ∧ isDigitByte s = false := by
  by_cases zero : offset = 0
  · subst zero
    exact ⟨90, [], rfl, by decide, by decide⟩
  · rw [offsetText_toList zero hday, List.cons_append, List.map_cons]
    refine ⟨_, _, rfl, ?_⟩
    split <;> decide

/-- The text of a valid offset reads back to it: `Z` for zero, otherwise a sign and the
hours and minutes of the offset, which is a whole number of minutes. -/
theorem readOffset_offsetText {offset : Int} (h60 : offset % 60 = 0)
    (hday : offset.natAbs < 86400) (rest : List UInt8) :
    readOffset ((offsetText offset).toList.map Char.toUInt8 ++ rest) = .ok (offset, rest) := by
  by_cases zero : offset = 0
  · subst zero
    rfl
  · obtain ⟨a, b, hab, hours⟩ := digitsOf_two (n := offset.natAbs / 60 / 60) (by omega)
    obtain ⟨c, d, hcd, minutes⟩ := digitsOf_two (n := offset.natAbs / 60 % 60) (by omega)
    have text := offsetText_toList zero hday
    have under : ¬offset.natAbs / 60 / 60 > 24 ∧ ¬offset.natAbs / 60 % 60 > 60 := by omega
    have signs : '-'.toUInt8 = 45 ∧ '+'.toUInt8 = 43 ∧ ':'.toUInt8 = 58 := ⟨rfl, rfl, rfl⟩
    rw [text, List.map_append, List.map_cons, List.map_cons, hab, hcd]
    -- the size of the offset is named, so that no simp lemma about `natAbs` reaches it
    generalize size : offset.natAbs = n at hours minutes under
    by_cases neg : offset < 0
    · simp [neg, readOffset, hours, minutes, under, signs]
      omega
    · simp [neg, readOffset, hours, minutes, under, signs]
      omega

/-! ## The whole text -/

/-- No month has more than 31 days. -/
theorem daysIn_le (month year : Nat) : daysIn month year ≤ 31 := by
  unfold daysIn
  split
  · split <;> decide
  all_goals decide

/-- The characters of a valid timestamp's text, field by field. -/
theorem text_toList {t : Timestamp} (ht : t.Valid) :
    t.text.toList = digitsOf 4 t.year ++ '-' :: digitsOf 2 t.month ++ '-' :: digitsOf 2 t.day ++
      'T' :: digitsOf 2 t.hour ++ ':' :: digitsOf 2 t.minute ++ ':' :: digitsOf 2 t.second ++
      (fraction t.nanos).toList ++ (offsetText t.offset).toList := by
  have day := daysIn_le t.month t.year
  have hday := ht.day
  have hmonth := ht.month
  simp only [text, String.toList_append,
    padded_toList (by decide) (show t.year < Nat.pow 10 4 from ht.year),
    padded_two (show t.month < 100 by omega), padded_two (show t.day < 100 by omega),
    padded_two (show t.hour < 100 by have := ht.hour; omega),
    padded_two (show t.minute < 100 by have := ht.minute; omega),
    padded_two (show t.second < 100 by have := ht.second; omega)]
  simp

/-- A digit is ASCII. -/
theorem ascii_of_isDigit {c : Char} (h : c.isDigit = true) : c.toNat < 128 := by
  have := isDigit_toNat h
  omega

/-- The fraction of a second is written in ASCII. -/
theorem fraction_ascii {nanos : Nat} (h : nanos < 1000000000) :
    ∀ c ∈ (fraction nanos).toList, c.toNat < 128 := by
  by_cases h0 : nanos = 0
  · subst h0
    simp [fraction]
  · obtain ⟨f, hf, -, digits, -⟩ := fraction_toList h0 h
    rw [hf, List.forall_mem_cons]
    exact ⟨by decide, fun c hc => ascii_of_isDigit (digits c hc)⟩

/-- An offset within a day is written in ASCII. -/
theorem offsetText_ascii {offset : Int} (hday : offset.natAbs < 86400) :
    ∀ c ∈ (offsetText offset).toList, c.toNat < 128 := by
  by_cases zero : offset = 0
  · intro c hc
    simp [zero, offsetText] at hc
    subst hc
    decide
  · rw [offsetText_toList zero hday]
    simp only [List.forall_mem_cons, List.forall_mem_append, and_assoc]
    exact ⟨by split <;> decide, fun c hc => ascii_of_isDigit (isDigit_of_mem_digitsOf hc),
      by decide, fun c hc => ascii_of_isDigit (isDigit_of_mem_digitsOf hc)⟩

/-- The text of a valid timestamp is ASCII, so its bytes are its characters'. -/
theorem text_toUTF8 {t : Timestamp} (ht : t.Valid) :
    t.text.toUTF8.toList = t.text.toList.map Char.toUInt8 := by
  have ascii : ∀ c ∈ t.text.toList, c.toNat < 128 := by
    rw [text_toList ht]
    have digit : ∀ w n, ∀ c ∈ digitsOf w n, c.toNat < 128 := fun w n c hc =>
      ascii_of_isDigit (isDigit_of_mem_digitsOf hc)
    simp only [List.forall_mem_append, List.forall_mem_cons, and_assoc]
    exact ⟨digit _ _, by decide, digit _ _, by decide, digit _ _, by decide, digit _ _, by decide,
      digit _ _, by decide, digit _ _, fraction_ascii ht.nanos, offsetText_ascii ht.offset.2⟩
  rw [← toUTF8_toList_of_ascii ascii, String.ofList_toList]

/-- The text of a valid timestamp reads back to it. -/
theorem readLayout_text {t : Timestamp} (ht : t.Valid) :
    readLayout (t.text.toList.map Char.toUInt8) = .ok t := by
  have monthDays := daysIn_le t.month t.year
  obtain ⟨y0, y1, y2, y3, hy, year_digits, year⟩ := digitsOf_four ht.year
  obtain ⟨mo0, mo1, hmo, month⟩ := digitsOf_two (show t.month < 100 by have := ht.month; omega)
  obtain ⟨d0, d1, hd, day⟩ := digitsOf_two (show t.day < 100 by have := ht.day; omega)
  obtain ⟨h0, h1, hh, hour⟩ := digitsOf_two (show t.hour < 100 by have := ht.hour; omega)
  obtain ⟨mi0, mi1, hmi, minute⟩ := digitsOf_two (show t.minute < 100 by have := ht.minute; omega)
  obtain ⟨s0, s1, hs, second⟩ := digitsOf_two (show t.second < 100 by have := ht.second; omega)
  have seps : '-'.toUInt8 = 45 ∧ 'T'.toUInt8 = 84 ∧ ':'.toUInt8 = 58 := ⟨rfl, rfl, rfl⟩
  have fields : ¬(t.month = 0 ∨ 12 < t.month) ∧ ¬24 ≤ t.hour ∧ ¬60 ≤ t.minute ∧
      ¬60 ≤ t.second ∧ ¬(t.day = 0 ∨ daysIn t.month t.year < t.day) := by
    have := ht.month; have := ht.day; have := ht.hour; have := ht.minute; have := ht.second
    omega
  obtain ⟨s, rest, hoff, mark, digit⟩ := offsetText_bytes ht.offset.2
  have offset := readOffset_offsetText ht.offset.1 ht.offset.2 []
  rw [List.append_nil, hoff] at offset
  rw [text_toList ht]
  simp only [List.map_append, List.map_cons, hy, hmo, hd, hh, hmi, hs, seps, hoff,
    List.cons_append, List.nil_append]
  by_cases whole : t.nanos = 0
  · have none : (fraction t.nanos).toList = [] := by simp [whole, fraction]
    rw [none, List.map_nil, List.nil_append]
    cases rest with
    | nil =>
      simp [readLayout, year_digits, year, expect, month, day, hour, minute, second, bind,
        Except.bind, pure, Except.pure, fields, offset]
      rw [← whole]
    | cons d rest =>
      simp [readLayout, year_digits, year, expect, month, day, hour, minute, second, bind,
        Except.bind, pure, Except.pure, fields, offset, mark]
      rw [← whole]
  · obtain ⟨f, hf, hne, digits, nanos⟩ := fraction_toList whole ht.nanos
    obtain ⟨c, f, rfl⟩ := List.exists_cons_of_ne_nil hne
    have kept : ∀ b ∈ (c :: f).map Char.toUInt8, isDigitByte b = true := by
      intro b hb
      obtain ⟨c', hc', rfl⟩ := List.mem_map.mp hb
      exact isDigitByte_toUInt8 (digits c' hc')
    have taken : List.takeWhile isDigitByte ((c :: f).map Char.toUInt8 ++ s :: rest) =
        (c :: f).map Char.toUInt8 := by
      rw [List.takeWhile_append_of_pos kept, List.takeWhile_cons_of_neg (by simp [digit]),
        List.append_nil]
    have dropped : List.dropWhile isDigitByte ((c :: f).map Char.toUInt8 ++ s :: rest) =
        s :: rest := by
      rw [List.dropWhile_append_of_pos kept, List.dropWhile_cons_of_neg (by simp [digit])]
    have point : '.'.toUInt8 = 46 := rfl
    rw [hf]
    simp only [List.map_cons, List.cons_append] at taken dropped nanos kept ⊢
    simp [readLayout, year_digits, year, expect, month, day, hour, minute, second, bind,
      Except.bind, pure, Except.pure, fields, offset, point, taken, dropped, nanos,
      kept c.toUInt8 (List.mem_cons_self)]

/-- The text of a valid timestamp parses back to it. -/
theorem parse_text {t : Timestamp} (ht : t.Valid) : parse t.text = .ok t := by
  simp only [parse, text_toUTF8 ht, readLayout_text ht, Except.mapError]

/-! ## The zero time and instants -/

/-- The zero time has an RFC 3339 text. -/
theorem zero_valid : zero.Valid := by
  constructor <;> decide

/-- The zero time is zero. -/
theorem isZero_zero : zero.isZero = true := rfl

/-- No instant from 1970 on is the zero time, which lies in year 1. -/
theorem isZero_ofUnixNanos {n : Int} (h : 0 ≤ n) : (ofUnixNanos n).isZero = false := by
  have first : zero.toUnixNanos = -62135596800000000000 := rfl
  simp only [isZero, toUnixNanos_ofUnixNanos h, first, beq_eq_false_iff_ne, ne_eq]
  omega

end DepLock.Timestamp
