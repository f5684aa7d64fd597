/-!
# Double-precision values

A `Double` is what a decimal number reads as in double precision: a sign with a finite
magnitude `mantissa · 2^exponent`, an infinity, or NaN. Everything is exact integer
arithmetic, so the two rules below can be stated and checked on naturals.

* `Double.ofDecimal` gives the double nearest `digits · 10^exponent`: the magnitude
  is rounded to 53 significant bits, or to a multiple of `2^-1074` below the normal
  range, a tie going to the even mantissa; a magnitude that rounds to `2^1024` or more
  is an infinity.
* `Double.fixed` writes a double with a fixed number of decimal places, rounding the
  exact binary value to the nearest multiple of the last place, a tie going to the
  even digit. A negative sign is kept also when the digits are all zero; infinities
  are `+Inf` and `-Inf`, and NaN is `NaN`.
-/

set_option autoImplicit false

namespace DepLock.Number

/-- The integer nearest `a / d`, a tie going to the even one. -/
def roundHalfEven (a d : Nat) : Nat :=
  let q := a / d
  let r := a % d
  if 2 * r < d then q
  else if 2 * r > d then q + 1
  else if q % 2 == 0 then q
  else q + 1

/-- A double-precision value. -/
inductive Double where
  /-- `±mantissa · 2^exponent`. -/
  | finite (negative : Bool) (mantissa : Nat) (exponent : Int)
  | infinity (negative : Bool)
  | nan
deriving Repr, DecidableEq, Inhabited

/-- Bits of a significand. -/
def significandBits : Nat := 53

/-- The exponent of the least subnormal step, `2^-1074`. -/
def leastExponent : Int := -1074

/-- The greatest exponent of a finite mantissa of 53 bits: `(2^53 - 1) · 2^971` is the
largest finite double. -/
def greatestExponent : Int := 971

/-- Whether `a / d ≥ 2^e`. -/
def atLeastPow2 (a d : Nat) (e : Int) : Bool :=
  if e ≥ 0 then a ≥ d * Nat.pow 2 e.toNat else a * Nat.pow 2 (-e).toNat ≥ d

/-- The integer nearest `a / (d · 2^k)`, a tie going to the even one. -/
def roundScaled (a d : Nat) (k : Int) : Nat :=
  if k ≥ 0 then roundHalfEven a (d * Nat.pow 2 k.toNat) else roundHalfEven (a * Nat.pow 2 (-k).toNat) d

/-- The double magnitude nearest `a / d` for `a, d > 0`: a mantissa and exponent, or
none when it is too large for a finite double. -/
def nearestMagnitude (a d : Nat) : Option (Nat × Int) :=
  -- `top` is the exponent of the highest bit of `a / d`
  let guess : Int := (a.log2 : Int) - (d.log2 : Int)
  let top := if atLeastPow2 a d guess then guess else guess - 1
  let k := max (top - 52) leastExponent
  let q := roundScaled a d k
  let (q, k) := if q == Nat.pow 2 significandBits then (Nat.pow 2 (significandBits - 1), k + 1) else (q, k)
  if k > greatestExponent then none else some (q, k)

/-- The number of decimal digits of a natural number (one for zero). -/
def decimalLength (n : Nat) : Nat := (Nat.toDigits 10 n).length

/-- The double nearest `±digits · 10^exponent`. -/
def Double.ofDecimal (negative : Bool) (digits : Nat) (exponent : Int) : Double :=
  if digits == 0 then .finite negative 0 0
  else
    -- the value lies in [10^(size - 1), 10^size)
    let size := (decimalLength digits : Int) + exponent
    if size > 310 then .infinity negative
    else if size < -330 then .finite negative 0 0
    else
      let (a, d) := if exponent ≥ 0 then (digits * Nat.pow 10 exponent.toNat, 1)
        else (digits, Nat.pow 10 (-exponent).toNat)
      match nearestMagnitude a d with
      | some (q, k) => .finite negative q k
      | none => .infinity negative

/-- Whether a double is an infinity. -/
def Double.isInfinite : Double → Bool
  | .infinity _ => true
  | _ => false

/-- The text of a double with `places` decimals. -/
def Double.fixed (places : Nat) : Double → String
  | .nan => "NaN"
  | .infinity negative => if negative then "-Inf" else "+Inf"
  | .finite negative m e =>
    let unit := Nat.pow 10 places
    let scaled := if e ≥ 0 then m * Nat.pow 2 e.toNat * unit
      else roundHalfEven (m * unit) (Nat.pow 2 (-e).toNat)
    let frac := toString (scaled % unit)
    let fracText := if places == 0 then ""
      else "." ++ String.ofList (List.replicate (places - frac.length) '0') ++ frac
    (if negative then "-" else "") ++ toString (scaled / unit) ++ fracText

end DepLock.Number
