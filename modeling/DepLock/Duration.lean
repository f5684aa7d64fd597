import DepLock.Text.Quoted
/-!
# Durations

A duration is a signed number of nanoseconds. Its text is a sequence of decimal numbers,
each with an optional fraction and a unit (`ns`, `us` or `µs`, `ms`, `s`, `m`, `h`),
after an optional sign: `1h30m`, `1.5us`, `-2s`; `0` alone is zero.

`Duration.parse` reads that text and refuses a text with no number, a number without a
unit, an unknown unit, or a total beyond 2^63 nanoseconds. A fraction is scaled to the
unit in double precision and truncated, so that `0.1s` is 100000000ns.

`Duration.text` writes hours, minutes and seconds with a fraction of nine digits at
most (`1h30m0s`, `1.5s`); below a second it uses the largest of `ms`, `µs` and `ns`
that keeps a whole part, and zero is `0s`.
-/

set_option autoImplicit false

namespace DepLock

/-- A signed span of time in nanoseconds. -/
structure Duration where
  nanos : Int
deriving Repr, DecidableEq

namespace Duration

/-- Nanoseconds per unit of the units a text may use. -/
def unitNanos : List (String × Nat) :=
  [("ns", 1), ("us", 1000), ("\u00B5s", 1000), ("\u03BCs", 1000), ("ms", 1000000),
   ("s", 1000000000), ("m", 60000000000), ("h", 3600000000000)]

/-- The largest magnitude a duration may reach while it is read. -/
def limit : Nat := Nat.pow 2 63

/-- The whole number at the front of a text, or nothing when it grows past the limit. -/
def leadingInt (cs : List Char) : Option (Nat × List Char) :=
  go 0 cs
where
  /-- Reads digits onto `acc`. -/
  go (acc : Nat) : List Char → Option (Nat × List Char)
    | c :: rest =>
      if c.isDigit then
        if acc > limit / 10 then none
        else
          let x := acc * 10 + (c.toNat - 48)
          if x > limit then none else go x rest
      else some (acc, c :: rest)
    | [] => some (acc, [])

/-- The digits of a fraction as a number and a power of ten that scales it; digits that
would overflow are skipped. -/
def leadingFraction (cs : List Char) : Nat × Float × List Char :=
  go 0 1 false cs
where
  /-- Reads fraction digits. -/
  go (x : Nat) (scale : Float) (overflowed : Bool) : List Char → Nat × Float × List Char
    | c :: rest =>
      if c.isDigit then
        if overflowed then go x scale true rest
        else if x > (limit - 1) / 10 then go x scale true rest
        else
          let y := x * 10 + (c.toNat - 48)
          if y > limit then go x scale true rest
          else go y (scale * 10) false rest
      else (x, scale, c :: rest)
    | [] => (x, scale, [])

/-- Reads the numbers and units of a duration text; `total` is what was read so far. -/
def readParts (orig : String) (fuel : Nat) (total : Nat) (cs : List Char) : Except String Nat :=
  let invalid : Except String Nat := .error ("time: invalid duration " ++ Text.quoteBytes orig.toUTF8.toList)
  match fuel, cs with
  | _, [] => .ok total
  | 0, _ => invalid
  | fuel + 1, c :: _ =>
    if !(c == '.' || c.isDigit) then invalid
    else
      match leadingInt cs with
      | none => invalid
      | some (v, rest) =>
        let pre := rest.length != cs.length
        let (f, scale, rest, post) := match rest with
          | '.' :: more =>
            let (f, scale, after) := leadingFraction more
            (f, scale, after, after.length != more.length)
          | _ => (0, 1, rest, false)
        if !pre && !post then invalid
        else
          let unitChars := rest.takeWhile fun d => !(d == '.' || d.isDigit)
          let rest := rest.dropWhile fun d => !(d == '.' || d.isDigit)
          if unitChars.isEmpty then
            .error ("time: missing unit in duration " ++ Text.quoteBytes orig.toUTF8.toList)
          else
            let u := String.ofList unitChars
            match (unitNanos.find? (·.1 == u)).map (·.2) with
            | none =>
              .error ("time: unknown unit " ++ Text.quoteBytes u.toUTF8.toList ++ " in duration " ++
                Text.quoteBytes orig.toUTF8.toList)
            | some unit =>
              if v > limit / unit then invalid
              else
                let v := v * unit
                let v := if f > 0 then v + (Float.ofNat f * (Float.ofNat unit / scale)).toUInt64.toNat else v
                if v > limit then invalid
                else
                  let total := total + v
                  if total > limit then invalid else readParts orig fuel total rest

/-- Reads a duration text. -/
def parse (s : String) : Except String Duration :=
  let (neg, body) := match s.toList with
    | '-' :: rest => (true, rest)
    | '+' :: rest => (false, rest)
    | cs => (false, cs)
  if body == ['0'] then .ok ⟨0⟩
  else if body.isEmpty then .error ("time: invalid duration " ++ Text.quoteBytes s.toUTF8.toList)
  else do
    let total ← readParts s (body.length + 1) 0 body
    if neg then pure ⟨-(total : Int)⟩
    else if total > limit - 1 then .error ("time: invalid duration " ++ Text.quoteBytes s.toUTF8.toList)
    else pure ⟨total⟩

/-- The digits of `v / 10^prec` after the point, without trailing zeros, and the whole
part. -/
def fracText (v prec : Nat) : String × Nat :=
  let frac := v % Nat.pow 10 prec
  let whole := v / Nat.pow 10 prec
  if frac == 0 then ("", whole)
  else
    let ds := (toString frac).toList
    let ds := List.replicate (prec - ds.length) '0' ++ ds
    ("." ++ String.ofList (ds.reverse.dropWhile (· == '0')).reverse, whole)

/-- The text of a duration. -/
def text (d : Duration) : String :=
  let u := d.nanos.natAbs
  let sign := if d.nanos < 0 then "-" else ""
  if u == 0 then "0s"
  else if u < 1000000000 then
    let (prec, unit) :=
      if u < 1000 then (0, "ns") else if u < 1000000 then (3, "\u00B5s") else (6, "ms")
    let (frac, whole) := fracText u prec
    sign ++ toString whole ++ frac ++ unit
  else
    let (frac, secs) := fracText u 9
    let s := toString (secs % 60) ++ frac ++ "s"
    let mins := secs / 60
    if mins == 0 then sign ++ s
    else
      let m := toString (mins % 60) ++ "m" ++ s
      let hours := mins / 60
      if hours == 0 then sign ++ m else sign ++ toString hours ++ "h" ++ m

end Duration

end DepLock
