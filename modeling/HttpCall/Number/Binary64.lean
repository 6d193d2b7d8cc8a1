/-!
# Binary64 numbers

A binary64 number is what a 64-bit floating-point word holds: a signed finite value
`m * 2^e` with a significand `m` below `2^53`, a signed infinity, or not-a-number.

Numbers are read from decimals by rounding to the nearest binary64 value, a tie going to
the even significand; a decimal beyond the greatest finite value rounds to infinity and
one below half the least positive value to zero. Settings and JSON numbers with a
fraction or an exponent are read this way.

A number becomes an integer by rounding half away from zero, and an unsigned 64-bit word
by saturating: negative values and not-a-number give zero, values too large the
greatest word.
-/

namespace HttpCall

/-- A binary64 number. A finite one is `(-1)^negative * significand * 2^exponent`, with
`significand < 2^53` and `exponent ≥ -1074`; when the significand is below `2^52` the
exponent is `-1074`, and zero is written with exponent `0`. -/
inductive Binary64 where
  | finite (negative : Bool) (significand : Nat) (exponent : Int)
  | infinite (negative : Bool)
  | nan
  deriving DecidableEq, Repr, Inhabited

namespace Binary64

/-- The exponent of the least positive number. -/
def minExponent : Int := -1074

/-- The exponent of the greatest finite number, `(2^53 - 1) * 2^971`. -/
def maxExponent : Int := 971

/-- The number of decimal digits of `n`; zero has one. -/
def decimalLength (n : Nat) : Nat := (Nat.toDigits 10 n).length

/-- `n / d` rounded to the nearest integer, a tie to the even one. -/
def roundHalfEven (n d : Nat) : Nat :=
  let q := n / d
  let r := n % d
  if 2 * r > d ∨ (2 * r = d ∧ q % 2 = 1) then q + 1 else q

/-- The greatest `k` with `2^k ≤ num / den`, for positive `num` and `den`. With
`2^a ≤ num < 2^(a+1)` and `2^b ≤ den < 2^(b+1)` the quotient lies between `2^(a-b-1)`
and `2^(a-b+1)`, so one comparison decides. -/
def binaryLog (num den : Nat) : Int :=
  let a := Nat.log2 num
  let b := Nat.log2 den
  if den * Nat.pow 2 (a - b) ≤ num * Nat.pow 2 (b - a) then (a : Int) - b
  else (a : Int) - b - 1

/-- The signed zero. -/
def zero (negative : Bool) : Binary64 := finite negative 0 0

/-- The binary64 number nearest to `num / den`, with a sign. The unit of the significand
is chosen so that the quotient has 53 bits before rounding, or is the least unit for a
quotient below `2^-1022`; a significand rounded up to `2^53` moves to the next unit. -/
def ofRatio (negative : Bool) (num den : Nat) : Binary64 :=
  if num = 0 ∨ den = 0 then zero negative
  else
    let e := max (binaryLog num den - 52) minExponent
    let m := roundHalfEven (num * Nat.pow 2 (-e).toNat) (den * Nat.pow 2 e.toNat)
    let (m, e) := if m = Nat.pow 2 53 then (Nat.pow 2 52, e + 1) else (m, e)
    if m = 0 then zero negative
    else if e > maxExponent then infinite negative
    else finite negative m e

/-- The binary64 number nearest to `(-1)^negative * digits * 10^exponent`. A decimal
whose integer part has more than 310 digits is beyond the greatest finite value, and
one below `10^-325` is below half the least positive value, so neither needs the exact
quotient. -/
def ofDecimal (negative : Bool) (digits : Nat) (exponent : Int) : Binary64 :=
  if digits = 0 then zero negative
  else
    let size := (decimalLength digits : Int) + exponent
    if size > 310 then infinite negative
    else if size < -324 then zero negative
    else ofRatio negative (digits * Nat.pow 10 exponent.toNat) (Nat.pow 10 (-exponent).toNat)

/-- Is the number zero of either sign? -/
def isZero : Binary64 → Bool
  | finite _ m _ => m == 0
  | _ => false

/-- Is the sign bit set? -/
def isNegative : Binary64 → Bool
  | finite negative _ _ => negative
  | infinite negative => negative
  | nan => false

/-- The finite value `(-1)^negative * m * 2^e` rounded to an integer, halves away from
zero. -/
def roundHalfAway (negative : Bool) (m : Nat) (e : Int) : Int :=
  let magnitude :=
    if e ≥ 0 then m * Nat.pow 2 e.toNat
    else
      let d := Nat.pow 2 (-e).toNat
      (2 * m + d) / (2 * d)
  if negative then -(magnitude : Int) else magnitude

/-- The number as an unsigned 64-bit word: rounded half away from zero, negative values
and not-a-number give zero, values too large the greatest word. -/
def toUInt64Sat : Binary64 → Nat
  | finite negative m e =>
    let r := roundHalfAway negative m e
    if r < 0 then 0 else min r.toNat (Nat.pow 2 64 - 1)
  | infinite negative => if negative then 0 else Nat.pow 2 64 - 1
  | nan => 0

end Binary64

end HttpCall
