import HttpCall.Number.Binary64

/-!
# Shortest decimals

The shortest decimal of a positive binary64 value is the decimal with the fewest
significant digits that reads back as that value, and of those the nearest to it.

The reals that read back as `m * 2^e` form an interval around it: half the gap to each
neighbouring value on either side, where the gap below a power of two `2^52 * 2^e` is
counted as half the gap above, and the ends belong to it when `m` is even (a tie reads
back to the even significand). For one, two, up to seventeen significant digits, the
value's two neighbours on that decimal grid are tested in exact arithmetic: the first
grid with a neighbour in the interval gives the digits, and of two neighbours in it the
nearer wins. Seventeen digits always suffice. If a point of a grid lies in the interval,
so does one of the value's two neighbours on it, so no shorter decimal reads back.
-/

namespace HttpCall

/-- A decimal `digits * 10^exponent`. -/
structure Decimal where
  digits : Nat
  exponent : Int
  deriving DecidableEq, Repr, Inhabited

namespace Decimal

/-- The same decimal with the trailing zeros of its digits moved into the exponent;
`fuel` bounds the zeros moved. -/
def trim (d : Decimal) (fuel : Nat) : Decimal :=
  match fuel with
  | 0 => d
  | fuel + 1 =>
    if d.digits ≠ 0 ∧ d.digits % 10 = 0 then trim ⟨d.digits / 10, d.exponent + 1⟩ fuel
    else d

/-- The decimal with no trailing zeros in its digits. -/
def normalize (d : Decimal) : Decimal := d.trim (Binary64.decimalLength d.digits)

/-- The power of ten of the leading digit of a positive decimal: its number of digits
less one, plus the exponent. -/
def leadingExponent (d : Decimal) : Int :=
  (Binary64.decimalLength d.digits : Int) - 1 + d.exponent

end Decimal

namespace Binary64

/-- Compare `c * 10^s` with `x * 2^f` exactly. -/
def compareScaled (c : Nat) (s : Int) (x : Nat) (f : Int) : Ordering :=
  compare (c * Nat.pow 10 s.toNat * Nat.pow 2 (-f).toNat)
    (x * Nat.pow 10 (-s).toNat * Nat.pow 2 f.toNat)

/-- The reals that read back as a positive binary64 value: from `low * 2^scale` to
`high * 2^scale`, the ends included when `closed`. -/
structure ReadBack where
  low : Nat
  high : Nat
  scale : Int
  closed : Bool
  deriving DecidableEq, Repr

/-- The interval that reads back as `m * 2^e`, in quarters of its unit. -/
def readBack (m : Nat) (e : Int) : ReadBack :=
  { low := if m = Nat.pow 2 52 then 4 * m - 1 else 4 * m - 2
    high := 4 * m + 2
    scale := e - 2
    closed := m % 2 == 0 }

/-- Does `c * 10^s` read back? -/
def ReadBack.contains (r : ReadBack) (c : Nat) (s : Int) : Bool :=
  match compareScaled c s r.low r.scale, compareScaled c s r.high r.scale with
  | .lt, _ => false
  | _, .gt => false
  | .eq, _ => r.closed
  | _, .eq => r.closed
  | _, _ => true

/-- The power of ten of the leading digit of `num / den`, for positive `num` and `den`:
the greatest `k` with `10^k ≤ num / den`. Below one, with `j` the number of digits of
`den / num`, it is `-(j - 1)` when the quotient is exactly `10^-(j-1)` and `-j`
otherwise. -/
def decimalLog (num den : Nat) : Int :=
  if den ≤ num then (decimalLength (num / den) : Int) - 1
  else
    let j := decimalLength (den / num)
    if den ≤ num * Nat.pow 10 (j - 1) then -((j - 1 : Nat) : Int) else -(j : Int)

/-- The decimal with `n + 1` significant digits nearest to `num / den` that reads back,
if its grid has one; `top` is the power of ten of the value's leading digit. -/
def gridHit (r : ReadBack) (num den : Nat) (top : Int) (n : Nat) : Option Decimal :=
  let s := top - n
  let p := num * Nat.pow 10 (-s).toNat
  let q := den * Nat.pow 10 s.toNat
  let c := p / q
  let rest := p % q
  let lowHit := r.contains c s
  let highHit := rest != 0 && r.contains (c + 1) s
  if lowHit && highHit then
    some ⟨if 2 * rest < q ∨ (2 * rest = q ∧ c % 2 = 0) then c else c + 1, s⟩
  else if lowHit then some ⟨c, s⟩
  else if highHit then some ⟨c + 1, s⟩
  else none

/-- The shortest decimal of the positive value `m * 2^e`, without trailing zeros. -/
def shortest (m : Nat) (e : Int) : Decimal :=
  let num := m * Nat.pow 2 e.toNat
  let den := Nat.pow 2 (-e).toNat
  let top := decimalLog num den
  let r := readBack m e
  match (List.range 17).findSome? (gridHit r num den top) with
  | some d => d.normalize
  | none =>
    let s := top - 16
    (Decimal.mk (roundHalfEven (num * Nat.pow 10 (-s).toNat) (den * Nat.pow 10 s.toNat)) s).normalize

end Binary64

end HttpCall
