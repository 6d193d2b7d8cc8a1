import HttpCall.Number.Shortest

/-!
# Text of binary64 numbers

A binary64 number is written with the digits of its shortest decimal. A format says
which magnitudes are written positionally (`12.5`, `0.001`, `300`) and which in
scientific notation (`1.25e+20`): a value whose leading digit stands at `10^k` is
positional when `k` lies in the format's range. It also says whether a whole number
keeps a point and a zero (`300.0`) and whether a positive exponent carries a plus sign.
A negative value, zero included, starts with `-`; the infinities are `inf` and `-inf`,
and not-a-number is `NaN`.
-/

namespace HttpCall

/-- How a binary64 number is written. -/
structure FloatFormat where
  /-- The least power of ten of a leading digit written positionally, if any. -/
  positionalFrom : Option Int
  /-- The greatest power of ten of a leading digit written positionally, if any. -/
  positionalTo : Option Int
  /-- A whole number written positionally ends in `.0`. -/
  pointForWhole : Bool
  /-- A positive exponent is written with a plus sign. -/
  plusExponent : Bool
  deriving DecidableEq, Repr

namespace FloatFormat

/-- Is a leading digit at `10^k` written positionally? -/
def positional (f : FloatFormat) (k : Int) : Bool :=
  (match f.positionalFrom with | some lo => decide (lo ≤ k) | none => true) &&
    (match f.positionalTo with | some hi => decide (k ≤ hi) | none => true)

/-- `n` zeros. -/
def zeros (n : Nat) : String := String.ofList (List.replicate n '0')

/-- A decimal in positional notation. -/
def writePositional (f : FloatFormat) (d : Decimal) : String :=
  let text := toString d.digits
  if d.exponent ≥ 0 then
    text ++ zeros d.exponent.toNat ++ (if f.pointForWhole then ".0" else "")
  else
    let places := (-d.exponent).toNat
    if places < text.length then
      String.ofList (text.toList.take (text.length - places)) ++ "." ++
        String.ofList (text.toList.drop (text.length - places))
    else "0." ++ zeros (places - text.length) ++ text

/-- A decimal in scientific notation: the leading digit, the others after a point, and
the power of ten of the leading digit. -/
def writeScientific (f : FloatFormat) (d : Decimal) : String :=
  let cs := (toString d.digits).toList
  let k := d.leadingExponent
  let mantissa := match cs with
    | c :: rest@(_ :: _) => String.ofList (c :: '.' :: rest)
    | _ => String.ofList cs
  let sign := if k < 0 then "-" else if f.plusExponent then "+" else ""
  mantissa ++ "e" ++ sign ++ toString k.natAbs

/-- The text of a number. -/
def write (f : FloatFormat) : Binary64 → String
  | .nan => "NaN"
  | .infinite negative => if negative then "-inf" else "inf"
  | .finite negative m e =>
    let sign := if negative then "-" else ""
    if m = 0 then sign ++ f.writePositional ⟨0, 0⟩
    else
      let d := Binary64.shortest m e
      if f.positional d.leadingExponent then sign ++ f.writePositional d
      else sign ++ f.writeScientific d

end FloatFormat

end HttpCall
