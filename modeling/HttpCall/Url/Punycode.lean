/-!
# Punycode

The Bootstring encoding of Unicode labels in ASCII with the parameters of RFC 3492:
base 36, thresholds between 1 and 26, skew 38, damping 700, initial bias 72 and initial
point 128. Code points are natural numbers; digits are `a` to `z` for 0 to 25 and `0`
to `9` for 26 to 35, read in either case.

Decoding takes the basic points before the last hyphen (a hyphen in the first place
delimits nothing, and is read as a digit, which fails) and inserts the others, read as
variable-length integers, at the positions they encode. As in the usual 32-bit
implementations, a running number that would leave 32 bits, or a point that is not a
Unicode scalar value, makes decoding fail. Texts longer than 2000 characters are not
decoded, and labels of more than 1000 points not encoded.
-/

namespace HttpCall.Punycode

/-- The bound that running numbers stay below. -/
def limit : Nat := Nat.pow 2 32

/-- The digit with a value, as a code point. -/
def digitPoint (d : Nat) : Nat :=
  if d < 26 then 97 + d else 22 + d

/-- The value of a digit, in either case. -/
def digitValue? (c : Nat) : Option Nat :=
  if 97 ≤ c ∧ c ≤ 122 then some (c - 97)
  else if 65 ≤ c ∧ c ≤ 90 then some (c - 65)
  else if 48 ≤ c ∧ c ≤ 57 then some (c - 22)
  else none

/-- The threshold of the digit at position `k` under `bias`. -/
def threshold (k bias : Nat) : Nat :=
  if k ≤ bias then 1 else if bias + 26 ≤ k then 26 else k - bias

theorem threshold_pos (k bias : Nat) : 1 ≤ threshold k bias := by
  unfold threshold; split
  · omega
  · split <;> omega

theorem threshold_le (k bias : Nat) : threshold k bias ≤ 26 := by
  unfold threshold; split
  · omega
  · split <;> omega

/-- Divide `delta` by 35 until it is at most 455, counting 36 for each division. -/
def shrink (delta k : Nat) : Nat × Nat :=
  if 455 < delta then shrink (delta / 35) (k + 36) else (delta, k)
termination_by delta
decreasing_by exact Nat.div_lt_self (by omega) (by omega)

/-- The bias after a point is placed. -/
def adapt (delta numPoints : Nat) (firstTime : Bool) : Nat :=
  let d := if firstTime then delta / 700 else delta / 2
  let (d, k) := shrink (d + d / numPoints) 0
  k + 36 * d / (d + 38)

/-- The digits of `q` as a variable-length integer. -/
def encodeDelta (bias k q : Nat) : List Nat :=
  let t := threshold k bias
  if q < t then [digitPoint q]
  else digitPoint (t + (q - t) % (36 - t)) :: encodeDelta bias (k + 36) ((q - t) / (36 - t))
termination_by q
decreasing_by
  have h1 := threshold_pos k bias
  have h2 := threshold_le k bias
  calc (q - threshold k bias) / (36 - threshold k bias)
      ≤ q - threshold k bias := Nat.div_le_self _ _
    _ < q := by omega

/-- Where encoding stands: digits written (reversed), the running delta, the bias, and
the number of points placed. -/
structure EncodeState where
  out : List Nat
  delta : Nat
  bias : Nat
  placed : Nat

/-- One pass over the input for the point `m`: points below it count, and each
occurrence of it writes the delta. `basic` is the number of basic points. -/
def pass (basic m : Nat) (st : EncodeState) (c : Nat) : EncodeState :=
  if c < m then { st with delta := st.delta + 1 }
  else if c = m then
    { out := (encodeDelta st.bias 36 st.delta).reverse ++ st.out, delta := 0,
      bias := adapt st.delta (st.placed + 1) (st.placed == basic), placed := st.placed + 1 }
  else st

/-- The passes for the non-basic points in ascending order, `n` the last point done
plus one. -/
def passes (input : List Nat) (basic : Nat) : List Nat → Nat → EncodeState → EncodeState
  | [], _, st => st
  | m :: ms, n, st =>
    let st := { st with delta := st.delta + (m - n) * (st.placed + 1) }
    let st := input.foldl (pass basic m) st
    passes input basic ms (m + 1) { st with delta := st.delta + 1 }

/-- The distinct non-basic points of a label in ascending order. -/
def extendedPoints (input : List Nat) : List Nat :=
  ((input.filter (· ≥ 128)).mergeSort (· ≤ ·)).eraseDups

/-- The Punycode form of a label: its basic points, a hyphen if there were any, then the
encoded insertions. -/
def encode (input : List Nat) : List Nat :=
  let basic := input.filter (· < 128)
  let st := passes input basic.length (extendedPoints input) 128 ⟨[], 0, 72, basic.length⟩
  basic ++ (if basic.isEmpty then [] else [45]) ++ st.out.reverse

/-- Read one variable-length integer and add it to `i`; gives the new `i` and the rest
of the input. -/
def readDelta (bias : Nat) : List Nat → Nat → Nat → Nat → Option (Nat × List Nat)
  | [], _, _, _ => none
  | c :: rest, i, weight, k => do
    let d ← digitValue? c
    let product := d * weight
    if limit ≤ product then none else
    let i := i + product
    if limit ≤ i then none else
    let t := threshold k bias
    if d < t then some (i, rest)
    else
      let weight := weight * (36 - t)
      if limit ≤ weight then none else readDelta bias rest i weight (k + 36)

/-- Is a number a Unicode scalar value? -/
def isScalar (cp : Nat) : Bool :=
  cp < 0xD800 || (0xDFFF < cp && cp < 0x110000)

/-- Insert the encoded points into `out`; `fuel` bounds the integers still to read,
each of which takes at least one digit. -/
def decodeLoop : Nat → Nat → Nat → Nat → List Nat → List Nat → Option (List Nat)
  | _, _, _, _, out, [] => some out
  | 0, _, _, _, _, _ :: _ => none
  | fuel + 1, bias, n, i, out, input@(_ :: _) => do
    let (i', rest) ← readDelta bias input i 1 36
    let len := out.length + 1
    let bias := adapt (i' - i) len (i == 0)
    let n := n + i' / len
    if limit ≤ n ∨ !isScalar n then none else
    let pos := i' % len
    decodeLoop fuel bias n (pos + 1) (out.insertIdx pos n) rest

/-- The longest Punycode text that is decoded: a longer one fails, which bounds the
quadratic work of inserting points. -/
def maxDecodeInput : Nat := 2000

/-- The most points a label may have to be encoded; a longer label fails. -/
def maxEncodeInput : Nat := 1000

/-- The Punycode form of a label, if it is not too long to encode. -/
def encode? (input : List Nat) : Option (List Nat) :=
  if input.length > maxEncodeInput then none else some (encode input)

/-- The label that a Punycode text encodes, if the text is not too long. -/
def decode (input : List Nat) : Option (List Nat) :=
  if input.length > maxDecodeInput then none else
  let (basic, encoded) :=
    match input.reverse.idxOf? 45 with
    | some j =>
      let pos := input.length - 1 - j
      if pos = 0 then ([], input) else (input.take pos, input.drop (pos + 1))
    | none => ([], input)
  if basic.all (· < 128) then decodeLoop encoded.length 72 128 0 basic encoded else none

end HttpCall.Punycode
