/-!
# ASCII case

Header names, schemes, charset labels and media types compare their letters without
case, but only the 26 ASCII letters fold: `Ä` and `ä` stay two different names. This
module holds that folding and the comparisons built on it, over `Char` and `String`.

Main statements: folding is idempotent, and two texts are equal up to case exactly when
their folds are equal.
-/

namespace HttpCall.Ascii

/-- An ASCII capital moves 32 code points down to its small letter; every other
character stays. -/
def lower (c : Char) : Char :=
  if 65 ≤ c.toNat ∧ c.toNat ≤ 90 then Char.ofNat (c.toNat + 32) else c

/-- An ASCII small letter moves 32 code points up to its capital; every other
character stays. -/
def upper (c : Char) : Char :=
  if 97 ≤ c.toNat ∧ c.toNat ≤ 122 then Char.ofNat (c.toNat - 32) else c

/-- The text with every ASCII capital made small. -/
def lowerText (s : String) : String :=
  String.ofList (s.toList.map lower)

/-- The text with every ASCII small letter made capital. -/
def upperText (s : String) : String :=
  String.ofList (s.toList.map upper)

/-- Two texts are equal once ASCII letters are folded to one case. -/
def eqFold (a b : String) : Bool :=
  a.toList.map lower == b.toList.map lower

/-- An ASCII letter. -/
def isAlpha (c : Char) : Bool :=
  ('a' ≤ c && c ≤ 'z') || ('A' ≤ c && c ≤ 'Z')

/-- An ASCII decimal digit. -/
def isDigit (c : Char) : Bool :=
  '0' ≤ c && c ≤ '9'

/-- An ASCII letter or digit. -/
def isAlnum (c : Char) : Bool :=
  isAlpha c || isDigit c

/-- An ASCII hexadecimal digit, of either case. -/
def isHexDigit (c : Char) : Bool :=
  isDigit c || ('a' ≤ c && c ≤ 'f') || ('A' ≤ c && c ≤ 'F')

/-- The value of a hexadecimal digit. -/
def hexValue? (c : Char) : Option Nat :=
  if isDigit c then some (c.toNat - '0'.toNat)
  else if 'a' ≤ c ∧ c ≤ 'f' then some (c.toNat - 'a'.toNat + 10)
  else if 'A' ≤ c ∧ c ≤ 'F' then some (c.toNat - 'A'.toNat + 10)
  else none

/-- The capital hexadecimal digit of a value below 16. -/
def hexDigitUpper (n : Nat) : Char :=
  if n < 10 then Char.ofNat ('0'.toNat + n) else Char.ofNat ('A'.toNat + n - 10)

/-- The small hexadecimal digit of a value below 16. -/
def hexDigitLower (n : Nat) : Char :=
  if n < 10 then Char.ofNat ('0'.toNat + n) else Char.ofNat ('a'.toNat + n - 10)

/-- A code point below 128 is its own character. -/
theorem toNat_ofNat_of_lt {n : Nat} (h : n < 128) : (Char.ofNat n).toNat = n := by
  have hv : n.isValidChar := by unfold Nat.isValidChar; omega
  rw [Char.ofNat, dif_pos hv]
  rfl

theorem lower_lower (c : Char) : lower (lower c) = lower c := by
  unfold lower
  by_cases h : 65 ≤ c.toNat ∧ c.toNat ≤ 90
  · rw [if_pos h, toNat_ofNat_of_lt (by omega), if_neg (by omega)]
  · rw [if_neg h, if_neg h]

theorem eqFold_iff (a b : String) :
    eqFold a b = true ↔ a.toList.map lower = b.toList.map lower := by
  simp [eqFold]

@[simp] theorem eqFold_self (a : String) : eqFold a a = true :=
  (eqFold_iff a a).2 rfl

end HttpCall.Ascii
