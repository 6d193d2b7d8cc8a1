import HttpCall.Text.Utf8

/-!
# Percent-encoding

A URL writes a byte outside a component's allowed set as `%` and two capital hexadecimal
digits. Text is first turned into its UTF-8 bytes, so every non-ASCII character is
encoded. The sets nest: the controls (C0, DEL and every non-ASCII byte); the fragment
set adds the space, `"`, `<`, `>` and the backquote; the query set adds to the controls
the space, `"`, `#`, `<` and `>`, and special URLs also encode `'` in queries; the path set
adds `#`, `?` and the curly brackets to the fragment set; the userinfo set adds
`/ : ; = @ [ \ ] ^ |` to the path set.

Decoding turns `%` and two hexadecimal digits into their byte and keeps every other
character's bytes, a `%` without two digits included.
-/

namespace HttpCall

/-- The sets of bytes that URL components percent-encode. -/
inductive EncodeSet where
  | controls
  | fragment
  | query
  | specialQuery
  | path
  | userinfo
  deriving DecidableEq, Repr, Inhabited

namespace EncodeSet

/-- The bytes encoded everywhere: C0 controls, DEL and every non-ASCII byte. -/
def isControl (b : Nat) : Bool := b < 0x20 || 0x7F ≤ b

/-- The bytes encoded in a fragment. -/
def inFragment (b : Nat) : Bool := isControl b || [32, 34, 60, 62, 96].contains b

/-- The bytes encoded in a query. -/
def inQuery (b : Nat) : Bool := isControl b || [32, 34, 35, 60, 62].contains b

/-- The bytes encoded in a path segment. -/
def inPath (b : Nat) : Bool := inFragment b || [35, 63, 123, 125].contains b

/-- Does the set encode the byte? -/
def contains : EncodeSet → Nat → Bool
  | controls, b => isControl b
  | fragment, b => inFragment b
  | query, b => inQuery b
  | specialQuery, b => inQuery b || b == 39
  | path, b => inPath b
  | userinfo, b => inPath b || [47, 58, 59, 61, 64, 91, 92, 93, 94, 124].contains b

end EncodeSet

namespace Percent

/-- A capital hexadecimal digit. -/
def hexDigit (n : Nat) : Char :=
  if n < 10 then Char.ofNat (48 + n) else Char.ofNat (55 + n)

/-- The escape of a byte. -/
def escape (b : Nat) : List Char :=
  ['%', hexDigit (b / 16), hexDigit (b % 16)]

/-- Bytes written with the bytes of a set escaped. -/
def encodeBytes (set : EncodeSet) (bytes : List UInt8) : String :=
  String.ofList (bytes.flatMap fun byte =>
    let b := byte.toNat
    if set.contains b then escape b else [Char.ofNat b])

/-- Text written with the UTF-8 bytes of a set escaped. -/
def encode (set : EncodeSet) (s : String) : String :=
  encodeBytes set (Utf8.encode s)

/-- The value of a hexadecimal digit. -/
def hexValue? (c : Nat) : Option Nat :=
  if 48 ≤ c ∧ c ≤ 57 then some (c - 48)
  else if 97 ≤ c ∧ c ≤ 102 then some (c - 87)
  else if 65 ≤ c ∧ c ≤ 70 then some (c - 55)
  else none

/-- Bytes with each escape replaced by its byte. -/
def decodeBytes : List UInt8 → List UInt8
  | [] => []
  | b :: rest@(h :: l :: more) =>
    if b.toNat = 37 then
      match hexValue? h.toNat, hexValue? l.toNat with
      | some hi, some lo => (hi * 16 + lo).toUInt8 :: decodeBytes more
      | _, _ => b :: decodeBytes rest
    else b :: decodeBytes rest
  | b :: rest => b :: decodeBytes rest

/-- The bytes of a text with each escape replaced by its byte. -/
def decode (s : String) : List UInt8 :=
  decodeBytes (Utf8.encode s)

end Percent

end HttpCall
