/-!
# UTF-8

Encoding a code point as one to four bytes, and decoding bytes with replacement: every
maximal run of bytes that cannot begin or continue a well-formed sequence becomes one
U+FFFD, as the Encoding Standard's decoder does. The decoder keeps, between bytes, the
partial code point, the number of continuation bytes still owed, and the range the next
byte must fall in (narrower after `E0`, `ED`, `F0` and `F4`, which rules out overlong
forms, surrogates and points above U+10FFFF). A byte outside that range ends the partial
sequence with one U+FFFD and is then read afresh.
-/

namespace HttpCall.Utf8

/-- The replacement character. -/
def replacement : Nat := 0xFFFD

/-- The bytes of a code point. -/
def encodePoint (cp : Nat) : List UInt8 :=
  if cp < 0x80 then [cp.toUInt8]
  else if cp < 0x800 then [(0xC0 + cp / 64).toUInt8, (0x80 + cp % 64).toUInt8]
  else if cp < 0x10000 then
    [(0xE0 + cp / 4096).toUInt8, (0x80 + cp / 64 % 64).toUInt8, (0x80 + cp % 64).toUInt8]
  else
    [(0xF0 + cp / 262144).toUInt8, (0x80 + cp / 4096 % 64).toUInt8,
      (0x80 + cp / 64 % 64).toUInt8, (0x80 + cp % 64).toUInt8]

/-- The bytes of a list of code points. -/
def encodePoints (cps : List Nat) : List UInt8 :=
  cps.flatMap encodePoint

/-- The bytes of a text. -/
def encode (s : String) : List UInt8 :=
  s.toList.flatMap (encodePoint ·.toNat)

/-- A sequence begun and not yet finished: its bits so far, the continuation bytes still
owed, and the least and greatest value of the next byte. -/
structure Partial where
  bits : Nat
  owed : Nat
  lower : Nat
  upper : Nat

/-- Reading a byte between sequences: a point of its own, the start of a sequence, or a
byte that can start nothing. -/
def lead (b : Nat) : Option Nat × Option Partial :=
  if b < 0x80 then (some b, none)
  else if 0xC2 ≤ b ∧ b ≤ 0xDF then (none, some ⟨b % 32, 1, 0x80, 0xBF⟩)
  else if 0xE0 ≤ b ∧ b ≤ 0xEF then
    (none, some ⟨b % 16, 2, if b = 0xE0 then 0xA0 else 0x80, if b = 0xED then 0x9F else 0xBF⟩)
  else if 0xF0 ≤ b ∧ b ≤ 0xF4 then
    (none, some ⟨b % 8, 3, if b = 0xF0 then 0x90 else 0x80, if b = 0xF4 then 0x8F else 0xBF⟩)
  else (some replacement, none)

/-- Decoding with `acc` the points so far, reversed. -/
def decodeFrom (pending : Option Partial) (acc : List Nat) : List UInt8 → List Nat
  | [] => (match pending with | some _ => replacement :: acc | none => acc).reverse
  | byte :: rest =>
    let b := byte.toNat
    let fresh (acc : List Nat) :=
      match lead b with
      | (out, next) => (next, out.toList ++ acc)
    match pending with
    | none =>
      let (next, acc) := fresh acc
      decodeFrom next acc rest
    | some p =>
      if p.lower ≤ b ∧ b ≤ p.upper then
        let bits := p.bits * 64 + b % 64
        if p.owed = 1 then decodeFrom none (bits :: acc) rest
        else decodeFrom (some ⟨bits, p.owed - 1, 0x80, 0xBF⟩) acc rest
      else
        let (next, acc) := fresh (replacement :: acc)
        decodeFrom next acc rest

/-- The code points of a byte string, each ill-formed run replaced by U+FFFD. -/
def decodePoints (bytes : List UInt8) : List Nat :=
  decodeFrom none [] bytes

/-- A text from code points; each is a scalar value by construction of the decoder. -/
def ofPoints (cps : List Nat) : String :=
  String.ofList (cps.map Char.ofNat)

/-- The text of a byte string, each ill-formed run replaced by U+FFFD. -/
def decode (bytes : List UInt8) : String :=
  ofPoints (decodePoints bytes)

end HttpCall.Utf8
