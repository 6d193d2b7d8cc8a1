import HttpCall.Text.Utf8
import Mathlib

/-!
# UTF-8 reads back

Decoding the UTF-8 bytes of a text gives the text back. The decoder is a machine over
bytes; the bytes of one scalar value take it from between sequences back to between
sequences with that value added to its output, whatever came before and whatever comes
after (`decodeFrom_encodePoint`). The lead byte of each length selects a partial sequence
whose range for the next byte admits the encoder's continuation byte: after `E0` the
value is at least U+0800, after `ED` it is no surrogate, after `F0` at least U+10000 and
after `F4` at most U+10FFFF.
-/

namespace HttpCall.Utf8

/-! ## The decoder, one byte at a time -/

theorem decodeFrom_nil (acc : List Nat) : decodeFrom none acc [] = acc.reverse := rfl

theorem decodeFrom_none_cons (acc : List Nat) (b : UInt8) (rest : List UInt8) :
    decodeFrom none acc (b :: rest) =
      decodeFrom (lead b.toNat).2 ((lead b.toNat).1.toList ++ acc) rest := rfl

/-- The last byte a partial sequence owes finishes its code point. -/
theorem decodeFrom_some_last {p : Partial} (acc : List Nat) {b : UInt8} (rest : List UInt8)
    (hb : p.lower ≤ b.toNat ∧ b.toNat ≤ p.upper) (ho : p.owed = 1) :
    decodeFrom (some p) acc (b :: rest) =
      decodeFrom none ((p.bits * 64 + b.toNat % 64) :: acc) rest := by
  simp [decodeFrom, hb, ho]

/-- An earlier byte adds six bits and leaves any continuation byte next. -/
theorem decodeFrom_some_more {p : Partial} (acc : List Nat) {b : UInt8} (rest : List UInt8)
    (hb : p.lower ≤ b.toNat ∧ b.toNat ≤ p.upper) (ho : p.owed ≠ 1) :
    decodeFrom (some p) acc (b :: rest) =
      decodeFrom (some ⟨p.bits * 64 + b.toNat % 64, p.owed - 1, 0x80, 0xBF⟩) acc rest := by
  simp [decodeFrom, hb, ho]

theorem lead_ascii {b : Nat} (h : b < 0x80) : lead b = (some b, none) := by
  simp [lead, h]

theorem lead_two {b : Nat} (h : 0xC2 ≤ b ∧ b ≤ 0xDF) :
    lead b = (none, some ⟨b % 32, 1, 0x80, 0xBF⟩) := by
  have h1 : ¬ b < 0x80 := by omega
  simp [lead, h1, h]

theorem lead_three {b : Nat} (h : 0xE0 ≤ b ∧ b ≤ 0xEF) :
    lead b = (none, some ⟨b % 16, 2, if b = 0xE0 then 0xA0 else 0x80,
      if b = 0xED then 0x9F else 0xBF⟩) := by
  have h1 : ¬ b < 0x80 := by omega
  have h2 : ¬ (0xC2 ≤ b ∧ b ≤ 0xDF) := by omega
  simp only [lead, h1, h2, h, if_false, and_self, if_true]

theorem lead_four {b : Nat} (h : 0xF0 ≤ b ∧ b ≤ 0xF4) :
    lead b = (none, some ⟨b % 8, 3, if b = 0xF0 then 0x90 else 0x80,
      if b = 0xF4 then 0x8F else 0xBF⟩) := by
  have h1 : ¬ b < 0x80 := by omega
  have h2 : ¬ (0xC2 ≤ b ∧ b ≤ 0xDF) := by omega
  have h3 : ¬ (0xE0 ≤ b ∧ b ≤ 0xEF) := by omega
  simp only [lead, h1, h2, h3, h, if_false, and_self, if_true]

/-- A continuation byte holds six bits of its code point. -/
theorem toNat_cont (n : Nat) : (0x80 + n % 64).toUInt8.toNat = 0x80 + n % 64 := by
  simp
  omega

/-- A continuation byte adds its six bits to a sequence that owes more than one byte. -/
theorem decodeFrom_cont_more {p : Partial} (acc : List Nat) (n : Nat) (rest : List UInt8)
    (hlower : p.lower ≤ 0x80 + n % 64) (hupper : 0x80 + n % 64 ≤ p.upper) (ho : p.owed ≠ 1) :
    decodeFrom (some p) acc ((0x80 + n % 64).toUInt8 :: rest) =
      decodeFrom (some ⟨p.bits * 64 + n % 64, p.owed - 1, 0x80, 0xBF⟩) acc rest := by
  rw [decodeFrom_some_more _ _ (by rw [toNat_cont]; exact ⟨hlower, hupper⟩) ho, toNat_cont]
  congr 3
  omega

/-- The last continuation byte of a sequence finishes its code point. -/
theorem decodeFrom_cont_last (bits : Nat) (acc : List Nat) (n : Nat) (rest : List UInt8) :
    decodeFrom (some ⟨bits, 1, 0x80, 0xBF⟩) acc ((0x80 + n % 64).toUInt8 :: rest) =
      decodeFrom none ((bits * 64 + n % 64) :: acc) rest := by
  rw [decodeFrom_some_last _ _ (by dsimp only; rw [toNat_cont]; omega) rfl, toNat_cont]
  congr 2
  dsimp only
  omega

/-! ## One code point, then a text -/

/-- The bytes of a scalar value decode to it, from between sequences back to between
sequences. -/
theorem decodeFrom_encodePoint {cp : Nat} (hcp : Nat.isValidChar cp) (acc : List Nat)
    (rest : List UInt8) :
    decodeFrom none acc (encodePoint cp ++ rest) = decodeFrom none (cp :: acc) rest := by
  unfold encodePoint
  split
  · next h1 =>
    have hb : cp.toUInt8.toNat = cp := by simp; omega
    rw [List.singleton_append, decodeFrom_none_cons, hb, lead_ascii h1]
    rfl
  split
  · next h1 h2 =>
    have hb : (0xC0 + cp / 64).toUInt8.toNat = 0xC0 + cp / 64 := by simp; omega
    simp only [List.cons_append, List.nil_append]
    rw [decodeFrom_none_cons, hb, lead_two (by omega), decodeFrom_cont_last]
    congr 2
    omega
  split
  · next h1 h2 h3 =>
    have hb : (0xE0 + cp / 4096).toUInt8.toNat = 0xE0 + cp / 4096 := by simp; omega
    simp only [List.cons_append, List.nil_append]
    rw [decodeFrom_none_cons, hb, lead_three (by omega)]
    -- the second byte is in the narrowed range: no overlong form after E0, no surrogate after ED
    rw [decodeFrom_cont_more _ _ _ (by dsimp only; split <;> omega) (by dsimp only; split <;> omega)
      (by dsimp only; omega)]
    dsimp only
    rw [decodeFrom_cont_last]
    congr 2
    omega
  · next h1 h2 h3 =>
    have hb : (0xF0 + cp / 262144).toUInt8.toNat = 0xF0 + cp / 262144 := by simp; omega
    simp only [List.cons_append, List.nil_append]
    rw [decodeFrom_none_cons, hb, lead_four (by omega)]
    -- the second byte is in the narrowed range: at least U+10000 after F0, at most U+10FFFF after F4
    rw [decodeFrom_cont_more _ _ _ (by dsimp only; split <;> omega) (by dsimp only; split <;> omega)
      (by dsimp only; omega)]
    dsimp only
    rw [decodeFrom_cont_more _ _ _ (by dsimp only; omega) (by dsimp only; omega)
      (by dsimp only; omega)]
    dsimp only
    rw [decodeFrom_cont_last]
    congr 2
    omega

/-- The bytes of the code points of characters decode to them, in order. -/
theorem decodeFrom_encode_chars (cs : List Char) (acc : List Nat) (rest : List UInt8) :
    decodeFrom none acc (cs.flatMap (encodePoint ·.toNat) ++ rest) =
      decodeFrom none ((cs.map Char.toNat).reverse ++ acc) rest := by
  induction cs generalizing acc with
  | nil => rfl
  | cons c cs ih =>
    have hc : Nat.isValidChar c.toNat := c.valid
    rw [List.flatMap_cons, List.append_assoc, decodeFrom_encodePoint hc, ih]
    simp

theorem decodePoints_encode (s : String) : decodePoints (encode s) = s.toList.map Char.toNat := by
  have h := decodeFrom_encode_chars s.toList [] []
  rw [List.append_nil, List.append_nil, decodeFrom_nil, List.reverse_reverse] at h
  exact h

/-- **UTF-8 reads back.** Decoding the UTF-8 bytes of any text gives the text. -/
theorem decode_encode (s : String) : decode (encode s) = s := by
  rw [decode, decodePoints_encode, ofPoints, List.map_map]
  have hid : (Char.ofNat ∘ Char.toNat) = id := funext Char.ofNat_toNat
  rw [hid, List.map_id, String.ofList_toList]

/-! ## The bytes of texts -/

theorem encodePoints_map_toNat (s : String) :
    encodePoints (s.toList.map Char.toNat) = encode s := by
  rw [encodePoints, encode, List.flatMap_map]

theorem encode_append (s t : String) : encode (s ++ t) = encode s ++ encode t := by
  simp [encode, String.toList_append]

theorem encode_intercalate (sep : String) (xs : List String) :
    encode (sep.intercalate xs) = (encode sep).intercalate (xs.map encode) := by
  induction xs with
  | nil => rfl
  | cons x xs ih =>
    cases xs with
    | nil => simp
    | cons y ys =>
      rw [String.intercalate_cons_cons, encode_append, encode_append, ih]
      simp only [List.map_cons, List.intercalate_cons_cons]

/-- ASCII characters are written as their own code, one byte each. -/
theorem encode_ofList_ascii {cs : List Char} (h : ∀ c ∈ cs, c.toNat < 0x80) :
    encode (String.ofList cs) = cs.map (·.toNat.toUInt8) := by
  rw [encode, String.toList_ofList]
  induction cs with
  | nil => rfl
  | cons c cs ih =>
    have hc : c.toNat < 0x80 := h c List.mem_cons_self
    rw [List.flatMap_cons, ih (fun x hx => h x (List.mem_cons_of_mem _ hx)), encodePoint,
      if_pos hc]
    rfl

/-- A byte below `0x80` in the UTF-8 of a code point is the code point itself: the bytes of a
longer sequence are all from `0x80` up. -/
theorem eq_of_mem_encodePoint {cp : Nat} (hcp : Nat.isValidChar cp) {b : UInt8}
    (hb : b ∈ encodePoint cp) (hlt : b.toNat < 0x80) : b.toNat = cp := by
  simp only [Nat.isValidChar] at hcp
  unfold encodePoint at hb
  split_ifs at hb <;> simp only [List.mem_cons, List.not_mem_nil, or_false] at hb <;>
    rcases hb with rfl | rfl | rfl | rfl <;>
    simp only [Nat.toUInt8_eq, UInt8.toNat_ofNat'] at hlt ⊢ <;> omega

/-- A byte below `0x80` in the UTF-8 of a text is one of its characters. -/
theorem mem_of_mem_encode {s : String} {b : UInt8} (hb : b ∈ encode s) (hlt : b.toNat < 0x80) :
    ∃ c ∈ s.toList, c.toNat = b.toNat := by
  obtain ⟨c, hc, hbc⟩ := List.mem_flatMap.1 hb
  exact ⟨c, hc, (eq_of_mem_encodePoint c.valid hbc hlt).symm⟩

end HttpCall.Utf8
