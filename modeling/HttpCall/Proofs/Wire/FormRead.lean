import HttpCall.Body.Form
import HttpCall.Proofs.Text.Utf8
import Mathlib

/-!
# Reading a form back

A reader of `application/x-www-form-urlencoded` splits the body at every `&`, skips the
empty pieces, splits each piece at its first `=`, reads `+` as a blank and replaces each
escape by its byte. The fields of every form read back this way as the bytes of their
names and values in the form's charset.

The text a form writes for a byte is the byte itself when it is kept, `+` for a blank, and
an escape with capital hexadecimal digits otherwise; each reads back as the byte
(`decodeBytes_serializedBytes`). None of them holds an `&` or an `=`, so the split finds
the fields again.
-/

namespace HttpCall.FormBody

/-! ## The reader -/

/-- A byte of a form's text as a reader takes it: `+` stands for a blank. -/
def plusAsBlank (b : UInt8) : UInt8 := if b = 43 then 32 else b

/-- The bytes a piece of a form's text stands for. -/
def readBytes (piece : List UInt8) : List UInt8 :=
  Percent.decodeBytes (piece.map plusAsBlank)

/-- A field of a form's text: the bytes before its first `=`, and those after it. -/
def readField (piece : List UInt8) : List UInt8 × List UInt8 :=
  (readBytes (piece.takeWhile (· != 61)), readBytes ((piece.dropWhile (· != 61)).drop 1))

/-- The fields of a form's text: its pieces between `&`s, empty ones skipped. -/
def read (data : List UInt8) : List (List UInt8 × List UInt8) :=
  ((data.splitOn 38).filter (!·.isEmpty)).map readField

/-- A byte other than `%` stands for itself. -/
theorem decodeBytes_cons_of_ne {b : UInt8} (h : b.toNat ≠ 37) (rest : List UInt8) :
    Percent.decodeBytes (b :: rest) = b :: Percent.decodeBytes rest := by
  match rest with
  | [] => simp [Percent.decodeBytes]
  | [_] => simp [Percent.decodeBytes]
  | _ :: _ :: _ => rw [Percent.decodeBytes, if_neg h]

/-! ## The text of one byte -/

/-- The characters a form writes for a byte. -/
def serializedByte (byte : UInt8) : List Char :=
  if keepsByte byte.toNat then [Char.ofNat byte.toNat]
  else if byte.toNat = 32 then ['+']
  else Percent.escape byte.toNat

theorem serializeBytes_eq (bytes : List UInt8) :
    serializeBytes bytes = String.ofList (bytes.flatMap serializedByte) := rfl

theorem hexDigit_toNat {n : Nat} (h : n < 16) :
    (Percent.hexDigit n).toNat = if n < 10 then 48 + n else 55 + n := by
  unfold Percent.hexDigit
  split <;> simp [Char.toNat_ofNat, Nat.isValidChar] <;> omega

theorem hexValue?_hexDigit {n : Nat} (h : n < 16) :
    Percent.hexValue? (Percent.hexDigit n).toNat = some n := by
  rw [hexDigit_toNat h, Percent.hexValue?]
  by_cases hn : n < 10
  · rw [if_pos hn, if_pos (by omega)]
    simp
  · rw [if_neg hn, if_neg (by omega), if_neg (by omega), if_pos (by omega)]
    congr 1
    omega

theorem keepsByte_bounds {b : Nat} (h : keepsByte b = true) :
    b < 0x80 ∧ b ≠ 32 ∧ b ≠ 37 ∧ b ≠ 38 ∧ b ≠ 43 ∧ b ≠ 61 := by
  simp only [keepsByte, Bool.or_eq_true, Bool.and_eq_true, decide_eq_true_eq, beq_iff_eq] at h
  omega

/-- What a form writes for a byte is ASCII, with no `&` and no `=`. -/
theorem serializedByte_bounds (byte : UInt8) :
    ∀ c ∈ serializedByte byte, c.toNat < 0x80 ∧ c.toNat ≠ 38 ∧ c.toNat ≠ 61 := by
  have hlt : byte.toNat < 256 := byte.toNat_lt
  intro c hc
  unfold serializedByte at hc
  split at hc
  · next hkeep =>
    obtain ⟨h1, -, -, h4, -, h6⟩ := keepsByte_bounds hkeep
    rw [List.mem_singleton] at hc
    subst hc
    simp only [Char.toNat_ofNat, Nat.isValidChar]
    split <;> omega
  split at hc
  · rw [List.mem_singleton] at hc
    subst hc
    decide
  · simp only [Percent.escape, List.mem_cons, List.not_mem_nil, or_false] at hc
    rcases hc with rfl | rfl | rfl
    · decide
    all_goals
      rw [hexDigit_toNat (by omega)]
      split <;> omega

/-- The text of a byte, read back, is the byte. -/
theorem decodeBytes_serializedByte (byte : UInt8) (rest : List UInt8) :
    Percent.decodeBytes
        ((serializedByte byte).map (fun c => plusAsBlank c.toNat.toUInt8) ++ rest) =
      byte :: Percent.decodeBytes rest := by
  have hlt : byte.toNat < 256 := byte.toNat_lt
  unfold serializedByte
  split
  · -- a kept byte stands for itself: it is neither `+` nor `%`
    next hkeep =>
    obtain ⟨h1, -, h3, -, h5, -⟩ := keepsByte_bounds hkeep
    have hb : (Char.ofNat byte.toNat).toNat.toUInt8 = byte := by
      rw [Char.toNat_ofNat, if_pos (by simp only [Nat.isValidChar]; omega)]
      exact UInt8.ofNat_toNat
    have hplus : plusAsBlank byte = byte := if_neg (fun h => h5 (by simp [h]))
    rw [List.map_singleton, List.singleton_append, hb, hplus, decodeBytes_cons_of_ne h3]
  split
  · -- a blank is written as `+`
    next _ hsp =>
    have hb : byte = 32 := UInt8.toNat_inj.1 hsp
    have hplus : ['+'].map (fun c => plusAsBlank c.toNat.toUInt8) = [32] := by decide
    rw [hb, hplus, List.singleton_append, decodeBytes_cons_of_ne (by decide)]
  · -- any other byte is escaped, and its two digits are neither `+` nor `%`
    have hhi : byte.toNat / 16 < 16 := by omega
    have hlo : byte.toNat % 16 < 16 := by omega
    have hdigit : ∀ n, n < 16 → plusAsBlank (Percent.hexDigit n).toNat.toUInt8 =
        (Percent.hexDigit n).toNat.toUInt8 := by
      intro n hn
      apply if_neg
      intro h
      have h' := congrArg UInt8.toNat h
      rw [UInt8.toNat_ofNat, hexDigit_toNat hn] at h'
      split at h' <;> simp at h' <;> omega
    have hsmall : ∀ n, n < 16 → (Percent.hexDigit n).toNat.toUInt8.toNat =
        (Percent.hexDigit n).toNat := by
      intro n hn
      simp only [Nat.toUInt8_eq, UInt8.toNat_ofNat', hexDigit_toNat hn]
      split <;> omega
    have hpct : plusAsBlank '%'.toNat.toUInt8 = 37 := by decide
    simp only [Percent.escape, List.map_cons, List.map_nil, List.cons_append, List.nil_append,
      hdigit _ hhi, hdigit _ hlo, hpct]
    rw [Percent.decodeBytes, if_pos (show UInt8.toNat 37 = 37 from rfl), hsmall _ hhi, hsmall _ hlo, hexValue?_hexDigit hhi,
      hexValue?_hexDigit hlo]
    simp only [List.cons.injEq, and_true]
    rw [show byte.toNat / 16 * 16 + byte.toNat % 16 = byte.toNat by omega]
    exact UInt8.ofNat_toNat

/-! ## The text of bytes -/

theorem decodeBytes_serializedBytes (bytes rest : List UInt8) :
    Percent.decodeBytes
        ((bytes.flatMap serializedByte).map (fun c => plusAsBlank c.toNat.toUInt8) ++ rest) =
      bytes ++ Percent.decodeBytes rest := by
  induction bytes with
  | nil => rfl
  | cons b bs ih =>
    rw [List.flatMap_cons, List.map_append, List.append_assoc, decodeBytes_serializedByte, ih,
      List.cons_append]

/-- The bytes of the text a form writes for bytes: one ASCII character each. -/
theorem encode_serializeBytes (bytes : List UInt8) :
    Utf8.encode (serializeBytes bytes) = (bytes.flatMap serializedByte).map (·.toNat.toUInt8) := by
  rw [serializeBytes_eq, Utf8.encode_ofList_ascii]
  intro c hc
  obtain ⟨b, -, hb⟩ := List.mem_flatMap.1 hc
  exact (serializedByte_bounds b c hb).1

/-- **The text of bytes reads back as the bytes.** -/
theorem readBytes_serializeBytes (bytes : List UInt8) :
    readBytes (Utf8.encode (serializeBytes bytes)) = bytes := by
  have h := decodeBytes_serializedBytes bytes []
  rw [List.append_nil, show Percent.decodeBytes [] = [] by simp [Percent.decodeBytes],
    List.append_nil] at h
  rw [readBytes, encode_serializeBytes, List.map_map]
  exact h

/-- The text of bytes holds no `&` and no `=`. -/
theorem separator_not_mem_serializeBytes {x : UInt8} (hx : x.toNat = 38 ∨ x.toNat = 61)
    (bytes : List UInt8) : x ∉ Utf8.encode (serializeBytes bytes) := by
  rw [encode_serializeBytes]
  intro hmem
  obtain ⟨c, hc, rfl⟩ := List.mem_map.1 hmem
  obtain ⟨b, -, hb⟩ := List.mem_flatMap.1 hc
  obtain ⟨hlt, h38, h61⟩ := serializedByte_bounds b c hb
  have hsmall : c.toNat.toUInt8.toNat = c.toNat := by
    simp only [Nat.toUInt8_eq, UInt8.toNat_ofNat']
    omega
  omega

/-! ## The fields of a form -/

/-- A piece with an `=` splits at the first one. -/
theorem readField_append {a : List UInt8} (ha : 61 ∉ a) (b : List UInt8) :
    readField (a ++ 61 :: b) = (readBytes a, readBytes b) := by
  have hpos : ∀ x ∈ a, (x != 61) = true := by
    intro x hx
    simpa using ne_of_mem_of_not_mem hx ha
  simp [readField, List.takeWhile_append_of_pos hpos, List.dropWhile_append_of_pos hpos]

/-- The bytes a form writes for one field in the charset `cs`: the text of its name, `=`,
and the text of its value. -/
def fieldText (cs : Charset) (p : String × String) : List UInt8 :=
  Utf8.encode (serializeBytes (cs.encode p.1)) ++ 61 :: Utf8.encode (serializeBytes (cs.encode p.2))

/-- A field's text holds no `&`. -/
theorem amp_not_mem_fieldText (cs : Charset) (p : String × String) : 38 ∉ fieldText cs p := by
  rw [fieldText, List.mem_append, List.mem_cons, not_or, not_or]
  exact ⟨separator_not_mem_serializeBytes (by decide) _, by decide,
    separator_not_mem_serializeBytes (by decide) _⟩

/-- A field's text, split at its first `=` and read, gives the bytes of its name and value. -/
theorem readField_fieldText (cs : Charset) (p : String × String) :
    readField (fieldText cs p) = (cs.encode p.1, cs.encode p.2) := by
  rw [fieldText, readField_append (separator_not_mem_serializeBytes (by decide) _),
    readBytes_serializeBytes, readBytes_serializeBytes]

/-- The bytes of a form's text: its fields' texts joined by `&`. -/
theorem encode_encode (f : FormBody) :
    Utf8.encode f.encode = [38].intercalate (f.items.map (fieldText f.charset)) := by
  rw [encode, Utf8.encode_intercalate, List.map_map]
  congr 1
  apply List.map_congr_left
  intro p _
  have heq : Utf8.encode "=" = [61] := by decide
  simp only [Function.comp, Utf8.encode_append, heq, List.append_assoc, List.singleton_append,
    fieldText]

/-- Cut at every `&`, the text of a form with fields gives exactly its fields' texts: the
separators stand only between fields, since no field's text holds one. -/
theorem splitOn_encode {f : FormBody} (h : f.items ≠ []) :
    (Utf8.encode f.encode).splitOn 38 = f.items.map (fieldText f.charset) := by
  rw [encode_encode, List.splitOn_intercalate 38 ?_ (by simpa using h)]
  intro l hl
  obtain ⟨p, -, rfl⟩ := List.mem_map.1 hl
  exact amp_not_mem_fieldText _ p

/-- **A form reads back.** Reading a form's text gives, field by field and in order, the
bytes of each name and value in the form's charset. -/
theorem read_encode (f : FormBody) :
    read (Utf8.encode f.encode) =
      f.items.map fun p => (f.charset.encode p.1, f.charset.encode p.2) := by
  by_cases h : f.items = []
  · obtain ⟨items, cs⟩ := f
    subst h
    rfl
  · rw [read, splitOn_encode h, List.filter_eq_self.2 ?_, List.map_map]
    · exact List.map_congr_left fun p _ => readField_fieldText f.charset p
    · -- every field's text holds an `=`, so no piece is skipped
      intro l hl
      obtain ⟨p, -, rfl⟩ := List.mem_map.1 hl
      simp [fieldText]

/-! ## Pieces of a form's text -/

/-- The fields of a form's text as a reader of the format returns them: the fields `read`
finds, each name and value decoded as UTF-8 with every ill-formed run replaced. -/
def parse (data : List UInt8) : List (String × String) :=
  (read data).map fun p => (Utf8.decode p.1, Utf8.decode p.2)

/-- UTF-8 writes a text as `Utf8.encode` does. -/
theorem utf8_encode (t : String) : Charset.utf8.encode t = Utf8.encode t :=
  Utf8.encodePoints_map_toNat t

/-- **A form's text splits back into its fields.** The empty form writes the empty text. The
text of a form with fields, cut at every `&`, gives exactly one piece for each field; cut at
its first `=` and read with `+` as a blank and escapes replaced, piece `i` gives the bytes of
field `i`'s name and value in the form's charset, empty names and values included. So a UTF-8
form's text, parsed as the format says, gives its fields back in order. -/
theorem encode_splits_into_fields (f : FormBody) :
    (f.items = [] → f.encode = "") ∧
      (f.items ≠ [] →
        ((Utf8.encode f.encode).splitOn 38).length = f.items.length ∧
          ((Utf8.encode f.encode).splitOn 38).map readField =
            f.items.map fun p => (f.charset.encode p.1, f.charset.encode p.2)) ∧
      (f.charset = .utf8 → parse (Utf8.encode f.encode) = f.items) := by
  refine ⟨fun h => ?_, fun h => ?_, fun h => ?_⟩
  · obtain ⟨items, cs⟩ := f
    subst h
    exact encode_nil cs
  · rw [splitOn_encode h, List.length_map, List.map_map]
    exact ⟨rfl, List.map_congr_left fun p _ => readField_fieldText f.charset p⟩
  · rw [parse, read_encode, h, List.map_map]
    conv => rhs; rw [← List.map_id f.items]
    exact List.map_congr_left fun p _ => by
      simp only [Function.comp, utf8_encode, Utf8.decode_encode, id]

/-- A UTF-8 form whose name holds `&` and `=` and whose second field is empty. -/
theorem ampersand_and_empty_fields_split_back :
    let f : FormBody := ⟨[("a&b=c", "d e+%"), ("", "")], .utf8⟩
    (f.items ≠ [] ∧ f.charset = .utf8) ∧
      ((Utf8.encode f.encode).splitOn 38).length = 2 ∧
      ((Utf8.encode f.encode).splitOn 38).map readField =
        [(Charset.utf8.encode "a&b=c", Charset.utf8.encode "d e+%"),
          (Charset.utf8.encode "", Charset.utf8.encode "")] ∧
      parse (Utf8.encode f.encode) = f.items := by
  intro f
  have hne : f.items ≠ [] := by simp [f]
  have h := encode_splits_into_fields f
  exact ⟨⟨hne, rfl⟩, (h.2.1 hne).1, (h.2.1 hne).2, h.2.2 rfl⟩

end HttpCall.FormBody
