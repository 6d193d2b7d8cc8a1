import HttpCall.Proofs.Wire.NamedCharset
import HttpCall.Proofs.Charset.Lookup
import Mathlib

/-!
# What a name writes between its quotes

A part's head writes its name and file name between double quotes, in the body's charset,
with `"`, carriage return and line feed written first as `%22`, `%0D` and `%0A`. The escapes
are made on the text, before it is encoded, so what keeps the quoted parameter and the header
line whole is the encoder: for every other character it must write no quote, carriage return
or line feed.

Every writer without state keeps ASCII as it is and writes any other character with bytes
from `0x30` up (`Encoders.Clears`): UTF-8 with bytes from `0x80`, a single-byte encoding with
one byte from `0x80`, and the multi-byte encodings with a lead byte from `0x81` and a trail
byte from `0x40`, or from `0x30` for the digits of a four-byte gb18030 code. A character
that a writer cannot write becomes the reference `&#N;`, which is ASCII punctuation and
digits. The bytes stay within a byte's range because the pointers read back from the
indexes lie within the indexes (`Charset.indexesInRange`).

ISO-2022-JP differs. It writes a JIS X 0208 character as two bytes from `0x21` to `0x7E`
between escape sequences, and that range takes in the quote `0x22`: the ideographic comma
U+3001, pointer 1, is written `21 22`, so a name holding it ends its quoted parameter early
(`iso2022Jp_ideographic_comma_ends_quotes`). Its bytes still hold no carriage return or line
feed.

Main statement: `headerParam_keeps_line_and_quotes_but_iso2022Jp`.
-/

namespace HttpCall

/-! ## Bytes and code points inside the quotes -/

/-- A byte that ends no header line: no carriage return or line feed. -/
def KeepsLine (b : UInt8) : Prop := b.toNat ≠ 13 ∧ b.toNat ≠ 10

/-- A byte that may stand between the quotes of a parameter: it ends no line and is no
quote. -/
def KeepsQuotes (b : UInt8) : Prop := b.toNat ≠ 34 ∧ KeepsLine b

theorem KeepsQuotes.keepsLine {b : UInt8} (h : KeepsQuotes b) : KeepsLine b := h.2

/-- A code point that escaping leaves in a name: a scalar value that is no quote, carriage
return or line feed. -/
def ParamPoint (cp : Nat) : Prop := cp < 0x110000 ∧ cp ≠ 34 ∧ cp ≠ 13 ∧ cp ≠ 10

/-- A byte written for a number below 256 is that number. -/
theorem toNat_toUInt8 {n : Nat} (h : n < 0x100) : n.toUInt8.toNat = n := by
  simp
  omega

/-- A byte at or above `0x30` is no quote and ends no line. -/
theorem keepsQuotes_of_le {b : UInt8} (h : 0x30 ≤ b.toNat) : KeepsQuotes b := by
  unfold KeepsQuotes KeepsLine
  omega

/-- A byte written for a number from `0x30` to `0xFF` stays between the quotes. -/
theorem keepsQuotes_toUInt8 {n : Nat} (h1 : 0x30 ≤ n) (h2 : n < 0x100) : KeepsQuotes n.toUInt8 :=
  keepsQuotes_of_le (by rw [toNat_toUInt8 h2]; exact h1)

/-- A byte at or above `0x21` ends no line. -/
theorem keepsLine_of_le {b : UInt8} (h : 0x21 ≤ b.toNat) : KeepsLine b := by
  unfold KeepsLine
  omega

/-- The byte of an ASCII code point left by escaping stays between the quotes. -/
theorem keepsQuotes_ascii {cp : Nat} (h : ParamPoint cp) (hlt : cp < 0x80) :
    KeepsQuotes cp.toUInt8 := by
  unfold KeepsQuotes KeepsLine
  rw [toNat_toUInt8 (by omega)]
  exact h.2

namespace Encoders

/-! ## Writers without state -/

/-- How a writer without state may write a code point inside quotes: an ASCII code point as
itself, any other with bytes from `0x30` to `0xFF`. -/
def KeepsClear (cp : Nat) (out : List Nat) : Prop :=
  (cp < 0x80 ∧ out = [cp]) ∨ ∀ b ∈ out, 0x30 ≤ b ∧ b < 0x100

/-- A writer keeps clear on every scalar value it writes. -/
def Clears (f : Nat → Option (List Nat)) : Prop :=
  ∀ cp out, cp < 0x110000 → f cp = some out → KeepsClear cp out

theorem keepsClear_self {cp : Nat} (h : cp < 0x80) : KeepsClear cp [cp] := .inl ⟨h, rfl⟩

/-- Two numbers from `0x30` to `0xFF` are bytes in range. -/
theorem mem_pair_inRange {x y : Nat} (hx : 0x30 ≤ x ∧ x < 0x100)
    (hy : 0x30 ≤ y ∧ y < 0x100) :
    ∀ b ∈ [x, y], 0x30 ≤ b ∧ b < 0x100 := by
  intro b hb
  simp only [List.mem_cons, List.not_mem_nil, or_false] at hb
  rcases hb with rfl | rfl
  · exact hx
  · exact hy

/-- A code point written through an index read backwards keeps clear when every pointer
within the index gives bytes in range. -/
theorem keepsClear_of_find? {back : Array (Nat × Nat)} {n k cp : Nat} {g : Nat → List Nat}
    {out : List Nat} (hb : CharsetIndex.PointersBelow back n)
    (hg : ∀ p < n, ∀ b ∈ g p, 0x30 ≤ b ∧ b < 0x100)
    (h : (Keyed.find? back k).map g = some out) : KeepsClear cp out := by
  obtain ⟨p, hp, rfl⟩ := Option.map_eq_some_iff.1 h
  exact .inr (hg p (hb.find? hp))

/-- The bytes of a decimal character reference are ASCII from `#` to `;`. -/
theorem mem_reference {cp : Nat} {b : UInt8} (h : b ∈ reference cp) :
    35 ≤ b.toNat ∧ b.toNat ≤ 59 := by
  unfold reference at h
  rw [String.toList_append, String.toList_append, Nat.toString_eq_repr, Nat.toList_repr] at h
  simp only [List.map_append, List.mem_append, List.mem_map] at h
  rcases h with (⟨c, hc, rfl⟩ | ⟨c, hc, rfl⟩) | ⟨c, hc, rfl⟩
  · have hs : "&#".toList = ['&', '#'] := rfl
    rw [hs] at hc
    simp only [List.mem_cons, List.not_mem_nil, or_false] at hc
    rcases hc with rfl | rfl <;> decide
  · -- a digit of the code point
    have hd : (c.val ≥ '0'.val && c.val ≤ '9'.val) = true :=
      Nat.isDigit_of_mem_toDigits (by decide) (by decide) hc
    simp only [Bool.and_eq_true, decide_eq_true_eq, ge_iff_le, UInt32.le_iff_toNat_le] at hd
    have hn : c.toNat = c.val.toNat := rfl
    have h0 : '0'.val.toNat = 48 := rfl
    have h9 : '9'.val.toNat = 57 := rfl
    rw [toNat_toUInt8 (by omega)]
    omega
  · have hs : ";".toList = [';'] := rfl
    rw [hs] at hc
    simp only [List.mem_cons, List.not_mem_nil, or_false] at hc
    subst hc
    decide

theorem keepsQuotes_of_mem_reference {cp : Nat} {b : UInt8} (h : b ∈ reference cp) :
    KeepsQuotes b := by
  have := mem_reference h
  unfold KeepsQuotes KeepsLine
  omega

/-- The bytes a clear writer gives a code point left by escaping stay between the quotes. -/
theorem keepsQuotes_of_keepsClear {cp : Nat} {out : List Nat} (h : KeepsClear cp out)
    (hcp : ParamPoint cp) : ∀ b ∈ out.map (·.toUInt8), KeepsQuotes b := by
  intro b hb
  obtain ⟨n, hn, rfl⟩ := List.mem_map.1 hb
  rcases h with ⟨hlt, rfl⟩ | hall
  · rw [List.mem_singleton] at hn
    subst hn
    exact keepsQuotes_ascii hcp hlt
  · exact keepsQuotes_toUInt8 (hall n hn).1 (hall n hn).2

theorem keepsQuotes_orReference {f : Nat → Option (List Nat)} (hf : Clears f) {cp : Nat}
    (hcp : ParamPoint cp) : ∀ b ∈ orReference cp (f cp), KeepsQuotes b := by
  cases h : f cp with
  | none => exact fun b hb => keepsQuotes_of_mem_reference hb
  | some out => exact keepsQuotes_of_keepsClear (hf cp out hcp.1 h) hcp

/-- A clear writer keeps a name's bytes between its quotes. -/
theorem keepsQuotes_stateless {f : Nat → Option (List Nat)} (hf : Clears f) {cps : List Nat}
    (hcps : ∀ cp ∈ cps, ParamPoint cp) : ∀ b ∈ stateless f cps, KeepsQuotes b := by
  intro b hb
  obtain ⟨cp, hcp, hb⟩ := List.mem_flatMap.1 hb
  exact keepsQuotes_orReference hf (hcps cp hcp) b hb

/-! ## Each writer keeps clear -/

open CharsetIndex

theorem singleByte_clears {back : Array (Nat × Nat)} (h : PointersBelow back 128) :
    Clears (singleByte back) := by
  intro cp out _ hs
  unfold singleByte Charset.singleByteEncode at hs
  split_ifs at hs with hlt
  · cases hs
    exact keepsClear_self hlt
  · -- the byte `0x80` plus the pointer
    rw [Option.map_map] at hs
    refine keepsClear_of_find? h (fun p hp b hb => ?_) hs
    rw [Function.comp_apply, List.mem_singleton] at hb
    omega

theorem userDefined_clears : Clears userDefined := by
  intro cp out _ h
  unfold userDefined at h
  split_ifs at h with hlt hrange
  · cases h
    exact keepsClear_self hlt
  · cases h
    right
    intro b hb
    rw [List.mem_singleton] at hb
    omega

/-- The eighteen legacy gb18030 codes are bytes from `0x59` up. -/
theorem gb18030Legacy_bytes {cp : Nat} {bytes : List Nat}
    (h : gb18030Legacy.lookup cp = some bytes) :
    ∀ b ∈ bytes, 0x30 ≤ b ∧ b < 0x100 := by
  have hall : gb18030Legacy.all (fun e => e.2.all fun b => 0x30 ≤ b && b < 0x100) = true := by
    decide +kernel
  obtain ⟨l₁, l₂, hl, -⟩ := List.lookup_eq_some_iff.1 h
  have hmem : (cp, bytes) ∈ gb18030Legacy := by
    rw [hl]
    exact List.mem_append_right _ List.mem_cons_self
  have := List.all_eq_true.1 hall _ hmem
  simpa using this

theorem gb18030_clears (gbk : Bool) (htwo : PointersBelow gb18030Back (126 * 190))
    (hfour : gbk = false → ∀ cp < 0x110000, rangesPointer cp < 1237576) :
    Clears (gb18030 gbk) := by
  intro cp out hcp h
  unfold gb18030 at h
  by_cases hlt : cp < 0x80
  · rw [if_pos hlt] at h
    cases h
    exact keepsClear_self hlt
  rw [if_neg hlt] at h
  by_cases heuro : cp = 0xE5E5
  · rw [if_pos heuro] at h
    cases h
  rw [if_neg heuro] at h
  by_cases hk : gbk = true ∧ cp = 0x20AC
  · rw [if_pos hk] at h
    cases h
    exact .inr (by simp)
  rw [if_neg hk] at h
  -- the lookups become names before their matches are taken apart, so that no step
  -- evaluates them
  generalize hl : gb18030Legacy.lookup cp = l at h
  cases l with
  | some bytes =>
    simp only [Option.some.injEq] at h
    subst h
    exact .inr (gb18030Legacy_bytes hl)
  | none =>
    generalize hp : Keyed.find? gb18030Back cp = r at h
    cases r with
    | some p =>
      -- a two-byte code: 126 rows of 190
      simp only [Option.some.injEq] at h
      subst h
      have := htwo.find? hp
      exact .inr (mem_pair_inRange (by omega) (by split_ifs <;> omega))
    | none =>
      -- a four-byte code, which GBK does not write
      cases gbk with
      | true => simp at h
      | false =>
        simp only [Bool.false_eq_true, if_false, Option.some.injEq] at h
        subst h
        have := hfour rfl cp hcp
        right
        intro b hb
        simp only [List.mem_cons, List.not_mem_nil, or_false] at hb
        rcases hb with rfl | rfl | rfl | rfl <;> omega

theorem big5_clears (h : PointersBelow big5Back (126 * 157)) : Clears big5 := by
  intro cp out _ hb
  unfold big5 at hb
  split_ifs at hb with hlt
  · cases hb
    exact keepsClear_self hlt
  · exact keepsClear_of_find? h
      (fun p _ => mem_pair_inRange (by omega) (by split_ifs <;> omega)) hb

theorem eucJp_clears (h : PointersBelow jis0208Back (94 * 94)) : Clears eucJp := by
  intro cp out _ he
  unfold eucJp at he
  split_ifs at he with hlt hyen hover hkana
  · cases he
    exact keepsClear_self hlt
  · cases he
    exact .inr (by simp)
  · cases he
    exact .inr (by simp)
  · cases he
    exact .inr (mem_pair_inRange (by omega) (by omega))
  · exact keepsClear_of_find? h (fun p _ => mem_pair_inRange (by omega) (by omega)) he

theorem shiftJis_clears (h : PointersBelow shiftJisBack (60 * 188)) : Clears shiftJis := by
  intro cp out _ hs
  unfold shiftJis at hs
  split_ifs at hs with hle hyen hover hkana
  · cases hs
    by_cases hlt : cp < 0x80
    · exact keepsClear_self hlt
    · exact .inr (by simp; omega)
  · cases hs
    exact .inr (by simp)
  · cases hs
    exact .inr (by simp)
  · cases hs
    exact .inr (by simp; omega)
  · exact keepsClear_of_find? h
      (fun p _ => mem_pair_inRange (by split_ifs <;> omega) (by split_ifs <;> omega)) hs

theorem eucKr_clears (h : PointersBelow eucKrBack (126 * 190)) : Clears eucKr := by
  intro cp out _ he
  unfold eucKr at he
  split_ifs at he with hlt
  · cases he
    exact keepsClear_self hlt
  · exact keepsClear_of_find? h (fun p _ => mem_pair_inRange (by omega) (by omega)) he

/-! ## ISO-2022-JP -/

/-- The bytes of an escape sequence end no line. -/
theorem keepsLine_escape (s : JisSet) : ∀ b ∈ s.escape, KeepsLine b := by
  intro b hb
  unfold KeepsLine
  cases s <;> simp only [JisSet.escape, List.mem_cons, List.not_mem_nil, or_false] at hb <;>
    rcases hb with rfl | rfl | rfl <;> decide

theorem keepsLine_select (set : Option JisSet) : ∀ b ∈ JisSet.select set, KeepsLine b := by
  cases set with
  | none => simp [JisSet.select]
  | some s => exact keepsLine_escape s

/-- What ISO-2022-JP writes for a code point is the code point itself, when it is ASCII, or
bytes from `0x21` to `0x7E`: the yen sign and the overline as `0x5C` and `0x7E`, and a
JIS X 0208 character as its row and its cell, each plus `0x21`. -/
theorem jisWrite_bytes (hidx : PointersBelow jis0208Back (94 * 94)) {cur : JisSet} {cp : Nat}
    {set : Option JisSet} {out : List Nat} (h : jisWrite cur cp = .bytes set out) :
    (cp < 0x80 ∧ out = [cp]) ∨ ∀ b ∈ out, 0x21 ≤ b ∧ b < 0x80 := by
  unfold jisWrite at h
  by_cases hctl : cp = 0x0E ∨ cp = 0x0F ∨ cp = 0x1B
  · rw [if_pos hctl] at h
    cases h
  rw [if_neg hctl] at h
  by_cases hlt : cp < 0x80
  · rw [if_pos hlt] at h
    split_ifs at h <;> cases h <;> exact .inl ⟨hlt, rfl⟩
  rw [if_neg hlt] at h
  by_cases hsign : cp = 0xA5 ∨ cp = 0x203E
  · rw [if_pos hsign] at h
    cases h
    right
    intro b hb
    rw [List.mem_singleton] at hb
    split_ifs at hb <;> omega
  rw [if_neg hsign] at h
  dsimp only at h
  -- the point looked up, and the lookup, become names before the match is taken apart
  generalize (if 0xFF61 ≤ jisPoint cp ∧ jisPoint cp ≤ 0xFF9F then
    (at? katakana (jisPoint cp - 0xFF61)).getD (jisPoint cp) else jisPoint cp) = q at h
  generalize hp : Keyed.find? jis0208Back q = r at h
  cases r with
  | none => cases h
  | some p =>
    cases h
    have := hidx.find? hp
    right
    intro b hb
    simp only [List.mem_cons, List.not_mem_nil, or_false] at hb
    rcases hb with rfl | rfl <;> omega

/-- From ASCII, ISO-2022-JP writes a code point that only JIS X 0208 holds by selecting
JIS X 0208 and writing the row and the cell of its pointer, each plus `0x21`. -/
theorem jisWrite_ascii_of_find? {cp p : Nat} (hcp : 0x80 ≤ cp) (hsign : cp ≠ 0xA5 ∧ cp ≠ 0x203E)
    (hpoint : jisPoint cp = cp) (hkana : ¬ (0xFF61 ≤ cp ∧ cp ≤ 0xFF9F))
    (hp : Keyed.find? jis0208Back cp = some p) :
    jisWrite .ascii cp = .bytes (some .jis0208) [p / 94 + 0x21, p % 94 + 0x21] := by
  have hctl : ¬ (cp = 0x0E ∨ cp = 0x0F ∨ cp = 0x1B) := by omega
  have hlt : ¬ cp < 0x80 := by omega
  have hsign' : ¬ (cp = 0xA5 ∨ cp = 0x203E) := by omega
  unfold jisWrite
  rw [if_neg hctl, if_neg hlt, if_neg hsign']
  dsimp only
  rw [hpoint, if_neg hkana, hp]
  rfl

/-- The bytes ISO-2022-JP writes for a code point left by escaping end no line. -/
theorem keepsLine_jisWrite_bytes (hidx : PointersBelow jis0208Back (94 * 94)) {cur : JisSet}
    {cp : Nat} {set : Option JisSet} {out : List Nat} (h : jisWrite cur cp = .bytes set out)
    (hcp : ParamPoint cp) : ∀ b ∈ out.map (·.toUInt8), KeepsLine b := by
  intro b hb
  obtain ⟨n, hn, rfl⟩ := List.mem_map.1 hb
  rcases jisWrite_bytes hidx h with ⟨hlt, rfl⟩ | hall
  · rw [List.mem_singleton] at hn
    subst hn
    exact (keepsQuotes_ascii hcp hlt).keepsLine
  · have hr := hall n hn
    exact keepsLine_of_le (by rw [toNat_toUInt8 (by omega)]; exact hr.1)

/-- ISO-2022-JP ends no line: from any character set, after bytes that end no line, what it
writes for code points left by escaping ends none either. The induction runs over the code
points with the set and the bytes written so far generalised. -/
theorem keepsLine_iso2022JpFrom (hidx : PointersBelow jis0208Back (94 * 94)) {cps : List Nat}
    (hcps : ∀ cp ∈ cps, ParamPoint cp) :
    ∀ (cur : JisSet) (acc : List UInt8), (∀ b ∈ acc, KeepsLine b) →
      ∀ b ∈ iso2022JpFrom cur acc cps, KeepsLine b := by
  induction cps with
  | nil =>
    intro cur acc hacc b hb
    unfold iso2022JpFrom at hb
    rw [List.mem_reverse] at hb
    split_ifs at hb
    · exact hacc b hb
    · rcases List.mem_append.1 hb with hb | hb
      · exact keepsLine_escape .ascii b (List.mem_reverse.1 hb)
      · exact hacc b hb
  | cons cp rest ih =>
    intro cur acc hacc
    have hcp := hcps cp List.mem_cons_self
    have hrest : ∀ c ∈ rest, ParamPoint c := fun c hc => hcps c (List.mem_cons_of_mem _ hc)
    unfold iso2022JpFrom
    split
    · next set out hw =>
      refine ih hrest _ _ fun b hb => ?_
      simp only [List.mem_append, List.mem_reverse] at hb
      rcases hb with (hb | hb) | hb
      · exact keepsLine_jisWrite_bytes hidx hw hcp b hb
      · exact keepsLine_select set b hb
      · exact hacc b hb
    · next set bad hw =>
      refine ih hrest _ _ fun b hb => ?_
      simp only [List.mem_append, List.mem_reverse] at hb
      rcases hb with (hb | hb) | hb
      · exact (keepsQuotes_of_mem_reference hb).keepsLine
      · exact keepsLine_select set b hb
      · exact hacc b hb

theorem keepsLine_iso2022Jp (hidx : PointersBelow jis0208Back (94 * 94)) {cps : List Nat}
    (hcps : ∀ cp ∈ cps, ParamPoint cp) : ∀ b ∈ iso2022Jp cps, KeepsLine b :=
  keepsLine_iso2022JpFrom hidx hcps .ascii [] (by simp)

end Encoders

namespace Utf8

/-- UTF-8 writes an ASCII code point as itself and any other scalar value with bytes from
`0x80` to `0xF4`. -/
theorem keepsQuotes_encodePoint {cp : Nat} (h : ParamPoint cp) :
    ∀ b ∈ encodePoint cp, KeepsQuotes b := by
  intro b hb
  have hmax := h.1
  unfold encodePoint at hb
  split_ifs at hb with h1 h2 h3
  · rw [List.mem_singleton] at hb
    subst hb
    exact keepsQuotes_ascii h h1
  · simp only [List.mem_cons, List.not_mem_nil, or_false] at hb
    rcases hb with rfl | rfl <;> exact keepsQuotes_toUInt8 (by omega) (by omega)
  · simp only [List.mem_cons, List.not_mem_nil, or_false] at hb
    rcases hb with rfl | rfl | rfl <;> exact keepsQuotes_toUInt8 (by omega) (by omega)
  · simp only [List.mem_cons, List.not_mem_nil, or_false] at hb
    rcases hb with rfl | rfl | rfl | rfl <;> exact keepsQuotes_toUInt8 (by omega) (by omega)

theorem keepsQuotes_encodePoints {cps : List Nat} (h : ∀ cp ∈ cps, ParamPoint cp) :
    ∀ b ∈ encodePoints cps, KeepsQuotes b := by
  intro b hb
  obtain ⟨cp, hcp, hb⟩ := List.mem_flatMap.1 hb
  exact keepsQuotes_encodePoint (h cp hcp) b hb

end Utf8

namespace Charset

/-- How a charset writes, as far as its bytes go: as UTF-8, through a writer without state
that keeps clear, or as ISO-2022-JP with its JIS X 0208 pointers in range. -/
theorem writes_cases (cs : Charset) :
    (∀ cps, cs.encodePoints cps = Utf8.encodePoints cps) ∨
      (∃ f, Encoders.Clears f ∧ ∀ cps, cs.encodePoints cps = Encoders.stateless f cps) ∨
      (cs.outputEncoding = iso2022Jp ∧
        CharsetIndex.PointersBelow CharsetIndex.jis0208Back (94 * 94) ∧
        ∀ cps, cs.encodePoints cps = Encoders.iso2022Jp cps) := by
  have hidx := indexesInRange cs
  unfold IndexesInRange at hidx
  unfold encodePoints
  generalize cs.outputEncoding = o at hidx ⊢
  cases o with
  | utf8 => exact .inl fun _ => rfl
  | gbk => exact .inr (.inl ⟨_, Encoders.gb18030_clears true hidx (by simp), fun _ => rfl⟩)
  | gb18030 =>
    exact .inr (.inl ⟨_, Encoders.gb18030_clears false hidx.1 fun _ => hidx.2, fun _ => rfl⟩)
  | big5 => exact .inr (.inl ⟨_, Encoders.big5_clears hidx, fun _ => rfl⟩)
  | eucJp => exact .inr (.inl ⟨_, Encoders.eucJp_clears hidx, fun _ => rfl⟩)
  | iso2022Jp => exact .inr (.inr ⟨rfl, hidx, fun _ => rfl⟩)
  | shiftJis => exact .inr (.inl ⟨_, Encoders.shiftJis_clears hidx, fun _ => rfl⟩)
  | eucKr => exact .inr (.inl ⟨_, Encoders.eucKr_clears hidx, fun _ => rfl⟩)
  | userDefined => exact .inr (.inl ⟨_, Encoders.userDefined_clears, fun _ => rfl⟩)
  | _ => exact .inr (.inl ⟨_, Encoders.singleByte_clears hidx, fun _ => rfl⟩)

end Charset

namespace PreparedMultipart

/-- The escapes `%22`, `%0D` and `%0A` are made of `%`, digits and capital letters. -/
theorem paramPoint_of_mem_escape {c : Char}
    (h : c ∈ "%22".toList ∨ c ∈ "%0D".toList ∨ c ∈ "%0A".toList) :
    c.toNat ≠ 34 ∧ c.toNat ≠ 13 ∧ c.toNat ≠ 10 := by
  have h22 : "%22".toList = ['%', '2', '2'] := rfl
  have h0D : "%0D".toList = ['%', '0', 'D'] := rfl
  have h0A : "%0A".toList = ['%', '0', 'A'] := rfl
  simp only [h22, h0D, h0A, List.mem_cons, List.not_mem_nil, or_false] at h
  rcases h with (rfl | rfl | rfl) | (rfl | rfl | rfl) | (rfl | rfl | rfl) <;> decide

/-- Escaping leaves no quote, carriage return or line feed in a name. -/
theorem paramPoint_of_mem_paramText (v : String) :
    ∀ cp ∈ (paramText v).toList.map Char.toNat, ParamPoint cp := by
  intro cp hcp
  obtain ⟨d, hd, rfl⟩ := List.mem_map.1 hcp
  have hvalid : Nat.isValidChar d.toNat := d.valid
  unfold Nat.isValidChar at hvalid
  refine ⟨by omega, ?_⟩
  rw [paramText, String.toList_ofList] at hd
  obtain ⟨c, -, hd⟩ := List.mem_flatMap.1 hd
  split_ifs at hd with hq hr hn
  · exact paramPoint_of_mem_escape (.inl hd)
  · exact paramPoint_of_mem_escape (.inr (.inl hd))
  · exact paramPoint_of_mem_escape (.inr (.inr hd))
  · -- a character kept as it is: no quote, carriage return or line feed
    rw [List.mem_singleton] at hd
    subst hd
    exact ⟨fun h => hq (Char.toNat_inj.1 h), fun h => hr (Char.toNat_inj.1 h),
      fun h => hn (Char.toNat_inj.1 h)⟩

/-- **What a name writes between its quotes.** Whatever the name or file name, the bytes a
part's head writes for it hold no carriage return or line feed, so that no name ends the
`Content-Disposition` line early; and in every charset that does not write ISO-2022-JP they
hold no quote either, so that no name ends its quoted parameter early. -/
theorem headerParam_keeps_line_and_quotes_but_iso2022Jp (m : PreparedMultipart) (s : String) :
    (∀ b ∈ m.headerParam s, b ≠ 13 ∧ b ≠ 10) ∧
      (m.charset.outputEncoding ≠ .iso2022Jp → ∀ b ∈ m.headerParam s, b ≠ 34) := by
  have hpts := paramPoint_of_mem_paramText s
  have hw : m.headerParam s = m.charset.encodePoints ((paramText s).toList.map Char.toNat) := rfl
  have hbytes : (∀ b ∈ m.headerParam s, KeepsLine b) ∧
      (m.charset.outputEncoding ≠ .iso2022Jp → ∀ b ∈ m.headerParam s, KeepsQuotes b) := by
    rw [hw]
    rcases Charset.writes_cases m.charset with hu | ⟨f, hf, hs⟩ | ⟨hiso, hj, hi⟩
    · have hq := Utf8.keepsQuotes_encodePoints hpts
      rw [hu]
      exact ⟨fun b hb => (hq b hb).keepsLine, fun _ => hq⟩
    · have hq := Encoders.keepsQuotes_stateless hf hpts
      rw [hs]
      exact ⟨fun b hb => (hq b hb).keepsLine, fun _ => hq⟩
    · rw [hi]
      exact ⟨Encoders.keepsLine_iso2022Jp hj hpts, fun hne => absurd hiso hne⟩
  -- from the bytes' numbers back to the bytes
  refine ⟨fun b hb => ?_, fun hne b hb => ?_⟩
  · obtain ⟨h13, h10⟩ := hbytes.1 b hb
    exact ⟨fun h => h13 (by rw [h]; rfl), fun h => h10 (by rw [h]; rfl)⟩
  · exact fun h => (hbytes.2 hne b hb).1 (by rw [h]; rfl)

/-- In Shift_JIS a name with a quote, a line break and a kanji stays between its quotes. -/
theorem shiftJis_name_stays_quoted :
    let m : PreparedMultipart := ⟨some "b", .shiftJis, []⟩
    (∀ b ∈ m.headerParam "a\"\r\n中", b ≠ 13 ∧ b ≠ 10) ∧
      (m.charset.outputEncoding ≠ .iso2022Jp →
        ∀ b ∈ m.headerParam "a\"\r\n中", b ≠ 34) :=
  headerParam_keeps_line_and_quotes_but_iso2022Jp _ _

/-- In ISO-2022-JP a name made of the ideographic comma U+3001 is written
`ESC $ B 21 22 ESC ( B`: its fifth byte is a quote, which ends the quoted parameter after
`ESC $ B 21`. -/
theorem iso2022Jp_ideographic_comma_ends_quotes :
    (⟨some "b", .iso2022Jp, []⟩ : PreparedMultipart).headerParam "、" =
      [0x1B, 0x24, 0x42, 0x21, 0x22, 0x1B, 0x28, 0x42] := by
  have hw := Encoders.jisWrite_ascii_of_find? (by decide) (by decide) rfl (by decide)
    CharsetIndex.find?_jis0208Back_ideographicComma
  show Encoders.iso2022JpFrom .ascii [] [0x3001] = _
  rw [Encoders.iso2022JpFrom, hw]
  rfl

end PreparedMultipart

end HttpCall
