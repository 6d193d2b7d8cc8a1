import HttpCall.Json.Read
import HttpCall.Json.Write
import Mathlib

/-!
# Reading written JSON back

The reader of JSON text gives back every value the writer writes whose numbers are
integers. The argument follows the writer: a string is read back one escaped character at a
time, an integer from its decimal digits, and arrays and objects item by item, where the
reader, after each item, sees a comma and reads on or sees the closing bracket and stops.

The reader's steps are bounded by a fuel count that its entry point sets to the length of
the text; each step either reads a character or opens an item, and every item is written
with at least one character, so the length of a written value is always enough fuel.

Main statement (`ofText?_toText`): reading the text of a value whose numbers are integers
gives the value.
-/

namespace HttpCall

namespace JsonValue

mutual

/-- Are all numbers of a value integers, written with neither a fraction nor an exponent? -/
def wholeNumbers : JsonValue → Bool
  | .num n => n.integral && n.exponent == 0
  | .arr items => wholeNumbersItems items
  | .obj ms => wholeNumbersMembers ms
  | _ => true

/-- Are all numbers of the items integers? -/
def wholeNumbersItems : List JsonValue → Bool
  | [] => true
  | v :: vs => wholeNumbers v && wholeNumbersItems vs

/-- Are all numbers of the members' values integers? -/
def wholeNumbersMembers : List (String × JsonValue) → Bool
  | [] => true
  | (_, v) :: ms => wholeNumbers v && wholeNumbersMembers ms

end

end JsonValue

namespace JsonText

/-! ### Strings -/

/-- The four hexadecimal digits of a control character's escape. -/
theorem hex4?_control (n : Nat) (h : n < 0x20) :
    hex4? '0' '0' (n / 16).digitChar (n % 16).digitChar = some n := by
  have hall : ∀ m < 0x20, hex4? '0' '0' (m / 16).digitChar (m % 16).digitChar = some m := by
    decide
  exact hall n h

/-- A `\u` escape below the surrogates stands for its one unit, whatever follows it. -/
theorem readQuoted_unicodeEscape {a b c d : Char} {hi : Nat} (fuel : Nat) (acc more : List Char)
    (h : hex4? a b c d = some hi) (hlow : hi < 0xD800) :
    readQuoted (fuel + 1) acc ('\\' :: 'u' :: a :: b :: c :: d :: more) =
      readQuoted fuel (unit hi :: acc) more := by
  rw [readQuoted.eq_def]
  simp only [h]
  -- the reader looks ahead for a low surrogate; none pairs with a unit below U+D800
  split <;> (try split) <;> simp_all

/-- One escaped character is read back as itself. -/
theorem readQuoted_escapeChar (c : Char) (fuel : Nat) (acc more : List Char) :
    readQuoted (fuel + 1) acc (escapeChar c ++ more) = readQuoted fuel (c :: acc) more := by
  unfold escapeChar
  split
  · simp [readQuoted]
  · simp [readQuoted]
  · simp [readQuoted]
  · simp [readQuoted]
  · simp [readQuoted]
  · simp [readQuoted]
  · simp [readQuoted]
  · split
    · next hc =>
      have hu : unit c.toNat = c := by
        simp [unit, show ¬ 0xD800 ≤ c.toNat by omega]
      simp only [List.cons_append, List.nil_append]
      rw [readQuoted_unicodeEscape fuel acc more (hex4?_control c.toNat hc) (by omega), hu]
    · simp only [List.cons_append, List.nil_append]
      rw [readQuoted.eq_def]
      split <;> simp_all

theorem escapeChar_ne_nil (c : Char) : escapeChar c ≠ [] := by
  unfold escapeChar
  split <;> (try split) <;> simp

/-- Escaped characters up to the closing quote are read back, given a step for each. -/
theorem readQuoted_escaped (s : List Char) (fuel : Nat) (acc rest : List Char)
    (h : (s.flatMap escapeChar).length < fuel) :
    readQuoted fuel acc (s.flatMap escapeChar ++ '"' :: rest) =
      some (String.ofList (acc.reverse ++ s), rest) := by
  induction s generalizing fuel acc with
  | nil =>
    obtain ⟨f, rfl⟩ : ∃ f, fuel = f + 1 := ⟨fuel - 1, by simp at h; omega⟩
    simp [readQuoted]
  | cons c s ih =>
    have hc := List.length_pos_iff.2 (escapeChar_ne_nil c)
    simp only [List.flatMap_cons, List.length_append] at h
    obtain ⟨f, rfl⟩ : ∃ f, fuel = f + 1 := ⟨fuel - 1, by omega⟩
    rw [List.flatMap_cons, List.append_assoc, readQuoted_escapeChar, ih f _ (by omega)]
    simp

/-- A quoted string is read back from the fuel the value reader gives it. -/
theorem readQuoted_quoted (s : String) (rest : List Char) :
    readQuoted ((s.toList.flatMap escapeChar ++ '"' :: rest).length + 1) []
      (s.toList.flatMap escapeChar ++ '"' :: rest) = some (s, rest) := by
  rw [readQuoted_escaped _ _ _ _ (by simp only [List.length_append, List.length_cons]; omega)]
  simp

/-! ### Numbers -/

theorem digitsValue_eq_ofDigitChars (ds : List Char) :
    digitsValue ds = Nat.ofDigitChars 10 ds 0 := by
  rw [digitsValue, Nat.ofDigitChars_eq_foldl]
  congr 1
  funext acc c
  rw [Nat.mul_comm]
  rfl

@[simp]
theorem digitsValue_nil : digitsValue [] = 0 := rfl

/-- Decimal digits read back as their number. -/
theorem digitsValue_toDigits (n : Nat) : digitsValue (Nat.toDigits 10 n) = n := by
  rw [digitsValue_eq_ofDigitChars, Nat.ofDigitChars_ten_toDigits]

theorem isDigit_of_mem_toDigits {n : Nat} {c : Char} (h : c ∈ Nat.toDigits 10 n) : c.isDigit :=
  Nat.isDigit_of_mem_toDigits (by decide) (by decide) h

/-- The digits of a number end where a character that is not a digit follows. -/
theorem takeWhile_toDigits_append (n : Nat) {rest : List Char}
    (h : ∀ c ∈ rest.head?, c.isDigit = false) :
    (Nat.toDigits 10 n ++ rest).takeWhile Char.isDigit = Nat.toDigits 10 n := by
  rw [List.takeWhile_append_of_pos (fun c hc => isDigit_of_mem_toDigits hc)]
  cases rest with
  | nil => simp
  | cons c r => simp [List.takeWhile_cons_of_neg, h c rfl]

/-- The digits of a positive number do not start with zero. -/
theorem toDigits_head_ne_zero {n : Nat} (h : 0 < n) : (Nat.toDigits 10 n).head? ≠ some '0' := by
  induction n using Nat.strong_induction_on with
  | _ n ih =>
    rw [Nat.toDigits_eq_if (by decide)]
    split
    · next hn =>
      have hdigit : ∀ m < 10, 0 < m → m.digitChar ≠ '0' := by decide
      simpa using hdigit n hn h
    · next hn =>
      rw [List.head?_append]
      have hne := ih (n / 10) (by omega) (by omega)
      cases hd : (Nat.toDigits 10 (n / 10)).head? <;> simp_all

/-- The reader's check against leading zeros passes on decimal digits. -/
theorem toDigits_leading (n : Nat) :
    ((Nat.toDigits 10 n).length > 1 && (Nat.toDigits 10 n).head? == some '0') = false := by
  rcases Nat.eq_zero_or_pos n with rfl | h
  · decide
  · simp [toDigits_head_ne_zero h]

theorem toDigits_append_ne_minus (d : Nat) (rest r : List Char) :
    Nat.toDigits 10 d ++ rest ≠ '-' :: r := by
  obtain ⟨c, cs, hc⟩ := List.exists_cons_of_ne_nil (@Nat.toDigits_ne_nil d 10)
  have hcm : c ∈ Nat.toDigits 10 d := by simp [hc]
  have hcd : c.isDigit := isDigit_of_mem_toDigits hcm
  rw [hc, List.cons_append]
  rintro ⟨⟩
  simp at hcd

/-- A text that may follow a value: it is empty or starts with a comma or a closing
bracket or brace. -/
def Follows (rest : List Char) : Prop :=
  ∀ c ∈ rest.head?, c = ',' ∨ c = ']' ∨ c = '}'

theorem follows_not_digit {rest : List Char} (hr : Follows rest) :
    ∀ c ∈ rest.head?, c.isDigit = false := by
  intro c hc
  rcases hr c hc with rfl | rfl | rfl <;> decide

/-- An integer is read back from its sign and decimal digits. -/
theorem readNumber_integer (neg : Bool) (d : Nat) (rest : List Char) (hr : Follows rest) :
    readNumber ((if neg then ['-'] else []) ++ Nat.toDigits 10 d ++ rest) =
      some (⟨neg, d, 0, true⟩, rest) := by
  have hds := takeWhile_toDigits_append d (follows_not_digit hr)
  have hlead := toDigits_leading d
  have hval := digitsValue_toDigits d
  have hnil := @Nat.toDigits_ne_nil d 10
  have hx : ∀ x ∈ rest.head?, x ≠ '.' ∧ x ≠ 'e' ∧ x ≠ 'E' := by
    intro x hx'
    rcases hr x hx' with rfl | rfl | rfl <;> decide
  cases neg <;> simp only [readNumber, if_false, if_true, Bool.false_eq_true, List.nil_append,
    List.cons_append]
  -- an unsigned integer starts with a digit, so the reader finds no minus sign
  on_goal 1 =>
    split
    · exact absurd ‹_› (toDigits_append_ne_minus d rest _)
  all_goals
    simp only [hds, List.drop_left]
    rcases rest with _ | ⟨x, r⟩
    · simp [hval, hnil, hlead]
    · obtain ⟨h1, h2, h3⟩ := hx x rfl
      simp [hval, hnil, hlead, h1, h2, h3]


/-! ### Values -/

theorem isBlank_eq_false_of_isDigit {c : Char} (h : c.isDigit) : isBlank c = false := by
  cases hb : isBlank c
  · rfl
  · simp only [isBlank, Bool.or_eq_true, beq_iff_eq] at hb
    rcases hb with ((rfl | rfl) | rfl) | rfl <;> simp at h

/-- A written number starts with a minus sign or a digit. -/
theorem number_head (n : JsonNumber) :
    ∃ c cs, number n = c :: cs ∧ (c = '-' ∨ c.isDigit) := by
  cases hn : n.negative
  · obtain ⟨c, cs, hc⟩ := List.exists_cons_of_ne_nil (@Nat.toDigits_ne_nil n.digits 10)
    have hcm : c ∈ Nat.toDigits 10 n.digits := by simp [hc]
    simp only [number, hn, hc, if_false, Bool.false_eq_true, List.nil_append, List.cons_append]
    exact ⟨c, _, rfl, .inr (isDigit_of_mem_toDigits hcm)⟩
  · simp only [number, hn, if_true, List.cons_append, List.nil_append]
    exact ⟨'-', _, rfl, .inl rfl⟩

/-- Text that starts with a minus sign or a digit is read as a number. -/
theorem readValue_numberStart (fuel : Nat) {c : Char} (cs : List Char)
    (hc : c = '-' ∨ c.isDigit) :
    readValue (fuel + 1) (c :: cs) = (readNumber (c :: cs)).map fun (n, r) => (.num n, r) := by
  have hb : isBlank c = false := by
    rcases hc with rfl | hc
    · rfl
    · exact isBlank_eq_false_of_isDigit hc
  have hd : (c :: cs).dropWhile isBlank = c :: cs := List.dropWhile_cons_of_neg (by simp [hb])
  simp only [readValue, hd]
  -- no other kind of value starts with a minus sign or a digit
  split <;> simp_all

/-- A written value starts with a character that is neither blank nor a closing bracket or
brace. -/
theorem write_head (v : JsonValue) :
    ∃ c cs, write v = c :: cs ∧ isBlank c = false ∧ c ≠ ']' ∧ c ≠ '}' := by
  cases v with
  | num n =>
    obtain ⟨c, cs, hn, hc⟩ := number_head n
    refine ⟨c, cs, hn, ?_, ?_, ?_⟩ <;> rcases hc with rfl | hc
    all_goals first
      | decide
      | exact isBlank_eq_false_of_isDigit hc
      | (rintro rfl; simp at hc)
  | bool b => cases b <;> exact ⟨_, _, rfl, rfl, by decide, by decide⟩
  | arr items => cases items <;> exact ⟨_, _, rfl, rfl, by decide, by decide⟩
  | obj ms =>
    rcases ms with _ | ⟨⟨k, v⟩, ms⟩ <;> exact ⟨_, _, rfl, rfl, by decide, by decide⟩
  | _ => exact ⟨_, _, rfl, rfl, by decide, by decide⟩

theorem dropWhile_write (v : JsonValue) (rest : List Char) :
    (write v ++ rest).dropWhile isBlank = write v ++ rest := by
  obtain ⟨c, cs, hv, hc, -⟩ := write_head v
  rw [hv, List.cons_append, List.dropWhile_cons_of_neg (by simp [hc])]

theorem write_length_pos (v : JsonValue) : 0 < (write v).length := by
  obtain ⟨c, cs, hv, -⟩ := write_head v
  simp [hv]

theorem quoted_length (s : String) : 2 ≤ (quoted s).length := by
  simp [quoted]

theorem writeItems_length_pos (vs : List JsonValue) : 0 < (writeItems vs).length := by
  cases vs <;> simp [writeItems]

theorem follows_writeItems (vs : List JsonValue) (rest : List Char) :
    Follows (writeItems vs ++ rest) := by
  cases vs <;> simp [Follows, writeItems]

theorem follows_writeMembers (ms : List (String × JsonValue)) (rest : List Char) :
    Follows (writeMembers ms ++ rest) := by
  rcases ms with _ | ⟨⟨k, v⟩, ms⟩ <;> simp [Follows, writeMembers]

/-- What the array reader does after an item, facing `cs`: it reads on after a comma and
stops at the closing bracket. -/
def itemsAfter (fuel : Nat) (acc : List JsonValue) (cs : List Char) :
    Option (JsonValue × List Char) :=
  match cs.dropWhile isBlank with
  | ',' :: more => readItems fuel false more acc
  | ']' :: more => some (.arr acc.reverse, more)
  | _ => none

/-- What the object reader does after a member, facing `cs`: it reads on after a comma and
stops at the closing brace. -/
def membersAfter (fuel : Nat) (acc : List (String × JsonValue)) (cs : List Char) :
    Option (JsonValue × List Char) :=
  match cs.dropWhile isBlank with
  | ',' :: more => readMembers fuel false more acc
  | '}' :: more => some (.obj acc.reverse, more)
  | _ => none

/-- The array reader reads one written item and goes on after it. -/
theorem readItems_write (first : Bool) (fuel : Nat) (acc : List JsonValue) (v w : JsonValue)
    (rest r : List Char) (h : readValue fuel (write w ++ rest) = some (v, r)) :
    readItems (fuel + 1) first (write w ++ rest) acc = itemsAfter fuel (v :: acc) r := by
  simp only [readItems, dropWhile_write]
  split
  · next more heq =>
    obtain ⟨c, cs, hw, -, hc, -⟩ := write_head w
    rw [hw, List.cons_append, List.cons.injEq] at heq
    exact absurd heq.1 hc
  · rw [h]
    rfl

/-- The object reader reads one written member and goes on after it. -/
theorem readMembers_quoted (first : Bool) (fuel : Nat) (acc : List (String × JsonValue))
    (k : String) (v : JsonValue) (rest r : List Char) (h : readValue fuel rest = some (v, r)) :
    readMembers (fuel + 1) first (quoted k ++ ':' :: rest) acc =
      membersAfter fuel ((k, v) :: acc) r := by
  have hquote : ¬ isBlank '"' = true := by decide
  have hcolon : ¬ isBlank ':' = true := by decide
  simp only [quoted, List.cons_append, List.append_assoc]
  cases first <;>
    simp only [readMembers, List.dropWhile_cons_of_neg hquote, readQuoted_quoted, List.nil_append,
      List.dropWhile_cons_of_neg hcolon, h] <;> rfl

mutual

/-- A written value is read back, from as much fuel as it has characters. -/
theorem readValue_write : ∀ (v : JsonValue) (fuel : Nat) (rest : List Char),
    v.wholeNumbers → (write v).length ≤ fuel → Follows rest →
      readValue fuel (write v ++ rest) = some (v, rest)
  | v, 0, rest, _, hl, _ => absurd hl (by have := write_length_pos v; omega)
  | .null, fuel + 1, rest, _, _, _ => by simp [write, readValue, isBlank]
  | .bool true, fuel + 1, rest, _, _, _ => by simp [write, readValue, isBlank]
  | .bool false, fuel + 1, rest, _, _, _ => by simp [write, readValue, isBlank]
  | .num n, fuel + 1, rest, hw, _, hr => by
    obtain ⟨n, d, e, i⟩ := n
    simp only [JsonValue.wholeNumbers, Bool.and_eq_true, beq_iff_eq] at hw
    obtain ⟨rfl, rfl⟩ := hw
    obtain ⟨c, cs, hn, hc⟩ := number_head ⟨n, d, 0, true⟩
    have hread := readNumber_integer n d rest hr
    simp only [number, if_true, List.append_nil] at hn hread
    simp only [write, number, if_true, List.append_nil, List.append_assoc]
    rw [← List.append_assoc, hn, List.cons_append, readValue_numberStart fuel _ hc,
      ← List.cons_append, ← hn, hread, Option.map_some]
  | .str s, fuel + 1, rest, _, _, _ => by
    simp only [write, quoted, List.cons_append, List.append_assoc, List.nil_append,
      readValue, List.dropWhile_cons_of_neg (by decide : ¬ isBlank '"' = true),
      readQuoted_quoted, Option.map_some]
  | .arr [], fuel + 1, rest, _, hl, _ => by
    obtain ⟨f, rfl⟩ : ∃ f, fuel = f + 1 := ⟨fuel - 1, by simp [write] at hl; omega⟩
    simp [write, readValue, readItems, isBlank]
  | .arr (v :: vs), fuel + 1, rest, hw, hl, _ => by
    simp only [write, List.length_cons, List.length_append] at hl
    have := writeItems_length_pos vs
    obtain ⟨f, rfl⟩ : ∃ f, fuel = f + 1 := ⟨fuel - 1, by omega⟩
    simp only [JsonValue.wholeNumbers, JsonValue.wholeNumbersItems, Bool.and_eq_true] at hw
    have hread := readValue_write v f (writeItems vs ++ rest) hw.1 (by omega)
      (follows_writeItems vs rest)
    simp only [write, List.cons_append, List.append_assoc, readValue,
      List.dropWhile_cons_of_neg (by decide : ¬ isBlank '[' = true)]
    rw [readItems_write true f [] v v _ _ hread,
      itemsAfter_writeItems vs f [v] rest hw.2 (by omega)]
    simp
  | .obj [], fuel + 1, rest, _, hl, _ => by
    obtain ⟨f, rfl⟩ : ∃ f, fuel = f + 1 := ⟨fuel - 1, by simp [write] at hl; omega⟩
    simp [write, readValue, readMembers, isBlank]
  | .obj ((k, v) :: ms), fuel + 1, rest, hw, hl, _ => by
    simp only [write, List.length_cons, List.length_append] at hl
    have := quoted_length k
    obtain ⟨f, rfl⟩ : ∃ f, fuel = f + 1 := ⟨fuel - 1, by omega⟩
    simp only [JsonValue.wholeNumbers, JsonValue.wholeNumbersMembers, Bool.and_eq_true] at hw
    have hread := readValue_write v f (writeMembers ms ++ rest) hw.1 (by omega)
      (follows_writeMembers ms rest)
    simp only [write, List.cons_append, List.append_assoc, readValue,
      List.dropWhile_cons_of_neg (by decide : ¬ isBlank '{' = true)]
    rw [readMembers_quoted true f [] k v _ _ hread,
      membersAfter_writeMembers ms f [(k, v)] rest hw.2 (by omega)]
    simp

/-- After an item, the written remaining items of an array are read back. -/
theorem itemsAfter_writeItems : ∀ (vs : List JsonValue) (fuel : Nat) (acc : List JsonValue)
    (rest : List Char), JsonValue.wholeNumbersItems vs → (writeItems vs).length ≤ fuel + 1 →
      itemsAfter fuel acc (writeItems vs ++ rest) = some (.arr (acc.reverse ++ vs), rest)
  | [], fuel, acc, rest, _, _ => by simp [writeItems, itemsAfter, isBlank]
  | v :: vs, 0, acc, rest, _, hl => by
    have := write_length_pos v
    simp only [writeItems, List.length_cons, List.length_append] at hl
    omega
  | v :: vs, fuel + 1, acc, rest, hw, hl => by
    simp only [writeItems, List.length_cons, List.length_append] at hl
    have := write_length_pos v
    have := writeItems_length_pos vs
    simp only [JsonValue.wholeNumbersItems, Bool.and_eq_true] at hw
    have hread := readValue_write v fuel (writeItems vs ++ rest) hw.1 (by omega)
      (follows_writeItems vs rest)
    simp only [writeItems, itemsAfter, List.cons_append, List.append_assoc,
      List.dropWhile_cons_of_neg (by decide : ¬ isBlank ',' = true)]
    rw [readItems_write false fuel acc v v _ _ hread,
      itemsAfter_writeItems vs fuel (v :: acc) rest hw.2 (by omega)]
    simp

/-- After a member, the written remaining members of an object are read back. -/
theorem membersAfter_writeMembers : ∀ (ms : List (String × JsonValue)) (fuel : Nat)
    (acc : List (String × JsonValue)) (rest : List Char),
    JsonValue.wholeNumbersMembers ms → (writeMembers ms).length ≤ fuel + 1 →
      membersAfter fuel acc (writeMembers ms ++ rest) = some (.obj (acc.reverse ++ ms), rest)
  | [], fuel, acc, rest, _, _ => by simp [writeMembers, membersAfter, isBlank]
  | (k, v) :: ms, 0, acc, rest, _, hl => by
    have := write_length_pos v
    simp only [writeMembers, List.length_cons, List.length_append] at hl
    omega
  | (k, v) :: ms, fuel + 1, acc, rest, hw, hl => by
    simp only [writeMembers, List.length_cons, List.length_append] at hl
    have := quoted_length k
    have := write_length_pos v
    simp only [JsonValue.wholeNumbersMembers, Bool.and_eq_true] at hw
    have hread := readValue_write v fuel (writeMembers ms ++ rest) hw.1 (by omega)
      (follows_writeMembers ms rest)
    simp only [writeMembers, membersAfter, List.cons_append, List.append_assoc,
      List.dropWhile_cons_of_neg (by decide : ¬ isBlank ',' = true)]
    rw [readMembers_quoted false fuel acc k v _ _ hread,
      membersAfter_writeMembers ms fuel ((k, v) :: acc) rest hw.2 (by omega)]
    simp

end

end JsonText

namespace JsonValue

/-- **Written JSON reads back.** Reading the text of a value whose numbers are integers
gives the value. -/
theorem ofText?_toText (v : JsonValue) (hw : v.wholeNumbers) : ofText? v.toText = some v := by
  have hread := JsonText.readValue_write v ((JsonText.write v).length + 1) [] hw (by omega)
    (by simp [JsonText.Follows])
  rw [List.append_nil] at hread
  simp [ofText?, toText, hread]

end JsonValue

end HttpCall
