import HttpCall.Settings.Toml.Quoted
import HttpCall.Settings.Datetime

/-!
# Unquoted values and keys of a TOML document

A value written without quotes is a number, a boolean, a date or a time; its first
character says which it is meant to be, and the faults are named for that:

* `+` or `-` starts a signed number, and a second sign is redundant;
* `0x`, `0o` and `0b` start an integer in base 16, 8 or 2, which may not be signed and
  whose prefix must be lowercase; `0d` is a redundant prefix;
* digits followed by `-` or `:` start a date or a time, checked as such;
* digits with a point or an exponent make a float: whole digits (no leading zero),
  then a fraction, an exponent, or both, and nothing after;
* other digits make a decimal integer, without leading zeros;
* `_` may stand only between two digits of a number;
* `true`, `false`, `inf` and `nan` must be written exactly so;
* anything else should have been a string, and one that ends in quotes lacks only its
  opening quotes.

A number is kept as written until the whole document has been read: only then does it
become a 64-bit value, and one that fits none is a fault of its own.

A bare key holds letters, digits, `-` and `_` and may not be empty; a quoted key is read
as a string, and may not be a multi-line one.
-/

namespace HttpCall.Toml

/-- A fault at a span of the text of a scalar, in positions from the scalar's start. -/
structure ScalarFault where
  start : Nat
  stop : Nat
  message : String
  deriving Repr, Inhabited

/-- The least 64-bit signed integer. -/
def minInt : Int := -(Int.pow 2 63)

/-- The greatest 64-bit signed integer. -/
def maxInt : Int := Int.pow 2 63 - 1

/-- An integer written in a base, as the 64-bit value it denotes or the reason it has
none. Its digits are read from the left, so a number that grows too large is found
before a character that is no digit further on. -/
def integerValue (base : Nat) (text : List Char) : TomlValue :=
  let unreadable (reason : String) : TomlValue := .unreadable "integer" reason
  let rec go (negative : Bool) (acc : Int) : List Char → TomlValue
    | [] => .scalar (.int acc)
    | c :: rest =>
      match hexValue? c with
      | some d =>
        if d < base then
          let acc := if negative then acc * (base : Int) - (d : Int) else acc * (base : Int) + (d : Int)
          if acc < minInt then unreadable "number too small to fit in target type"
          else if acc > maxInt then unreadable "number too large to fit in target type"
          else go negative acc rest
        else unreadable "invalid digit found in string"
      | none => unreadable "invalid digit found in string"
  match text with
  | [] => unreadable "cannot parse integer from empty string"
  | ['+'] | ['-'] => unreadable "invalid digit found in string"
  | '-' :: ds => go true 0 ds
  | '+' :: ds => go false 0 ds
  | ds => go false 0 ds

/-- The value of decimal digits. -/
def decimalValue (ds : List Char) : Nat :=
  ds.foldl (fun acc c => acc * 10 + (c.toNat - 48)) 0

/-- A float whose shape was checked, as the value it denotes, or the reason it has none
when it is too large for every float. -/
def floatValue (text : List Char) : TomlValue :=
  let (negative, body) := match text with
    | '-' :: rest => (true, rest)
    | '+' :: rest => (false, rest)
    | _ => (false, text)
  let (mant, expo) := match body.findIdx? (fun c => c == 'e' || c == 'E') with
    | some k => (body.take k, body.drop (k + 1))
    | none => (body, [])
  let (whole, frac) := match mant.idxOf? '.' with
    | some k => (mant.take k, mant.drop (k + 1))
    | none => (mant, [])
  let e : Int := match expo with
    | '-' :: ds => -(decimalValue ds : Int)
    | '+' :: ds => decimalValue ds
    | ds => decimalValue ds
  match Binary64.ofDecimal negative (decimalValue (whole ++ frac)) (e - frac.length) with
  | .infinite _ => .unreadable "float" "floating-point number overflowed"
  | x => .scalar (.float x)

/-- The fault of a value that should have been a string: one that ends in quotes lacks
its opening quotes, any other its quotes altogether. -/
def unquotedFault (raw : List Char) : ScalarFault :=
  let endsWith (suffix : List Char) := raw.length ≥ suffix.length &&
    raw.drop (raw.length - suffix.length) == suffix
  let missing (quote : String) : ScalarFault :=
    ⟨0, 0, expecting "missing opening quote" ["`" ++ quote ++ "`"]⟩
  if endsWith ['\'', '\'', '\''] then missing "'''"
  else if endsWith ['"', '"', '"'] then missing "\"\"\""
  else if endsWith ['\''] then missing "'"
  else if endsWith ['"'] then missing "\""
  else ⟨0, raw.length, expecting "string values must be quoted" ["literal string"]⟩

/-- The first underscore of `stream` (which starts at `offset` in the scalar) that does
not stand between two digits, as a fault. -/
def underscoreFault (isDigit : Char → Bool) (offset : Nat) (stream : List Char) :
    Option ScalarFault :=
  let between (k : Nat) : Bool :=
    k > 0 && (stream[k - 1]?).any isDigit && (stream[k + 1]?).any isDigit
  ((List.range stream.length).find? fun k => stream[k]? == some '_' && !between k).map
    fun k => ⟨offset + k, offset + k + 1, expecting "`_` may only go between digits" []⟩

/-- Fail with the fault, if there is one. -/
def failWith (f : Option ScalarFault) : Except ScalarFault Unit :=
  match f with
  | some f => .error f
  | none => .ok ()

/-- Check a run of digits and underscores at `offset` of a float, where `what` names
the part: it must hold a digit, and the whole digits no leading zero. The position
after the run. -/
def checkRun (raw : List Char) (offset : Nat) (zeroAllowed : Bool) (what : String) :
    Except ScalarFault Nat :=
  let run := (raw.drop offset).takeWhile fun c => c.isDigit || c == '_'
  let count := (run.filter Char.isDigit).length
  if count = 0 then .error ⟨offset, offset, expecting what ["digits"]⟩
  else if count > 1 && !zeroAllowed && run.head? == some '0' then
    .error ⟨offset, offset + 1, expecting "unexpected leading zero" []⟩
  else .ok (offset + run.length)

/-- Check the shape of a float from position `offset` of the scalar: whole digits, then
a fraction, an exponent, or both, and nothing after. -/
def checkFloat (raw : List Char) (offset : Nat) : Except ScalarFault Unit := do
  let j ← checkRun raw offset false "invalid mantissa"
  let j ← if raw[j]? == some '.' then checkRun raw (j + 1) true "invalid fraction" else pure j
  let j ← if raw[j]? == some 'e' || raw[j]? == some 'E' then
      let k := if raw[j + 1]? == some '+' || raw[j + 1]? == some '-' then j + 2 else j + 1
      checkRun raw k true "invalid exponent"
    else pure j
  if j < raw.length then .error ⟨j, raw.length, expecting "invalid float" []⟩ else pure ()

/-- A word that must be exactly `word`, from position `offset` of the scalar. -/
def readWord (raw : List Char) (offset : Nat) (word kind : String) (value : TomlValue) :
    Except ScalarFault TomlValue :=
  if raw.drop offset == word.toList then .ok value
  else .error ⟨offset, raw.length, expecting ("invalid " ++ kind) ["`" ++ word ++ "`"]⟩

/-- A decimal integer: no leading zero, underscores between digits. -/
def readDecimal (raw : List Char) (offset : Nat) : Except ScalarFault TomlValue := do
  if raw[offset]? == some '0' then
    .error ⟨offset, offset + 1, expecting "unexpected leading zero" []⟩
  else
    failWith (underscoreFault Char.isDigit 0 raw)
    pure (integerValue 10 (raw.filter (· != '_')))

/-- A float: its shape, then its underscores. -/
def readFloat (raw : List Char) (offset : Nat) : Except ScalarFault TomlValue := do
  checkFloat raw offset
  failWith (underscoreFault Char.isDigit 0 raw)
  pure (floatValue (raw.filter (· != '_')))

/-- A value whose digits start at `offset`: a date or time, a float or an integer. -/
def readDigits (raw : List Char) (offset : Nat) : Except ScalarFault TomlValue :=
  let value := raw.drop offset
  let rest := value.dropWhile Char.isDigit
  match rest with
  | [] => readDecimal raw offset
  | c :: _ =>
    if c = '-' ∨ c = ':' then
      match Datetime.normalize raw with
      | .ok text => .ok (.datetime text)
      | .error p => .error ⟨0, raw.length, p.message⟩
    else if rest.contains ' ' then .error (unquotedFault raw)
    else if rest.any fun c => c == '.' || c == 'e' || c == 'E' then readFloat raw offset
    else if c = '_' then readDecimal raw offset
    else .error (unquotedFault raw)

/-- An integer with a prefix at `offset` (the `0`), of a base, named `kind` in faults. -/
def readRadix (raw : List Char) (offset base : Nat) (signed : Bool) (prefixText kind : String) :
    Except ScalarFault TomlValue := do
  if signed then .error ⟨0, 1, expecting "integers with a radix cannot be signed" []⟩
  else if raw[offset + 1]? != prefixText.toList[1]? then
    .error ⟨offset, offset + 2, expecting "radix must be lowercase" ["`" ++ prefixText ++ "`"]⟩
  else
    let digits := raw.drop (offset + 2)
    let isDigit (c : Char) : Bool := ((hexValue? c).filter (· < base)).isSome
    match (List.range digits.length).find? fun k => (digits[k]?).any fun c => !isDigit c && c != '_' with
    | some k => .error ⟨offset + 2 + k, offset + 3 + k, "invalid " ++ kind⟩
    | none =>
      failWith (underscoreFault isDigit (offset + 2) digits)
      pure (integerValue base (digits.filter (· != '_')))

/-- A number whose first character after its signs is at `offset`. -/
def readNumber (raw : List Char) (offset : Nat) (signed : Bool) : Except ScalarFault TomlValue :=
  match raw.drop offset with
  | '0' :: [] => .ok (integerValue 10 (raw.filter (· != '_')))
  | '0' :: r :: _ =>
    if r = 'x' ∨ r = 'X' then readRadix raw offset 16 signed "0x" "hexadecimal number"
    else if r = 'o' ∨ r = 'O' then readRadix raw offset 8 signed "0o" "octal number"
    else if r = 'b' ∨ r = 'B' then readRadix raw offset 2 signed "0b" "binary number"
    else if r = 'd' ∨ r = 'D' then
      .error ⟨offset, offset + 2, expecting "redundant integer number prefix" []⟩
    else readDigits raw offset
  | _ => readDigits raw offset

/-- The value of a scalar after its sign, which ends at `offset`. -/
def readSigned (raw : List Char) (offset : Nat) (negative : Bool) : Except ScalarFault TomlValue :=
  match raw.drop offset with
  | [] => .error (unquotedFault raw)
  | c :: _ =>
    if c = '+' ∨ c = '-' then .error ⟨offset, offset + 1, expecting "redundant numeric sign" []⟩
    else if c.isDigit || c = '_' then readNumber raw offset true
    else if c = '.' then readFloat raw offset
    else if c = 'i' ∨ c = 'I' then readWord raw offset "inf" "float" (.scalar (.float (.infinite negative)))
    else if c = 'n' ∨ c = 'N' then readWord raw offset "nan" "float" (.scalar (.float .nan))
    else .error (unquotedFault raw)

/-- The value of an unquoted scalar. -/
def readScalar (raw : List Char) : Except ScalarFault TomlValue :=
  match raw with
  | [] => .error (unquotedFault raw)
  | c :: _ =>
    if c = '+' then readSigned raw 1 false
    else if c = '-' then readSigned raw 1 true
    else if c.isDigit || c = '_' then readNumber raw 0 false
    else if c = '.' then readFloat raw 0
    else if c = 't' ∨ c = 'T' then readWord raw 0 "true" "boolean" (.scalar (.bool true))
    else if c = 'f' ∨ c = 'F' then readWord raw 0 "false" "boolean" (.scalar (.bool false))
    else if c = 'i' ∨ c = 'I' then readWord raw 0 "inf" "float" (.scalar (.float (.infinite false)))
    else if c = 'n' ∨ c = 'N' then readWord raw 0 "nan" "float" (.scalar (.float .nan))
    else .error (unquotedFault raw)

/-- The value of an unquoted scalar at position `pos` of the text. -/
def decodeScalar (pos : Nat) (raw : List Char) : Except TomlError TomlValue :=
  (readScalar raw).mapError fun f => .spanned (pos + f.start) (pos + f.stop) f.message

/-- Is a character allowed in a bare key? -/
def isBareKeyChar (c : Char) : Bool :=
  ('a' ≤ c && c ≤ 'z') || ('A' ≤ c && c ≤ 'Z') || c.isDigit || c == '_' || c == '-'

/-- The words for what a bare key may hold. -/
def bareKeyChars : List String := ["letters", "numbers", "`-`", "`_`"]

/-- The name a key token at position `pos` stands for. -/
def decodeKey (kind : TokenKind) (pos : Nat) (raw : List Char) : Except TomlError String :=
  let stop := pos + raw.length
  match kind with
  | .basicString | .literalString => decodeString kind pos raw
  | .multilineBasic =>
    fault pos stop (expecting "keys cannot be multi-line basic strings" ["basic string", "literal string"])
  | .multilineLiteral =>
    fault pos stop (expecting "keys cannot be multi-line literal strings" ["basic string", "literal string"])
  | _ =>
    if raw.isEmpty then fault pos pos (expecting "unquoted keys cannot be empty" bareKeyChars)
    else if raw.all isBareKeyChar then .ok (String.ofList raw)
    else fault pos stop (expecting "invalid unquoted key" bareKeyChars)

end HttpCall.Toml
