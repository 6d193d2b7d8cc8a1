import HttpCall.Json.Value

/-!
# Reading JSON text

A JSON text (RFC 8259) is read into a value. Blanks (space, tab, line feed and carriage
return) may stand around every token. Strings know the escapes `\"`, `\\`, `\/`, `\b`,
`\f`, `\n`, `\r`, `\t` and `\uXXXX`, where a high and a low surrogate written one after
the other make one character and a surrogate on its own stands for U+FFFD. A number is
an optional minus, an integer part without leading zeros, an optional fraction and an
optional exponent, and is kept as written.

Each step of the reader consumes at least one character, so the length of the text
bounds the steps.
-/

namespace HttpCall.JsonText

/-- Is a character a JSON blank? -/
def isBlank (c : Char) : Bool := c == ' ' || c == '\t' || c == '\n' || c == '\r'

/-- The value of four hexadecimal digits. -/
def hex4? (a b c d : Char) : Option Nat :=
  let digit (x : Char) : Option Nat :=
    if x.isDigit then some (x.toNat - 48)
    else if 'a' ≤ x && x ≤ 'f' then some (x.toNat - 87)
    else if 'A' ≤ x && x ≤ 'F' then some (x.toNat - 55)
    else none
  return (← digit a) * 4096 + (← digit b) * 256 + (← digit c) * 16 + (← digit d)

/-- The character of one escaped UTF-16 unit: a surrogate on its own stands for U+FFFD. -/
def unit (n : Nat) : Char :=
  if 0xD800 ≤ n ∧ n < 0xE000 then '\uFFFD' else Char.ofNat n

/-- Read the rest of a string after its opening quote; `acc` holds the characters so
far, reversed, and `fuel` bounds the steps. -/
def readQuoted : Nat → List Char → List Char → Option (String × List Char)
  | 0, _, _ => none
  | _ + 1, _, [] => none
  | _ + 1, acc, '"' :: rest => some (String.ofList acc.reverse, rest)
  | fuel + 1, acc, '\\' :: 'u' :: a :: b :: c :: d :: rest =>
    match hex4? a b c d, rest with
    | some hi, '\\' :: 'u' :: e :: f :: g :: h :: more =>
      match hex4? e f g h with
      | some lo =>
        if 0xD800 ≤ hi ∧ hi < 0xDC00 ∧ 0xDC00 ≤ lo ∧ lo < 0xE000 then
          readQuoted fuel (Char.ofNat (0x10000 + (hi - 0xD800) * 1024 + (lo - 0xDC00)) :: acc) more
        else readQuoted fuel (unit hi :: acc) rest
      | none => readQuoted fuel (unit hi :: acc) rest
    | some hi, _ => readQuoted fuel (unit hi :: acc) rest
    | none, _ => none
  | fuel + 1, acc, '\\' :: e :: rest =>
    let c? : Option Char := match e with
      | '"' => some '"'
      | '\\' => some '\\'
      | '/' => some '/'
      | 'b' => some '\x08'
      | 'f' => some '\x0c'
      | 'n' => some '\n'
      | 'r' => some '\r'
      | 't' => some '\t'
      | _ => none
    match c? with
    | some c => readQuoted fuel (c :: acc) rest
    | none => none
  | fuel + 1, acc, c :: rest => if c.toNat < 0x20 then none else readQuoted fuel (c :: acc) rest

/-- The value of decimal digits. -/
def digitsValue (ds : List Char) : Nat :=
  ds.foldl (fun acc c => acc * 10 + (c.toNat - 48)) 0

/-- Read a number. -/
def readNumber (cs : List Char) : Option (JsonNumber × List Char) :=
  let (negative, cs) := match cs with
    | '-' :: rest => (true, rest)
    | _ => (false, cs)
  let whole := cs.takeWhile Char.isDigit
  let cs := cs.drop whole.length
  let (frac, hasFrac, cs) := match cs with
    | '.' :: rest => let f := rest.takeWhile Char.isDigit; (f, true, rest.drop f.length)
    | _ => ([], false, cs)
  let (expNegative, expDigits, hasExp, cs) := match cs with
    | 'e' :: rest | 'E' :: rest =>
      let (neg, rest) := match rest with
        | '-' :: r => (true, r)
        | '+' :: r => (false, r)
        | r => (false, r)
      let ds := rest.takeWhile Char.isDigit
      (neg, ds, true, rest.drop ds.length)
    | _ => (false, [], false, cs)
  if whole.isEmpty || (whole.length > 1 && whole.head? == some '0') ||
      (hasFrac && frac.isEmpty) || (hasExp && expDigits.isEmpty) then none
  else
    let e : Int := if expNegative then -(digitsValue expDigits : Int) else digitsValue expDigits
    some (⟨negative, digitsValue (whole ++ frac), e - frac.length, !hasFrac && !hasExp⟩, cs)

mutual

/-- Read a value after blanks; `fuel` bounds the steps. -/
def readValue : Nat → List Char → Option (JsonValue × List Char)
  | 0, _ => none
  | fuel + 1, cs =>
    match cs.dropWhile isBlank with
    | '{' :: rest => readMembers fuel true rest []
    | '[' :: rest => readItems fuel true rest []
    | '"' :: rest => (readQuoted (rest.length + 1) [] rest).map fun (s, r) => (.str s, r)
    | 't' :: 'r' :: 'u' :: 'e' :: rest => some (.bool true, rest)
    | 'f' :: 'a' :: 'l' :: 's' :: 'e' :: rest => some (.bool false, rest)
    | 'n' :: 'u' :: 'l' :: 'l' :: rest => some (.null, rest)
    | cs => (readNumber cs).map fun (n, r) => (.num n, r)

/-- Read the items of an array after its opening bracket or a comma; `first` when no
item has been read. `acc` holds the items so far, reversed. -/
def readItems : Nat → Bool → List Char → List JsonValue → Option (JsonValue × List Char)
  | 0, _, _, _ => none
  | fuel + 1, first, cs, acc =>
    match first, cs.dropWhile isBlank with
    | true, ']' :: rest => some (.arr [], rest)
    | _, cs =>
      match readValue fuel cs with
      | none => none
      | some (v, rest) =>
        match rest.dropWhile isBlank with
        | ',' :: more => readItems fuel false more (v :: acc)
        | ']' :: more => some (.arr (v :: acc).reverse, more)
        | _ => none

/-- Read the members of an object after its opening brace or a comma; `first` when no
member has been read. `acc` holds the members so far, reversed. -/
def readMembers : Nat → Bool → List Char → List (String × JsonValue) →
    Option (JsonValue × List Char)
  | 0, _, _, _ => none
  | fuel + 1, first, cs, acc =>
    match first, cs.dropWhile isBlank with
    | true, '}' :: rest => some (.obj [], rest)
    | _, '"' :: rest =>
      match readQuoted (rest.length + 1) [] rest with
      | none => none
      | some (key, rest) =>
        match rest.dropWhile isBlank with
        | ':' :: rest =>
          match readValue fuel rest with
          | none => none
          | some (v, rest) =>
            match rest.dropWhile isBlank with
            | ',' :: more => readMembers fuel false more ((key, v) :: acc)
            | '}' :: more => some (.obj ((key, v) :: acc).reverse, more)
            | _ => none
        | _ => none
    | _, _ => none

end

end HttpCall.JsonText

namespace HttpCall.JsonValue

/-- The value a JSON text denotes, if it is one. -/
def ofText? (text : String) : Option JsonValue :=
  let cs := text.toList
  match JsonText.readValue (cs.length + 1) cs with
  | some (v, rest) => if (rest.dropWhile JsonText.isBlank).isEmpty then some v else none
  | none => none

end HttpCall.JsonValue
