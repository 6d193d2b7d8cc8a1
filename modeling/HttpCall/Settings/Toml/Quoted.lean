import HttpCall.Settings.Toml.Value
import HttpCall.Settings.Toml.Token

/-!
# Strings of a TOML document

The text of a string token becomes the string it denotes, or the first fault in it.
The quotes come first: a string without its closing quotes is a fault at its end. Then
its characters from left to right:

* a basic string (`"…"`) knows the escapes `\b`, `\t`, `\n`, `\f`, `\r`, `\e`, `\"` and
  `\\`, and `\xHH`, `\uHHHH` and `\UHHHHHHHH` for the character of a code point;
* a literal string (`'…'`) is its characters as they stand;
* a multi-line string (`"""…"""` or `'''…'''`) drops a line break right after its
  opening quotes; in a basic one a backslash at the end of a line drops the break and
  all blanks and breaks after it;
* control characters other than the tab are faults everywhere, and so are line breaks
  in one-line strings (which the tokens never hold) and carriage returns without a line
  feed.

A fault is placed at the character it concerns, in positions of the whole text.
-/

namespace HttpCall.Toml

/-- A fault at a span of the text. -/
def fault {α : Type} (start stop : Nat) (message : String) : Except TomlError α :=
  .error (.spanned start stop message)

/-- The words of a fault with what would have been right there; `nothing` when
nothing would. -/
def expecting (what : String) (expected : List String) : String :=
  what ++ ", expected " ++ (if expected.isEmpty then "nothing" else ", ".intercalate expected)

/-- Is a character a control character, not allowed in strings and comments? -/
def isControl (c : Char) : Bool :=
  (c.toNat < 0x20 && c != '\t') || c.toNat == 0x7F

/-- The value of a hexadecimal digit. -/
def hexValue? (c : Char) : Option Nat :=
  if c.isDigit then some (c.toNat - 48)
  else if 'a' ≤ c && c ≤ 'f' then some (c.toNat - 87)
  else if 'A' ≤ c && c ≤ 'F' then some (c.toNat - 55)
  else none

/-- Is a code point a Unicode scalar value? -/
def isScalar (n : Nat) : Bool := n < 0xD800 || (0xDFFF < n && n ≤ 0x10FFFF)

/-- The escapes that stand for one character. -/
def simpleEscape? : Char → Option Char
  | 'b' => some '\x08'
  | 't' => some '\t'
  | 'n' => some '\n'
  | 'f' => some '\x0c'
  | 'r' => some '\r'
  | 'e' => some '\x1b'
  | '"' => some '"'
  | '\\' => some '\\'
  | _ => none

/-- The number of hexadecimal digits of a code point escape. -/
def codeWidth? : Char → Option Nat
  | 'x' => some 2
  | 'u' => some 4
  | 'U' => some 8
  | _ => none

/-- Read an escape whose letter starts `cs`, at position `pos`: the character and the
characters after the escape. -/
def readEscape (pos : Nat) (cs : List Char) : Except TomlError (Char × List Char) :=
  let missing : Except TomlError (Char × List Char) :=
    fault pos pos (expecting "missing escaped value"
      ["`b`", "`e`", "`f`", "`n`", "`r`", "`\\`", "`\"`", "`x`", "`u`", "`U`"])
  match cs with
  | [] => missing
  | e :: rest =>
    match simpleEscape? e, codeWidth? e with
    | some c, _ => .ok (c, rest)
    | none, some width =>
      let digits := (rest.take width).takeWhile fun c => (hexValue? c).isSome
      if digits.length < width then
        fault (pos + 1 + digits.length) (pos + 1 + digits.length)
          (expecting "too few unicode value digits" ["unicode hexadecimal value"])
      else
        let value := digits.foldl (fun acc c => acc * 16 + (hexValue? c).getD 0) 0
        if isScalar value then .ok (Char.ofNat value, rest.drop width)
        else fault (pos + 1) (pos + 1) (expecting "invalid value" ["unicode hexadecimal value"])
    | none, none => missing

/-- Is a list all blanks up to a line break? Then a backslash before it ends a line. -/
def endsLine (cs : List Char) : Bool :=
  match cs.dropWhile fun c => c == ' ' || c == '\t' with
  | '\n' :: _ => true
  | '\r' :: '\n' :: _ => true
  | _ => false

/-- How to read the characters of a string: whether escapes count, whether line breaks
may stand in it, and the words for a character that may not. -/
structure StringForm where
  escapes : Bool
  multiline : Bool
  invalid : String

/-- Read the characters of a string's body that starts at position `pos`; `acc` holds
the characters so far, reversed, and `fuel` bounds the steps. -/
def readBody (form : StringForm) : Nat → Nat → List Char → List Char → Except TomlError String
  | _, _, acc, [] => .ok (String.ofList acc.reverse)
  | 0, _, acc, _ => .ok (String.ofList acc.reverse)
  | fuel + 1, pos, acc, c :: rest =>
    if form.escapes && c = '\\' then
      if form.multiline && endsLine rest then
        let dropped := rest.dropWhile fun c => c == ' ' || c == '\t' || c == '\n' || c == '\r'
        readBody form fuel (pos + 1 + (rest.length - dropped.length)) acc dropped
      else
        match readEscape (pos + 1) rest with
        | .ok (e, more) => readBody form fuel (pos + 1 + (rest.length - more.length)) (e :: acc) more
        | .error err => .error err
    else if form.multiline && c = '\n' then readBody form fuel (pos + 1) ('\n' :: acc) rest
    else if form.multiline && c = '\r' && rest.head? == some '\n' then
      readBody form fuel (pos + 2) ('\n' :: '\r' :: acc) rest.tail
    else if isControl c then fault pos (pos + 1) form.invalid
    else readBody form fuel (pos + 1) (c :: acc) rest

/-- The body of a multi-line string after its opening quotes: without a line break
right at its start, and with the number of characters dropped. -/
def dropFirstBreak : List Char → List Char × Nat
  | '\n' :: rest => (rest, 1)
  | '\r' :: '\n' :: rest => (rest, 2)
  | cs => (cs, 0)

/-- The string a string token denotes, given its kind, its position and its text. -/
def decodeString (kind : TokenKind) (pos : Nat) (raw : List Char) : Except TomlError String :=
  let stop := pos + raw.length
  let oneLine (quote : Char) (form : StringForm) (unclosed : String) :=
    let body := raw.drop 1
    if body.getLast? == some quote then
      readBody form (body.length + 1) (pos + 1) [] body.dropLast
    else fault stop stop unclosed
  let multi (quote : Char) (form : StringForm) (unclosed : String) :=
    let (body, skipped) := dropFirstBreak (raw.drop 3)
    if body.length ≥ 3 && body.drop (body.length - 3) = [quote, quote, quote] then
      readBody form (body.length + 1) (pos + 3 + skipped) [] (body.take (body.length - 3))
    else fault stop stop unclosed
  match kind with
  | .basicString =>
    oneLine '"' ⟨true, false, expecting "invalid basic string"
        ["non-double-quote visible characters", "`\\`"]⟩
      (expecting "invalid basic string" ["`\"`"])
  | .literalString =>
    oneLine '\'' ⟨false, false, expecting "invalid literal string"
        ["non-single-quote visible characters"]⟩
      (expecting "invalid literal string" ["`'`"])
  | .multilineBasic =>
    multi '"' ⟨true, true, expecting "invalid multi-line basic string" ["`\\`", "characters"]⟩
      (expecting "invalid multi-line basic string" ["`\"`"])
  | _ =>
    multi '\'' ⟨false, true, expecting "invalid multi-line literal string"
        ["non-single-quote characters"]⟩
      (expecting "invalid multi-line literal string" ["`'`"])

end HttpCall.Toml
