import HttpCall.Json.Value

/-!
# Writing JSON text

A value is written compactly, with no blanks: `null`, `true` and `false`; a number as its
sign, its digits and, when it was not written as an integer, `e` and its power of ten; a
string in double quotes; the items of an array and the members of an object separated by
commas, a member as its key, a colon and its value.

Inside a string the quote and the backslash are written after a backslash, the backspace,
form feed, line feed, carriage return and tab as `\b`, `\f`, `\n`, `\r` and `\t`, and every
other character below U+0020 as `\u00` and two small hexadecimal digits. Every other
character stands for itself.
-/

namespace HttpCall

namespace JsonText

/-- A character as it stands inside a written string. -/
def escapeChar (c : Char) : List Char :=
  match c with
  | '"' => ['\\', '"']
  | '\\' => ['\\', '\\']
  | '\x08' => ['\\', 'b']
  | '\x0c' => ['\\', 'f']
  | '\n' => ['\\', 'n']
  | '\r' => ['\\', 'r']
  | '\t' => ['\\', 't']
  | c =>
    if c.toNat < 0x20 then
      ['\\', 'u', '0', '0', (c.toNat / 16).digitChar, (c.toNat % 16).digitChar]
    else [c]

/-- A string in double quotes, its characters escaped. -/
def quoted (s : String) : List Char :=
  '"' :: s.toList.flatMap escapeChar ++ ['"']

/-- A number: its sign, its digits and, unless it was written as an integer, `e` and its
power of ten. -/
def number (n : JsonNumber) : List Char :=
  (if n.negative then ['-'] else []) ++ Nat.toDigits 10 n.digits ++
    if n.integral then []
    else 'e' :: (if n.exponent < 0 then ['-'] else []) ++ Nat.toDigits 10 n.exponent.natAbs

mutual

/-- The text of a value. -/
def write : JsonValue → List Char
  | .null => ['n', 'u', 'l', 'l']
  | .bool true => ['t', 'r', 'u', 'e']
  | .bool false => ['f', 'a', 'l', 's', 'e']
  | .num n => number n
  | .str s => quoted s
  | .arr [] => ['[', ']']
  | .arr (v :: vs) => '[' :: write v ++ writeItems vs
  | .obj [] => ['{', '}']
  | .obj ((k, v) :: ms) => '{' :: quoted k ++ ':' :: write v ++ writeMembers ms

/-- The items of an array after its first, each after a comma, then the closing bracket. -/
def writeItems : List JsonValue → List Char
  | [] => [']']
  | v :: vs => ',' :: write v ++ writeItems vs

/-- The members of an object after its first, each after a comma, then the closing
brace. -/
def writeMembers : List (String × JsonValue) → List Char
  | [] => ['}']
  | (k, v) :: ms => ',' :: quoted k ++ ':' :: write v ++ writeMembers ms

end

end JsonText

namespace JsonValue

/-- The JSON text of a value. -/
def toText (v : JsonValue) : String :=
  String.ofList (JsonText.write v)

end JsonValue

end HttpCall
