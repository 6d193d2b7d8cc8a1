/-!
# The tokens of a TOML document

Before anything is read for its meaning, a document is cut into tokens: the marks `.`,
`=`, `,`, `[`, `]`, `{` and `}`; runs of blanks (spaces and tabs); comments from `#` to
the line's end; line breaks; the four kinds of strings; and atoms, the runs of other
characters, which hold bare keys, numbers, booleans, dates and times. An end token
closes the list.

Cutting never fails, so that every fault can be reported later with its place:

* an atom stops only at a mark, a blank, `#` or a line break, so `a"b"` is one atom
  (a string with its opening quote left out);
* a comment stops before a carriage return as well as before a line feed;
* a carriage return is a line break of its own when no line feed follows it;
* a one-line string runs to its closing quote, or to the line's end when it has none,
  and in a basic string a backslash takes the character after it along, so that `\"`
  does not close it;
* a multi-line string runs to its first closing triple quote, taking up to two more
  quotes along (they belong to the string), or to the end of the text.

Each step takes at least one character, so the length of the text bounds the steps.
-/

namespace HttpCall.Toml

/-- The kinds of tokens. -/
inductive TokenKind where
  | dot
  | equals
  | comma
  | openBracket
  | closeBracket
  | openBrace
  | closeBrace
  | blank
  | comment
  | newline
  | literalString
  | basicString
  | multilineLiteral
  | multilineBasic
  | atom
  | eof
  deriving DecidableEq, Repr, Inhabited

namespace TokenKind

/-- Is it one of the four kinds of strings? -/
def isString : TokenKind → Bool
  | literalString | basicString | multilineLiteral | multilineBasic => true
  | _ => false

/-- Can a key start with it: a string or an atom? -/
def isKey (k : TokenKind) : Bool := k.isString || k == atom

/-- Is it space between the parts of a document: blanks, comments and line breaks? -/
def isSpace : TokenKind → Bool
  | blank | comment | newline => true
  | _ => false

end TokenKind

/-- A token: its kind, the position (in characters) where it starts, and its text. -/
structure Token where
  kind : TokenKind
  start : Nat
  text : List Char
  deriving DecidableEq, Repr, Inhabited

namespace Token

/-- The position after the token. -/
def stop (t : Token) : Nat := t.start + t.text.length

/-- Does a character end an atom? -/
def endsAtom (c : Char) : Bool :=
  c == '.' || c == '=' || c == ',' || c == '[' || c == ']' || c == '{' || c == '}' ||
    c == ' ' || c == '\t' || c == '#' || c == '\r' || c == '\n'

/-- The length of the rest of a one-line basic string after its opening quote: up to
and with the closing quote, or up to the line's end. -/
def basicLength : List Char → Nat
  | [] => 0
  | '"' :: _ => 1
  | '\n' :: _ => 0
  | '\\' :: _ :: rest => 2 + basicLength rest
  | _ :: rest => 1 + basicLength rest

/-- The length of the rest of a one-line literal string after its opening quote. -/
def literalLength (cs : List Char) : Nat :=
  let body := cs.takeWhile fun c => c != '\'' && c != '\n'
  if (cs.drop body.length).head? == some '\'' then body.length + 1 else body.length

/-- How many of the (at most two) next characters are the quote `q`. -/
def extraQuotes (q : Char) : List Char → Nat
  | a :: b :: _ => if a = q then (if b = q then 2 else 1) else 0
  | [a] => if a = q then 1 else 0
  | [] => 0

/-- The length of the rest of a multi-line string after its opening triple quote `q`:
up to and with the first closing triple quote and up to two quotes after it, or to
the end. In a basic string (`escapes`) a backslash takes the next character along. -/
def multilineLength (q : Char) (escapes : Bool) : List Char → Nat
  | [] => 0
  | c :: rest =>
    if escapes && c = '\\' then
      match rest with
      | [] => 1
      | _ :: more => 2 + multilineLength q escapes more
    else if c = q && rest.take 2 = [q, q] then 3 + extraQuotes q (rest.drop 2)
    else 1 + multilineLength q escapes rest

/-- The kind and the length of the token at the start of a non-empty text. -/
def next (c : Char) (rest : List Char) : TokenKind × Nat :=
  match c with
  | '.' => (.dot, 1)
  | '=' => (.equals, 1)
  | ',' => (.comma, 1)
  | '[' => (.openBracket, 1)
  | ']' => (.closeBracket, 1)
  | '{' => (.openBrace, 1)
  | '}' => (.closeBrace, 1)
  | ' ' | '\t' => (.blank, 1 + (rest.takeWhile fun c => c == ' ' || c == '\t').length)
  | '#' => (.comment, 1 + (rest.takeWhile fun c => c != '\n' && c != '\r').length)
  | '\n' => (.newline, 1)
  | '\r' => (.newline, if rest.head? == some '\n' then 2 else 1)
  | '\'' =>
    if rest.take 2 = ['\'', '\''] then (.multilineLiteral, 3 + multilineLength '\'' false (rest.drop 2))
    else (.literalString, 1 + literalLength rest)
  | '"' =>
    if rest.take 2 = ['"', '"'] then (.multilineBasic, 3 + multilineLength '"' true (rest.drop 2))
    else (.basicString, 1 + basicLength rest)
  | _ => (.atom, 1 + (rest.takeWhile fun c => !endsAtom c).length)

/-- Cut a text that starts at position `pos` into tokens, ending with the end token;
`fuel` bounds the steps. -/
def scanFrom : Nat → Nat → List Char → List Token
  | _, pos, [] => [⟨.eof, pos, []⟩]
  | 0, pos, _ => [⟨.eof, pos, []⟩]
  | fuel + 1, pos, c :: rest =>
    let (kind, length) := next c rest
    let length := max length 1
    let text := (c :: rest).take length
    ⟨kind, pos, text⟩ :: scanFrom fuel (pos + length) ((c :: rest).drop length)

/-- The tokens of a text, after a byte order mark if it starts with one. -/
def scan (cs : List Char) : List Token :=
  match cs with
  | '\uFEFF' :: rest => scanFrom (rest.length + 1) 1 rest
  | _ => scanFrom (cs.length + 1) 0 cs

end Token

end HttpCall.Toml
