/-!
# Blank characters

Media types are trimmed of Unicode white space (the `White_Space` property: the ASCII
blanks, NEL, no-break space, the Ogham mark, the typographic spaces, the line and
paragraph separators and the ideographic space), while charset labels and URLs trim
narrower ASCII sets. Each set is a predicate here, and `trimBy` removes a predicate's
characters from both ends of a text.
-/

namespace HttpCall.Blank

/-- The Unicode `White_Space` property. -/
def isUnicodeBlank (c : Char) : Bool :=
  let n := c.toNat
  (0x09 ≤ n && n ≤ 0x0D) || n == 0x20 || n == 0x85 || n == 0xA0 || n == 0x1680 ||
    (0x2000 ≤ n && n ≤ 0x200A) || n == 0x2028 || n == 0x2029 || n == 0x202F ||
    n == 0x205F || n == 0x3000

/-- The ASCII white space of the web standards: tab, line feed, form feed, carriage
return and space. -/
def isAsciiBlank (c : Char) : Bool :=
  c == '\t' || c == '\n' || c == '\x0c' || c == '\r' || c == ' '

/-- A C0 control character or the space: what URL parsing strips from both ends. -/
def isControlOrSpace (c : Char) : Bool :=
  c.toNat ≤ 0x20

/-- The characters with both ends' members of `p` removed. -/
def trimListBy (p : Char → Bool) (cs : List Char) : List Char :=
  ((cs.dropWhile p).reverse.dropWhile p).reverse

/-- The text with both ends' members of `p` removed. -/
def trimBy (p : Char → Bool) (s : String) : String :=
  String.ofList (trimListBy p s.toList)

/-- Trimming of Unicode white space. -/
def trim (s : String) : String :=
  trimBy isUnicodeBlank s

end HttpCall.Blank
