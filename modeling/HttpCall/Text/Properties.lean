import HttpCall.Text.RangeTable
import HttpCall.Text.CategoryData
import HttpCall.Text.CombiningClassData
import HttpCall.Text.JoiningData
import HttpCall.Text.BidiData

/-!
# Character properties

The Unicode properties that domain labels, normalization and debugging text read, each
looked up in a table of ranges:

* classes by general category: marks, which may not begin a domain label; characters
  that extend a grapheme cluster; and characters with no glyph of their own;
* the canonical combining class, which orders combining marks in normalization (class
  zero marks a starter, a virama has class nine);
* the joining type of a character of a cursive script, which the contextual rule for the
  zero width non-joiner reads: the non-joiner must stand between a character that joins
  to the left and one that joins to the right, with only transparent characters around it;
* the bidirectional class of the Unicode Bidirectional Algorithm, which the rules for
  right-to-left domain labels read; a code point that the table does not hold is
  left-to-right.

Debugging output, last, writes a string in double quotes with escapes: `\0`, `\t`, `\r`,
`\n`, `\\` and `\"` for those characters, and `\u` with the code point in small
hexadecimal digits between curly brackets for every character that extends a grapheme
cluster or has no glyph of its own. Every other character, the single quote included, is
written as it is.
-/

namespace HttpCall

/-! ## Classes by general category -/

namespace Category

/-- The marks. -/
def markTable : RangeTable Unit := RangeTable.setOfText markText

/-- The characters that extend a grapheme cluster. -/
def graphemeExtendTable : RangeTable Unit := RangeTable.setOfText graphemeExtendText

/-- The characters without a glyph of their own. -/
def unprintableTable : RangeTable Unit := RangeTable.setOfText unprintableText

/-- Is the code point a mark (general category M)? -/
def isMark (cp : Nat) : Bool := markTable.contains cp

/-- Does the character extend the grapheme cluster before it? -/
def isGraphemeExtend (cp : Nat) : Bool := graphemeExtendTable.contains cp

/-- Does the character have a glyph, or is it the space? -/
def isPrintable (cp : Nat) : Bool := !unprintableTable.contains cp

end Category

/-! ## Canonical combining classes -/

namespace CombiningClass

/-- The ranges of code points with a nonzero class. -/
def table : RangeTable Nat :=
  RangeTable.ofText RangeTable.readHex? rangeText

/-- The canonical combining class of a code point. -/
def of (cp : Nat) : Nat :=
  (table.find? cp).getD 0

/-- Is the code point a virama, a mark that kills the vowel of the letter before it? -/
def isVirama (cp : Nat) : Bool :=
  of cp == 9

end CombiningClass

/-! ## Joining types -/

/-- The joining type of a character. -/
inductive JoiningType where
  | joinCausing
  | dualJoining
  | leftJoining
  | rightJoining
  | transparent
  | nonJoining
  deriving DecidableEq, Repr, Inhabited

namespace JoiningType

/-- The type a one-letter code denotes. -/
def ofCode? : String → Option JoiningType
  | "C" => some joinCausing
  | "D" => some dualJoining
  | "L" => some leftJoining
  | "R" => some rightJoining
  | "T" => some transparent
  | _ => none

/-- The ranges of joining code points. -/
def table : RangeTable JoiningType :=
  RangeTable.ofText ofCode? rangeText

/-- The joining type of a code point. -/
def of (cp : Nat) : JoiningType :=
  (table.find? cp).getD nonJoining

end JoiningType

/-! ## Bidirectional classes -/

/-- The bidirectional class of a character. -/
inductive BidiClass where
  | leftToRight
  | rightToLeft
  | arabicLetter
  | europeanNumber
  | europeanSeparator
  | europeanTerminator
  | arabicNumber
  | commonSeparator
  | nonspacingMark
  | boundaryNeutral
  | paragraphSeparator
  | segmentSeparator
  | whiteSpace
  | otherNeutral
  | explicitFormatting
  deriving DecidableEq, Repr, Inhabited

namespace BidiClass

/-- The class a short name denotes; the embedding, override and isolate controls are
explicit formatting. -/
def ofCode? : String → Option BidiClass
  | "L" => some leftToRight
  | "R" => some rightToLeft
  | "AL" => some arabicLetter
  | "EN" => some europeanNumber
  | "ES" => some europeanSeparator
  | "ET" => some europeanTerminator
  | "AN" => some arabicNumber
  | "CS" => some commonSeparator
  | "NSM" => some nonspacingMark
  | "BN" => some boundaryNeutral
  | "B" => some paragraphSeparator
  | "S" => some segmentSeparator
  | "WS" => some whiteSpace
  | "ON" => some otherNeutral
  | "LRE" | "LRO" | "RLE" | "RLO" | "PDF" | "LRI" | "RLI" | "FSI" | "PDI" =>
    some explicitFormatting
  | _ => none

/-- The ranges of code points that are not left-to-right. -/
def table : RangeTable BidiClass :=
  RangeTable.ofText ofCode? rangeText

/-- The class of a code point. -/
def of (cp : Nat) : BidiClass :=
  (table.find? cp).getD leftToRight

end BidiClass

/-! ## Escaped text for debugging -/

namespace Escaped

/-- The escape of one character. -/
def escapeChar (c : Char) : String :=
  match c with
  | '\x00' => "\\0"
  | '\t' => "\\t"
  | '\r' => "\\r"
  | '\n' => "\\n"
  | '\\' => "\\\\"
  | '"' => "\\\""
  | _ =>
    if Category.isGraphemeExtend c.toNat || !Category.isPrintable c.toNat then
      "\\u\x7b" ++ String.ofList (Nat.toDigits 16 c.toNat) ++ "\x7d"
    else c.toString

/-- A string in double quotes with its characters escaped. -/
def quote (s : String) : String :=
  "\"" ++ String.join (s.toList.map escapeChar) ++ "\""

/-- An optional string as debugging output writes it: `Some("...")` or `None`. -/
def optionQuote : Option String → String
  | some s => "Some(" ++ quote s ++ ")"
  | none => "None"

end Escaped

end HttpCall
