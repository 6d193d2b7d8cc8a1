import HttpCall.Charset.SingleByte
import HttpCall.Text.Utf8

/-!
# Encoding

The encoders of the Encoding Standard in their HTML error mode: a character that the
encoding cannot write becomes the decimal character reference `&#N;`. UTF-16 and the
replacement encoding write UTF-8, which is their output encoding.

Every encoder except ISO-2022-JP keeps no state between characters, so it is a map from a
code point to bytes or to an error. The ISO-2022-JP encoder remembers which character set
its last escape sequence selected, writes an escape whenever a character needs another
one, and returns to ASCII at the end of the text, and from JIS X 0208 before a character
reference.
-/

namespace HttpCall

namespace Encoders

/-- The decimal character reference of a code point. -/
def reference (cp : Nat) : List UInt8 :=
  ("&#" ++ toString cp ++ ";").toList.map (·.toNat.toUInt8)

/-- A code point's bytes, or the reference that stands for it. -/
def orReference (cp : Nat) : Option (List Nat) → List UInt8
  | some bytes => bytes.map (·.toUInt8)
  | none => reference cp

/-- The bytes of a text in an encoding without state. -/
def stateless (f : Nat → Option (List Nat)) (cps : List Nat) : List UInt8 :=
  cps.flatMap fun cp => orReference cp (f cp)

/-- A code point in a single-byte encoding. -/
def singleByte (back : Array (Nat × Nat)) (cp : Nat) : Option (List Nat) :=
  (Charset.singleByteEncode back cp).map ([·])

/-- The private-use code points that earlier editions of GB 18030 gave to eighteen
two-byte codes, which now stand for standard characters (vertical punctuation and CJK
components). They are still written as those codes. -/
def gb18030Legacy : List (Nat × List Nat) :=
  [(0xE78D, [0xA6, 0xD9]), (0xE78E, [0xA6, 0xDA]), (0xE78F, [0xA6, 0xDB]),
    (0xE790, [0xA6, 0xDC]), (0xE791, [0xA6, 0xDD]), (0xE792, [0xA6, 0xDE]),
    (0xE793, [0xA6, 0xDF]), (0xE794, [0xA6, 0xEC]), (0xE795, [0xA6, 0xED]),
    (0xE796, [0xA6, 0xF3]), (0xE81E, [0xFE, 0x59]), (0xE826, [0xFE, 0x61]),
    (0xE82B, [0xFE, 0x66]), (0xE82C, [0xFE, 0x67]), (0xE832, [0xFE, 0x6D]),
    (0xE843, [0xFE, 0x7E]), (0xE854, [0xFE, 0x90]), (0xE864, [0xFE, 0xA0])]

/-- A code point in gb18030, or in GBK when `gbk` is set, which has no four-byte form and
writes the euro sign as the single byte `0x80`. -/
def gb18030 (gbk : Bool) (cp : Nat) : Option (List Nat) :=
  if cp < 0x80 then some [cp]
  else if cp = 0xE5E5 then none
  else if gbk ∧ cp = 0x20AC then some [0x80]
  else match gb18030Legacy.lookup cp with
  | some bytes => some bytes
  | none =>
  match Keyed.find? CharsetIndex.gb18030Back cp with
    | some p =>
      let trail := p % 190
      some [p / 190 + 0x81, trail + (if trail < 0x3F then 0x40 else 0x41)]
    | none =>
      if gbk then none
      else
        let p := CharsetIndex.rangesPointer cp
        some [p / 12600 + 0x81, p % 12600 / 1260 + 0x30, p % 1260 / 10 + 0x81, p % 10 + 0x30]

/-- A code point in Big5. -/
def big5 (cp : Nat) : Option (List Nat) :=
  if cp < 0x80 then some [cp]
  else (Keyed.find? CharsetIndex.big5Back cp).map fun p =>
    let trail := p % 157
    [p / 157 + 0x81, trail + (if trail < 0x3F then 0x40 else 0x62)]

/-- The JIS X 0208 form of a code point that has no form of its own in an encoding:
the minus sign is written as the fullwidth hyphen-minus. -/
def jisPoint (cp : Nat) : Nat :=
  if cp = 0x2212 then 0xFF0D else cp

/-- A code point in EUC-JP. -/
def eucJp (cp : Nat) : Option (List Nat) :=
  if cp < 0x80 then some [cp]
  else if cp = 0xA5 then some [0x5C]
  else if cp = 0x203E then some [0x7E]
  else if 0xFF61 ≤ cp ∧ cp ≤ 0xFF9F then some [0x8E, cp - 0xFF61 + 0xA1]
  else (Keyed.find? CharsetIndex.jis0208Back (jisPoint cp)).map fun p =>
    [p / 94 + 0xA1, p % 94 + 0xA1]

/-- A code point in Shift_JIS. -/
def shiftJis (cp : Nat) : Option (List Nat) :=
  if cp ≤ 0x80 then some [cp]
  else if cp = 0xA5 then some [0x5C]
  else if cp = 0x203E then some [0x7E]
  else if 0xFF61 ≤ cp ∧ cp ≤ 0xFF9F then some [cp - 0xFF61 + 0xA1]
  else (Keyed.find? CharsetIndex.shiftJisBack (jisPoint cp)).map fun p =>
    let lead := p / 188
    let trail := p % 188
    [lead + (if lead < 0x1F then 0x81 else 0xC1), trail + (if trail < 0x3F then 0x40 else 0x41)]

/-- A code point in EUC-KR. -/
def eucKr (cp : Nat) : Option (List Nat) :=
  if cp < 0x80 then some [cp]
  else (Keyed.find? CharsetIndex.eucKrBack cp).map fun p => [p / 190 + 0x81, p % 190 + 0x41]

/-- A code point in x-user-defined, which gives bytes `0x80` to `0xFF` the code points
from U+F780. -/
def userDefined (cp : Nat) : Option (List Nat) :=
  if cp < 0x80 then some [cp]
  else if 0xF780 ≤ cp ∧ cp ≤ 0xF7FF then some [cp - 0xF780 + 0x80]
  else none

/-- The character sets that ISO-2022-JP switches between. -/
inductive JisSet where
  | ascii
  | roman
  | jis0208
  deriving DecidableEq, Repr, Inhabited

/-- The escape sequence that selects a character set. -/
def JisSet.escape : JisSet → List UInt8
  | .ascii => [0x1B, 0x28, 0x42]
  | .roman => [0x1B, 0x28, 0x4A]
  | .jis0208 => [0x1B, 0x24, 0x42]

/-- What ISO-2022-JP does with a code point: select a character set if `set` says so, then
write bytes in it, or fail. -/
inductive JisWrite where
  | bytes (set : Option JisSet) (out : List Nat)
  | error (set : Option JisSet) (cp : Nat)

/-- Where a code point goes in ISO-2022-JP from the set `cur`: `bytes none` when the
current set writes it, `bytes (some s)` when set `s` must be selected first. The shift
and escape controls are never written: they fail as the replacement character, after a
return to ASCII from JIS X 0208. A character that no set writes fails in the current set,
except in JIS X 0208, which is left for ASCII first, so that the reference reads as
text; Roman writes the reference's characters as ASCII does. -/
def jisWrite (cur : JisSet) (cp : Nat) : JisWrite :=
  let leave := if cur = .jis0208 then some JisSet.ascii else none
  if cp = 0x0E ∨ cp = 0x0F ∨ cp = 0x1B then .error leave 0xFFFD
  else if cp < 0x80 then
    if cur = .ascii ∨ (cur = .roman ∧ cp ≠ 0x5C ∧ cp ≠ 0x7E) then .bytes none [cp]
    else .bytes (some .ascii) [cp]
  else if cp = 0xA5 ∨ cp = 0x203E then
    .bytes (if cur = .roman then none else some .roman) [if cp = 0xA5 then 0x5C else 0x7E]
  else
    let cp := jisPoint cp
    let cp := if 0xFF61 ≤ cp ∧ cp ≤ 0xFF9F then
      (CharsetIndex.at? CharsetIndex.katakana (cp - 0xFF61)).getD cp else cp
    match Keyed.find? CharsetIndex.jis0208Back cp with
    | some p =>
      .bytes (if cur = .jis0208 then none else some .jis0208) [p / 94 + 0x21, p % 94 + 0x21]
    | none => .error leave cp

/-- The escape that selects `s`, if one is asked for. -/
def JisSet.select : Option JisSet → List UInt8
  | some s => s.escape
  | none => []

/-- The ISO-2022-JP bytes of code points from the set `cur`, reversed onto `acc`. -/
def iso2022JpFrom (cur : JisSet) (acc : List UInt8) : List Nat → List UInt8
  | [] => (if cur = .ascii then acc else (JisSet.escape .ascii).reverse ++ acc).reverse
  | cp :: rest =>
    match jisWrite cur cp with
    | .bytes set out =>
      iso2022JpFrom (set.getD cur) ((out.map (·.toUInt8)).reverse ++ (JisSet.select set).reverse ++ acc) rest
    | .error set bad =>
      iso2022JpFrom (set.getD cur) ((reference bad).reverse ++ (JisSet.select set).reverse ++ acc) rest

/-- The ISO-2022-JP bytes of code points. -/
def iso2022Jp (cps : List Nat) : List UInt8 :=
  iso2022JpFrom .ascii [] cps

end Encoders

namespace Charset

/-- The bytes of code points in an encoding, each character it cannot write given as a
decimal character reference. -/
def encodePoints (cs : Charset) (cps : List Nat) : List UInt8 :=
  match cs.outputEncoding with
  | utf8 => Utf8.encodePoints cps
  | gbk => Encoders.stateless (Encoders.gb18030 true) cps
  | gb18030 => Encoders.stateless (Encoders.gb18030 false) cps
  | big5 => Encoders.stateless Encoders.big5 cps
  | eucJp => Encoders.stateless Encoders.eucJp cps
  | iso2022Jp => Encoders.iso2022Jp cps
  | shiftJis => Encoders.stateless Encoders.shiftJis cps
  | eucKr => Encoders.stateless Encoders.eucKr cps
  | userDefined => Encoders.stateless Encoders.userDefined cps
  | cs =>
    let back := CharsetIndex.backwards cs.upperHalf
    Encoders.stateless (Encoders.singleByte back) cps

/-- The bytes of a text in an encoding. -/
def encode (cs : Charset) (s : String) : List UInt8 :=
  cs.encodePoints (s.toList.map (·.toNat))

end Charset

end HttpCall
