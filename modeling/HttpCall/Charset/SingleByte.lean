import HttpCall.Charset.Basic
import HttpCall.Charset.Index
import HttpCall.Charset.IndexSingleByte

/-!
# Single-byte encodings

A single-byte encoding keeps ASCII and maps each byte from `0x80` to `0xFF` through its
index to a code point, or to nothing. Encoding reads the index backwards.
-/

namespace HttpCall.Charset

open CharsetIndex in
/-- The lines of the compact index of the upper half of a single-byte encoding. -/
def upperHalfLines? : Charset → Option (List String)
  | ibm866 => some ibm866Lines
  | iso8859n2 => some iso8859n2Lines
  | iso8859n3 => some iso8859n3Lines
  | iso8859n4 => some iso8859n4Lines
  | iso8859n5 => some iso8859n5Lines
  | iso8859n6 => some iso8859n6Lines
  | iso8859n7 => some iso8859n7Lines
  | iso8859n8 | iso8859n8i => some iso8859n8Lines
  | iso8859n10 => some iso8859n10Lines
  | iso8859n13 => some iso8859n13Lines
  | iso8859n14 => some iso8859n14Lines
  | iso8859n15 => some iso8859n15Lines
  | iso8859n16 => some iso8859n16Lines
  | koi8r => some koi8RLines
  | koi8u => some koi8ULines
  | macintosh => some macintoshLines
  | windows874 => some windows874Lines
  | windows1250 => some windows1250Lines
  | windows1251 => some windows1251Lines
  | windows1252 => some windows1252Lines
  | windows1253 => some windows1253Lines
  | windows1254 => some windows1254Lines
  | windows1255 => some windows1255Lines
  | windows1256 => some windows1256Lines
  | windows1257 => some windows1257Lines
  | windows1258 => some windows1258Lines
  | macCyrillic => some xMacCyrillicLines
  | _ => none

/-- The index of a single-byte encoding: pointer `byte - 0x80` to code point, for the 128
bytes of the upper half. -/
def upperHalf (cs : Charset) : Array (Nat × Nat) :=
  match cs.upperHalfLines? with
  | some lines => CharsetIndex.ofLinesBelow 128 lines
  | none => #[]

/-- Is the encoding a single-byte one? -/
def isSingleByte (cs : Charset) : Bool :=
  cs.upperHalfLines?.isSome

/-- The code point of a byte, if it has one. -/
def singleByteDecode (index : Array (Nat × Nat)) (b : Nat) : Option Nat :=
  if b < 0x80 then some b else CharsetIndex.at? index (b - 0x80)

/-- The byte of a code point, if it has one. -/
def singleByteEncode (back : Array (Nat × Nat)) (cp : Nat) : Option Nat :=
  if cp < 0x80 then some cp else (Keyed.find? back cp).map (· + 0x80)

end HttpCall.Charset
