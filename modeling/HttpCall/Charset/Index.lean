import HttpCall.Text.RangeTable
import HttpCall.Charset.IndexGb18030
import HttpCall.Charset.IndexBig5
import HttpCall.Charset.IndexEucKr
import HttpCall.Charset.IndexJis

/-!
# Encoding indexes

An index of the Encoding Standard maps pointers (numbers computed from the bytes of a
multi-byte sequence) to code points. Decoding reads an index by pointer; encoding reads
it backwards, by code point, and takes the first pointer of a code point unless the
encoding says otherwise. Indexes are read from their compact text once, on first use;
an index holds a fixed number of pointers, rows of the lead bytes it serves.
-/

namespace HttpCall.CharsetIndex

/-- The value of a digit of the compact form and whether the number goes on. -/
def digit? (c : Char) : Option (Nat × Bool) :=
  let n := c.toNat
  if 48 ≤ n ∧ n ≤ 57 then some (n - 48, false)
  else if 97 ≤ n ∧ n ≤ 118 then some (n - 87, false)
  else if 65 ≤ n ∧ n ≤ 90 then some (n - 65, true)
  else if 119 ≤ n ∧ n ≤ 122 then some (n - 93, true)
  else if c = '-' then some (30, true)
  else if c = '_' then some (31, true)
  else none

/-- What reading a compact text has gathered: the number being read, `acc`, to which
the next digit adds `scale` times its value, and the numbers read so far, last first. -/
structure Reading where
  acc : Nat := 0
  scale : Nat := 1
  done : List Nat := []

/-- Read one character of a compact text; a character that is no digit is skipped. -/
def Reading.push (r : Reading) (c : Char) : Reading :=
  match digit? c with
  | some (d, true) => { r with acc := r.acc + d * r.scale, scale := r.scale * 32 }
  | some (d, false) => ⟨0, 1, (r.acc + d * r.scale) :: r.done⟩
  | none => r

/-- The numbers of a compact text. -/
def readNumbers (cs : List Char) : List Nat :=
  (cs.foldl Reading.push {}).done.reverse

/-- A signed difference from its even (up) or odd (down) number. -/
def signed (n : Nat) : Int :=
  if n % 2 = 0 then (n / 2 : Nat) else -(((n + 1) / 2 : Nat) : Int)

/-- The pairs of one run, pushed onto `acc`. -/
def pushRun (acc : Array (Nat × Nat)) (pointer cp : Nat) : Nat → Array (Nat × Nat)
  | 0 => acc
  | n + 1 => pushRun (acc.push (pointer, cp)) (pointer + 1) (cp + 1) n

/-- The pairs of runs; `next` is the pointer after the last run and `last` its last code
point. -/
def expand (acc : Array (Nat × Nat)) (next : Nat) (last : Int) : List Nat → Array (Nat × Nat)
  | gap :: diff :: len :: rest =>
    let pointer := next + gap
    let cp := last + signed diff
    expand (pushRun acc pointer cp.toNat len) (pointer + len) (cp + len - 1) rest
  | _ => acc

/-- An index from the lines of its compact text: pairs of pointer and code point by
pointer. -/
def ofLines (lines : List String) : Array (Nat × Nat) :=
  expand #[] 0 0 (readNumbers (lines.flatMap String.toList))

/-- An index of `size` pointers from the lines of its compact text: the pairs whose
pointer is below `size`. -/
def ofLinesBelow (size : Nat) (lines : List String) : Array (Nat × Nat) :=
  (ofLines lines).filter fun (p, _) => p < size

/-- Pairs of code point and pointer in order of code point, and of pointer for one code
point. -/
def byCodePoint (a b : Nat × Nat) : Bool :=
  a.1 < b.1 || (a.1 == b.1 && a.2 ≤ b.2)

/-- Keep the pair `x` unless the pair kept last has its code point. -/
def keepFirst (kept : List (Nat × Nat)) (x : Nat × Nat) : List (Nat × Nat) :=
  match kept with
  | y :: _ => if y.1 == x.1 then kept else x :: kept
  | [] => [x]

/-- An index read backwards: pairs of code point and pointer by code point, the first
pointer of each code point kept. -/
def backwards (pairs : Array (Nat × Nat)) : Array (Nat × Nat) :=
  let sorted := (pairs.toList.map (fun (p, c) => (c, p))).mergeSort byCodePoint
  (sorted.foldl keepFirst []).reverse.toArray

/-- The gb18030 two-byte index: 126 rows of 190 pointers, one row for each lead byte
from `0x81` to `0xFE`. -/
def gb18030 : Array (Nat × Nat) := ofLinesBelow (126 * 190) gb18030Lines
/-- The gb18030 index by code point. -/
def gb18030Back : Array (Nat × Nat) := backwards gb18030
/-- The gb18030 four-byte ranges by code point. -/
def gb18030RangesBack : Array (Nat × Nat) := gb18030Ranges.map fun (p, c) => (c, p)
/-- The Big5 index: 126 rows of 157 pointers. -/
def big5 : Array (Nat × Nat) := ofLinesBelow (126 * 157) big5Lines
/-- The EUC-KR index: 126 rows of 190 pointers. -/
def eucKr : Array (Nat × Nat) := ofLinesBelow (126 * 190) eucKrLines
/-- The EUC-KR index by code point. -/
def eucKrBack : Array (Nat × Nat) := backwards eucKr
/-- The JIS X 0208 index: the 60 rows of 188 pointers that Shift_JIS reaches, which hold
the 94 rows of 94 that EUC-JP and ISO-2022-JP reach. -/
def jis0208 : Array (Nat × Nat) := ofLinesBelow (60 * 188) jis0208Lines
/-- The JIS X 0208 index by code point, as EUC-JP and ISO-2022-JP write it: from its 94
rows of 94 pointers. The IBM extensions after them (pointers from 10716) hold only code
points that rows 89 to 92 hold too. -/
def jis0208Back : Array (Nat × Nat) := backwards (jis0208.filter fun (p, _) => p < 94 * 94)
/-- The JIS X 0208 index by code point without the rows that Shift_JIS does not write
(pointers 8272 to 8835). -/
def shiftJisBack : Array (Nat × Nat) :=
  backwards (jis0208.filter fun (p, _) => p < 8272 || 8835 < p)
/-- The JIS X 0212 index: 94 rows of 94 pointers. -/
def jis0212 : Array (Nat × Nat) := ofLinesBelow (94 * 94) jis0212Lines
/-- The ISO-2022-JP katakana index, one pointer for each of the 63 half-width katakana. -/
def katakana : Array (Nat × Nat) := ofLinesBelow 63 katakanaLines

/-- The code points whose Big5 pointer is their last one rather than their first. -/
def big5LastPointer : List Nat := [0x2550, 0x255E, 0x2561, 0x256A, 0x5341, 0x5345]

/-- The Big5 index by code point: pointers below `(0xA1 - 0x81) * 157` are not written,
and a few code points take their last pointer. -/
def big5Back : Array (Nat × Nat) :=
  let usable := big5.filter fun (p, _) => (0xA1 - 0x81) * 157 ≤ p
  let firsts := backwards usable
  let lasts := backwards (usable.map fun (p, c) => (1000000 - p, c))
  firsts.map fun (c, p) =>
    if big5LastPointer.contains c then
      match Keyed.find? lasts c with
      | some q => (c, 1000000 - q)
      | none => (c, p)
    else (c, p)

/-- The code point of a pointer in an index. -/
def at? (index : Array (Nat × Nat)) (pointer : Nat) : Option Nat :=
  Keyed.find? index pointer

/-- The code point of a gb18030 four-byte pointer. -/
def rangesCodePoint? (pointer : Nat) : Option Nat :=
  if (39419 < pointer ∧ pointer < 189000) ∨ 1237575 < pointer then none
  else if pointer = 7457 then some 0xE7C7
  else match Keyed.floor? gb18030Ranges pointer with
    | some (p, c) => some (c + (pointer - p))
    | none => none

/-- The gb18030 four-byte pointer of a code point. -/
def rangesPointer (cp : Nat) : Nat :=
  if cp = 0xE7C7 then 7457
  else match Keyed.floor? gb18030RangesBack cp with
    | some (c, p) => p + (cp - c)
    | none => 0

end HttpCall.CharsetIndex
