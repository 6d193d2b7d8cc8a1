import HttpCall.Charset.SingleByte
import HttpCall.Text.Utf8

/-!
# Decoding

The decoders of the Encoding Standard, without byte order mark handling: each reads
bytes into code points and writes U+FFFD for every error. A decoder is a machine over
one byte at a time; a step emits code points, moves to the next state, and may hand back
bytes to be read again (as when a sequence breaks off at an ASCII byte, which then
stands for itself). At the end of the input an unfinished sequence is one error.

Every byte is read at most four times, so four times the length of the input (and a
little more) bounds the steps.
-/

namespace HttpCall

/-- What a decoder does with one byte, or with the end of the input. -/
structure DecodeStep (σ : Type) where
  out : List Nat
  next : σ
  again : List UInt8 := []

/-- A decoder: its start state, its step on a byte, and its step at the end. -/
structure ByteDecoder (σ : Type) where
  start : σ
  step : σ → Nat → DecodeStep σ
  atEnd : σ → DecodeStep σ

namespace ByteDecoder

variable {σ : Type}

/-- The replacement character, which stands for an error. -/
def err : Nat := 0xFFFD

/-- Run a decoder; `acc` holds the output reversed. -/
def runFrom (d : ByteDecoder σ) : Nat → σ → List UInt8 → List Nat → List Nat
  | 0, _, _, acc => acc.reverse
  | fuel + 1, st, [], acc =>
    let s := d.atEnd st
    if s.again.isEmpty then acc.reverse ++ s.out
    else runFrom d fuel s.next s.again (s.out.reverse ++ acc)
  | fuel + 1, st, b :: rest, acc =>
    let s := d.step st b.toNat
    runFrom d fuel s.next (s.again ++ rest) (s.out.reverse ++ acc)

/-- The code points of a byte string. -/
def run (d : ByteDecoder σ) (bytes : List UInt8) : List Nat :=
  runFrom d (4 * bytes.length + 8) d.start bytes []

end ByteDecoder

namespace Decoders

open ByteDecoder

/-- Is the byte ASCII? -/
def isAscii (b : Nat) : Bool := b < 0x80

/-- The byte again if it is ASCII: a broken sequence gives its ASCII byte back. -/
def againIfAscii (b : Nat) : List UInt8 := if isAscii b then [b.toUInt8] else []

/-- A decoder whose every byte stands alone. -/
def stateless (f : Nat → Option Nat) : ByteDecoder Unit where
  start := ()
  step _ b := ⟨[(f b).getD err], (), []⟩
  atEnd _ := ⟨[], (), []⟩

/-- Decoders with one lead byte pending (0 for none) end with an error if one is. -/
def leadEnd (lead : Nat) : DecodeStep Nat :=
  ⟨if lead = 0 then [] else [err], 0, []⟩

/-- The UTF-16 decoder; the state is the pending byte and the pending lead surrogate. -/
def utf16 (bigEndian : Bool) : ByteDecoder (Option Nat × Option Nat) where
  start := (none, none)
  step st b :=
    match st with
    | (none, surrogate) => ⟨[], (some b, surrogate), []⟩
    | (some first, surrogate) =>
      let unit := if bigEndian then first * 256 + b else b * 256 + first
      match surrogate with
      | some lead =>
        if 0xDC00 ≤ unit ∧ unit ≤ 0xDFFF then
          ⟨[0x10000 + (lead - 0xD800) * 1024 + (unit - 0xDC00)], (none, none), []⟩
        else
          let hi := (unit / 256).toUInt8
          let lo := (unit % 256).toUInt8
          ⟨[err], (none, none), if bigEndian then [hi, lo] else [lo, hi]⟩
      | none =>
        if 0xD800 ≤ unit ∧ unit ≤ 0xDBFF then ⟨[], (none, some unit), []⟩
        else if 0xDC00 ≤ unit ∧ unit ≤ 0xDFFF then ⟨[err], (none, none), []⟩
        else ⟨[unit], (none, none), []⟩
  atEnd st :=
    match st with
    | (none, none) => ⟨[], (none, none), []⟩
    | _ => ⟨[err], (none, none), []⟩

/-- The gb18030 decoder (also for GBK); the state is the first, second and third byte
of a sequence, zero when absent. -/
def gb18030 : ByteDecoder (Nat × Nat × Nat) where
  start := (0, 0, 0)
  step st b :=
    match st with
    | (first, second, third) =>
      if third ≠ 0 then
        if 0x30 ≤ b ∧ b ≤ 0x39 then
          let pointer := (first - 0x81) * 12600 + (second - 0x30) * 1260 + (third - 0x81) * 10 +
            (b - 0x30)
          match CharsetIndex.rangesCodePoint? pointer with
          | some cp => ⟨[cp], (0, 0, 0), []⟩
          | none => ⟨[err], (0, 0, 0), []⟩
        else ⟨[err], (0, 0, 0), [second.toUInt8, third.toUInt8, b.toUInt8]⟩
      else if second ≠ 0 then
        if 0x81 ≤ b ∧ b ≤ 0xFE then ⟨[], (first, second, b), []⟩
        else ⟨[err], (0, 0, 0), [second.toUInt8, b.toUInt8]⟩
      else if first ≠ 0 then
        if 0x30 ≤ b ∧ b ≤ 0x39 then ⟨[], (first, b, 0), []⟩
        else
          let offset := if b < 0x7F then 0x40 else 0x41
          let pointer := if (0x40 ≤ b ∧ b ≤ 0x7E) ∨ (0x80 ≤ b ∧ b ≤ 0xFE) then
            some ((first - 0x81) * 190 + (b - offset)) else none
          match pointer.bind (CharsetIndex.at? CharsetIndex.gb18030) with
          | some cp => ⟨[cp], (0, 0, 0), []⟩
          | none => ⟨[err], (0, 0, 0), againIfAscii b⟩
      else if isAscii b then ⟨[b], (0, 0, 0), []⟩
      else if b = 0x80 then ⟨[0x20AC], (0, 0, 0), []⟩
      else if 0x81 ≤ b ∧ b ≤ 0xFE then ⟨[], (b, 0, 0), []⟩
      else ⟨[err], (0, 0, 0), []⟩
  atEnd st :=
    match st with
    | (0, 0, 0) => ⟨[], (0, 0, 0), []⟩
    | _ => ⟨[err], (0, 0, 0), []⟩

/-- The Big5 decoder; the state is the lead byte. -/
def big5 : ByteDecoder Nat where
  start := 0
  step lead b :=
    if lead ≠ 0 then
      let offset := if b < 0x7F then 0x40 else 0x62
      let pointer := if (0x40 ≤ b ∧ b ≤ 0x7E) ∨ (0xA1 ≤ b ∧ b ≤ 0xFE) then
        some ((lead - 0x81) * 157 + (b - offset)) else none
      match pointer with
      | some 1133 => ⟨[0xCA, 0x304], 0, []⟩
      | some 1135 => ⟨[0xCA, 0x30C], 0, []⟩
      | some 1164 => ⟨[0xEA, 0x304], 0, []⟩
      | some 1166 => ⟨[0xEA, 0x30C], 0, []⟩
      | _ =>
        match pointer.bind (CharsetIndex.at? CharsetIndex.big5) with
        | some cp => ⟨[cp], 0, []⟩
        | none => ⟨[err], 0, againIfAscii b⟩
    else if isAscii b then ⟨[b], 0, []⟩
    else if 0x81 ≤ b ∧ b ≤ 0xFE then ⟨[], b, []⟩
    else ⟨[err], 0, []⟩
  atEnd := leadEnd

/-- The EUC-JP decoder; the state is the lead byte and whether the sequence is of JIS X
0212. -/
def eucJp : ByteDecoder (Nat × Bool) where
  start := (0, false)
  step st b :=
    match st with
    | (lead, jis0212) =>
      if lead = 0x8E ∧ 0xA1 ≤ b ∧ b ≤ 0xDF then ⟨[0xFF61 - 0xA1 + b], (0, false), []⟩
      else if lead = 0x8F ∧ 0xA1 ≤ b ∧ b ≤ 0xFE then ⟨[], (b, true), []⟩
      else if lead ≠ 0 then
        let cp := if 0xA1 ≤ lead ∧ lead ≤ 0xFE ∧ 0xA1 ≤ b ∧ b ≤ 0xFE then
          CharsetIndex.at? (if jis0212 then CharsetIndex.jis0212 else CharsetIndex.jis0208)
            ((lead - 0xA1) * 94 + b - 0xA1)
          else none
        match cp with
        | some c => ⟨[c], (0, false), []⟩
        | none => ⟨[err], (0, false), againIfAscii b⟩
      else if isAscii b then ⟨[b], (0, false), []⟩
      else if b = 0x8E ∨ b = 0x8F ∨ (0xA1 ≤ b ∧ b ≤ 0xFE) then ⟨[], (b, false), []⟩
      else ⟨[err], (0, false), []⟩
  atEnd st :=
    match st with
    | (0, _) => ⟨[], (0, false), []⟩
    | _ => ⟨[err], (0, false), []⟩

/-- The states of the ISO-2022-JP decoder. -/
inductive JisMode where
  | ascii
  | roman
  | katakana
  | leadByte
  | trailByte
  | escapeStart
  | escape
  deriving DecidableEq, Repr, Inhabited

/-- The state of the ISO-2022-JP decoder: the mode, the mode that output returns to, the
lead byte, and whether the last step switched modes without output. -/
structure JisState where
  mode : JisMode := .ascii
  outputMode : JisMode := .ascii
  lead : Nat := 0
  switched : Bool := false
  deriving Inhabited

/-- The ISO-2022-JP decoder. -/
def iso2022Jp : ByteDecoder JisState where
  start := {}
  step st b :=
    let plain (s : JisState) := { s with switched := false }
    match st.mode with
    | .ascii =>
      if b = 0x1B then ⟨[], { st with mode := .escapeStart }, []⟩
      else if b ≤ 0x7F ∧ b ≠ 0x0E ∧ b ≠ 0x0F then ⟨[b], plain st, []⟩
      else ⟨[err], plain st, []⟩
    | .roman =>
      if b = 0x1B then ⟨[], { st with mode := .escapeStart }, []⟩
      else if b = 0x5C then ⟨[0xA5], plain st, []⟩
      else if b = 0x7E then ⟨[0x203E], plain st, []⟩
      else if b ≤ 0x7F ∧ b ≠ 0x0E ∧ b ≠ 0x0F then ⟨[b], plain st, []⟩
      else ⟨[err], plain st, []⟩
    | .katakana =>
      if b = 0x1B then ⟨[], { st with mode := .escapeStart }, []⟩
      else if 0x21 ≤ b ∧ b ≤ 0x5F then ⟨[0xFF61 - 0x21 + b], plain st, []⟩
      else ⟨[err], plain st, []⟩
    | .leadByte =>
      if b = 0x1B then ⟨[], { st with mode := .escapeStart }, []⟩
      else if 0x21 ≤ b ∧ b ≤ 0x7E then ⟨[], { st with switched := false, lead := b, mode := .trailByte }, []⟩
      else ⟨[err], plain st, []⟩
    | .trailByte =>
      if b = 0x1B then ⟨[err], { st with mode := .escapeStart }, []⟩
      else if 0x21 ≤ b ∧ b ≤ 0x7E then
        match CharsetIndex.at? CharsetIndex.jis0208 ((st.lead - 0x21) * 94 + b - 0x21) with
        | some cp => ⟨[cp], { st with mode := .leadByte }, []⟩
        | none => ⟨[err], { st with mode := .leadByte }, []⟩
      else ⟨[err], { st with mode := .leadByte }, []⟩
    | .escapeStart =>
      if b = 0x24 ∨ b = 0x28 then ⟨[], { st with lead := b, mode := .escape }, []⟩
      else ⟨[err], { st with switched := false, mode := st.outputMode }, [b.toUInt8]⟩
    | .escape =>
      let lead := st.lead
      let target : Option JisMode :=
        if lead = 0x28 ∧ b = 0x42 then some .ascii
        else if lead = 0x28 ∧ b = 0x4A then some .roman
        else if lead = 0x28 ∧ b = 0x49 then some .katakana
        else if lead = 0x24 ∧ (b = 0x40 ∨ b = 0x42) then some .leadByte
        else none
      match target with
      | some m =>
        ⟨if st.switched then [err] else [], { mode := m, outputMode := m, lead := 0, switched := true }, []⟩
      | none =>
        ⟨[err], { st with lead := 0, switched := false, mode := st.outputMode },
          [lead.toUInt8, b.toUInt8]⟩
  atEnd st :=
    match st.mode with
    | .trailByte => ⟨[err], { st with mode := .leadByte }, []⟩
    | .escapeStart => ⟨[err], { st with switched := false, mode := st.outputMode }, []⟩
    | .escape =>
      ⟨[err], { st with lead := 0, switched := false, mode := st.outputMode },
        [st.lead.toUInt8]⟩
    | _ => ⟨[], st, []⟩

/-- The Shift_JIS decoder; the state is the lead byte. -/
def shiftJis : ByteDecoder Nat where
  start := 0
  step lead b :=
    if lead ≠ 0 then
      let offset := if b < 0x7F then 0x40 else 0x41
      let leadOffset := if lead < 0xA0 then 0x81 else 0xC1
      let pointer := if (0x40 ≤ b ∧ b ≤ 0x7E) ∨ (0x80 ≤ b ∧ b ≤ 0xFC) then
        some ((lead - leadOffset) * 188 + b - offset) else none
      match pointer with
      | some p =>
        if 8836 ≤ p ∧ p ≤ 10715 then ⟨[0xE000 - 8836 + p], 0, []⟩
        else match CharsetIndex.at? CharsetIndex.jis0208 p with
          | some cp => ⟨[cp], 0, []⟩
          | none => ⟨[err], 0, againIfAscii b⟩
      | none => ⟨[err], 0, againIfAscii b⟩
    else if isAscii b ∨ b = 0x80 then ⟨[b], 0, []⟩
    else if 0xA1 ≤ b ∧ b ≤ 0xDF then ⟨[0xFF61 - 0xA1 + b], 0, []⟩
    else if (0x81 ≤ b ∧ b ≤ 0x9F) ∨ (0xE0 ≤ b ∧ b ≤ 0xFC) then ⟨[], b, []⟩
    else ⟨[err], 0, []⟩
  atEnd := leadEnd

/-- The EUC-KR decoder; the state is the lead byte. -/
def eucKr : ByteDecoder Nat where
  start := 0
  step lead b :=
    if lead ≠ 0 then
      let pointer := if 0x41 ≤ b ∧ b ≤ 0xFE then some ((lead - 0x81) * 190 + (b - 0x41)) else none
      match pointer.bind (CharsetIndex.at? CharsetIndex.eucKr) with
      | some cp => ⟨[cp], 0, []⟩
      | none => ⟨[err], 0, againIfAscii b⟩
    else if isAscii b then ⟨[b], 0, []⟩
    else if 0x81 ≤ b ∧ b ≤ 0xFE then ⟨[], b, []⟩
    else ⟨[err], 0, []⟩
  atEnd := leadEnd

end Decoders

namespace Charset

/-- The code points of bytes in an encoding, each error a U+FFFD; a byte order mark is
read as a character like any other. -/
def decodePoints (cs : Charset) (bytes : List UInt8) : List Nat :=
  match cs with
  | utf8 => Utf8.decodePoints bytes
  | utf16be => (Decoders.utf16 true).run bytes
  | utf16le => (Decoders.utf16 false).run bytes
  | gbk | gb18030 => Decoders.gb18030.run bytes
  | big5 => Decoders.big5.run bytes
  | eucJp => Decoders.eucJp.run bytes
  | iso2022Jp => Decoders.iso2022Jp.run bytes
  | shiftJis => Decoders.shiftJis.run bytes
  | eucKr => Decoders.eucKr.run bytes
  | replacement => if bytes.isEmpty then [] else [0xFFFD]
  | userDefined =>
    (Decoders.stateless fun b => some (if b < 0x80 then b else 0xF780 + b - 0x80)).run bytes
  | cs =>
    let index := cs.upperHalf
    (Decoders.stateless (singleByteDecode index)).run bytes

/-- The text of bytes in an encoding. -/
def decode (cs : Charset) (bytes : List UInt8) : String :=
  Utf8.ofPoints (cs.decodePoints bytes)

end Charset

end HttpCall
