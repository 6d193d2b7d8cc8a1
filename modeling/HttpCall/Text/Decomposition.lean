import HttpCall.Text.RangeTable
import HttpCall.Text.DecompositionData

/-!
# Canonical decomposition and composition

Each code point has a full canonical decomposition: the table's entry, Hangul syllables
split by arithmetic into their leading consonant, vowel and optional trailing
consonant, and every other point itself. Two points compose when the table lists their
pair as a primary composite, or when they form a Hangul syllable.
-/

namespace HttpCall.Decomposition

/-- Full decompositions keyed by the decomposed point. -/
def decompositions : Array (Nat × List Nat) :=
  ((RangeTable.fieldsOf decompositionText).filterMap fun
    | [cp, pts] => do pure (← RangeTable.readHex? cp, ← RangeTable.readPoints? pts)
    | _ => none).toArray

/-- The key of a pair of code points: both fit in 21 bits. -/
def pairKey (a b : Nat) : Nat := a * 0x200000 + b

/-- Primary composites keyed by their pair. -/
def compositions : Array (Nat × Nat) :=
  ((RangeTable.fieldsOf compositionText).filterMap fun
    | [a, b, c] => do pure (pairKey (← RangeTable.readHex? a) (← RangeTable.readHex? b),
        ← RangeTable.readHex? c)
    | _ => none).toArray

/-- The first Hangul syllable. -/
def sBase : Nat := 0xAC00
/-- The first leading consonant jamo. -/
def lBase : Nat := 0x1100
/-- The first vowel jamo. -/
def vBase : Nat := 0x1161
/-- One before the first trailing consonant jamo. -/
def tBase : Nat := 0x11A7
/-- The number of leading consonants. -/
def lCount : Nat := 19
/-- The number of vowels. -/
def vCount : Nat := 21
/-- The number of trailing consonants, the absent one included. -/
def tCount : Nat := 28
/-- The number of syllables for each leading consonant. -/
def nCount : Nat := vCount * tCount
/-- The number of Hangul syllables. -/
def sCount : Nat := lCount * nCount

/-- The full canonical decomposition of a code point. -/
def full (cp : Nat) : List Nat :=
  if sBase ≤ cp ∧ cp < sBase + sCount then
    let s := cp - sBase
    let l := lBase + s / nCount
    let v := vBase + (s % nCount) / tCount
    let t := s % tCount
    if t = 0 then [l, v] else [l, v, tBase + t]
  else (Keyed.find? decompositions cp).getD [cp]

/-- The primary composite of two code points, if they have one. -/
def compose? (a b : Nat) : Option Nat :=
  if lBase ≤ a ∧ a < lBase + lCount ∧ vBase ≤ b ∧ b < vBase + vCount then
    some (sBase + ((a - lBase) * vCount + (b - vBase)) * tCount)
  else if sBase ≤ a ∧ a < sBase + sCount ∧ (a - sBase) % tCount = 0 ∧
      tBase < b ∧ b < tBase + tCount then
    some (a + (b - tBase))
  else Keyed.find? compositions (pairKey a b)

end HttpCall.Decomposition
