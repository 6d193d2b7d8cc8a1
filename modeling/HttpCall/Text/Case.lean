import HttpCall.Text.CaseData
import HttpCall.Text.RangeTable

/-!
# Lowercase

Settings compare words such as `true`, `off` and the prefix of environment variables
after making every letter of the text small, in the full Unicode sense: `Ä` becomes `ä`,
the Kelvin sign `K` becomes `k`, and `İ` becomes the two characters `i` and a combining
dot above.

The one mapping that depends on its neighbours is the capital sigma: it becomes the
final `ς` when a cased letter stands before it and none after it, looking past
case-ignorable characters on both sides, and `σ` otherwise. So `ΣΑΣ` becomes `σας`.
-/

namespace HttpCall.Case

/-- The lowercase mapping as ranges. -/
def lowerTable : RangeTable (List Nat) := RangeTable.ofText RangeTable.readPoints? lowerText

/-- The cased characters. -/
def casedTable : RangeTable Unit := RangeTable.setOfText casedText

/-- The case-ignorable characters. -/
def caseIgnorableTable : RangeTable Unit := RangeTable.setOfText caseIgnorableText

/-- Is a character cased? -/
def isCased (c : Char) : Bool := casedTable.contains c.toNat

/-- Is a character case-ignorable? -/
def isCaseIgnorable (c : Char) : Bool := caseIgnorableTable.contains c.toNat

/-- The code points a character maps to in lowercase, without regard to its neighbours:
within a one-to-one range the point moves as far from the target as it stands from the
range's first point. -/
def lowerPoints (c : Char) : List Nat :=
  match Keyed.floor? lowerTable.entries c.toNat with
  | some (first, last, [target]) =>
    if c.toNat ≤ last then [target + (c.toNat - first)] else [c.toNat]
  | some (_, last, points) => if c.toNat ≤ last then points else [c.toNat]
  | none => [c.toNat]

/-- The characters a character maps to in lowercase, without regard to its neighbours. -/
def lowerChars (c : Char) : List Char := (lowerPoints c).map Char.ofNat

/-- Does a cased character come first in a list once case-ignorable characters are
skipped? -/
def casedAfterIgnorables (cs : List Char) : Bool :=
  match cs.dropWhile isCaseIgnorable with
  | c :: _ => isCased c
  | [] => false

/-- The capital sigma in lowercase, given the characters before it (nearest first) and
after it: final when a cased letter comes before and none after. -/
def lowerSigma (before after : List Char) : Char :=
  if casedAfterIgnorables before && !casedAfterIgnorables after then 'ς' else 'σ'

/-- The lowercase of the characters `cs`, where `before` holds the characters in front
of them, nearest first. -/
def lowerFrom (before : List Char) : List Char → List Char
  | [] => []
  | c :: rest =>
    let here := if c = 'Σ' then [lowerSigma before rest] else lowerChars c
    here ++ lowerFrom (c :: before) rest

/-- A text with every letter made small. -/
def lower (s : String) : String := String.ofList (lowerFrom [] s.toList)

end HttpCall.Case
