/-!
# Sorted tables of code points

Unicode properties are stored as arrays sorted by a numeric key. `Keyed.floor?` finds
the entry with the greatest key at or below a number by binary search: each step halves
the interval still in question, so `Nat.log2` of the size plus two steps reach the
answer. A `RangeTable` holds disjoint ranges `(first, last, value)` and answers with the
range whose first point is the floor of the point asked for, if the range reaches it.

The tables are written as text: entries separated by blanks or line breaks, fields of an
entry separated by commas, numbers in hexadecimal.
-/

namespace HttpCall

namespace Keyed

variable {β : Type}

/-- The number of entries whose key is at most `k` among indices `[lo, hi)`, added to
`lo`, for entries in ascending order of key; `fuel` bounds the halvings. -/
def countAtMost (entries : Array (Nat × β)) (k : Nat) : Nat → Nat → Nat → Nat
  | 0, lo, _ => lo
  | fuel + 1, lo, hi =>
    if lo < hi then
      let mid := lo + (hi - lo) / 2
      match entries[mid]? with
      | some (key, _) =>
        if key ≤ k then countAtMost entries k fuel (mid + 1) hi
        else countAtMost entries k fuel lo mid
      | none => lo
    else lo

/-- The entry with the greatest key at or below `k`. -/
def floor? (entries : Array (Nat × β)) (k : Nat) : Option (Nat × β) :=
  match countAtMost entries k (Nat.log2 entries.size + 2) 0 entries.size with
  | 0 => none
  | n + 1 => entries[n]?

/-- The value stored under exactly the key `k`. -/
def find? (entries : Array (Nat × β)) (k : Nat) : Option β :=
  match floor? entries k with
  | some (key, v) => if key = k then some v else none
  | none => none

end Keyed

/-- Disjoint ranges `(first, (last, value))` in ascending order. -/
structure RangeTable (α : Type) where
  entries : Array (Nat × Nat × α)

namespace RangeTable

variable {α : Type}

/-- The value of a hexadecimal digit written with small letters or capitals. -/
def hexDigit? (c : Char) : Option Nat :=
  let n := c.toNat
  if 48 ≤ n ∧ n ≤ 57 then some (n - 48)
  else if 97 ≤ n ∧ n ≤ 102 then some (n - 87)
  else if 65 ≤ n ∧ n ≤ 70 then some (n - 55)
  else none

/-- A nonempty hexadecimal numeral. -/
def readHex? (s : String) : Option Nat :=
  if s.isEmpty then none
  else s.toList.foldlM (fun acc c => (hexDigit? c).map (acc * 16 + ·)) 0

/-- The entries of a table text, each split into its fields. -/
def fieldsOf (text : String) : List (List String) :=
  (((text.split (fun c => c == ' ' || c == '\n')).toList.map (·.toString)).filter
    (!·.isEmpty)).map (·.splitOn ",")

/-- Code points joined by dots, such as `61.308`. -/
def readPoints? (s : String) : Option (List Nat) :=
  (s.splitOn ".").mapM readHex?

/-- A table from entries `first,last,value`; an entry that does not read is skipped. -/
def ofText (value : String → Option α) (text : String) : RangeTable α :=
  ⟨((fieldsOf text).filterMap fun
    | [lo, hi, v] => do pure (← readHex? lo, ← readHex? hi, ← value v)
    | _ => none).toArray⟩

/-- A set of code points from entries `first,last`. -/
def setOfText (text : String) : RangeTable Unit :=
  ⟨((fieldsOf text).filterMap fun
    | [lo, hi] => do pure (← readHex? lo, ← readHex? hi, ())
    | _ => none).toArray⟩

/-- The value of the range that holds `cp`. -/
def find? (t : RangeTable α) (cp : Nat) : Option α :=
  match Keyed.floor? t.entries cp with
  | some (_, last, v) => if cp ≤ last then some v else none
  | none => none

/-- Does a range hold `cp`? -/
def contains (t : RangeTable α) (cp : Nat) : Bool :=
  (t.find? cp).isSome

end RangeTable

end HttpCall
