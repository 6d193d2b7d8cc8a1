import HttpCall.Text.Ascii

/-!
# Header maps

A header map keeps its names in the order they first arrived, each with its values in
the order they were added. Names are compared with ASCII case folded, and the spelling
that arrived first is kept. The view `pairs` lists every value with its entry's name.
-/

namespace HttpCall

/-- Ordered header entries: a name and its values. -/
structure HeaderMap where
  entries : List (String × List String) := []
  deriving DecidableEq, Repr, Inhabited

namespace HeaderMap

/-- The map with no entries. -/
def empty : HeaderMap := ⟨[]⟩

/-- Does an entry's name match a name, ASCII case folded? -/
def nameMatches (name : String) (entry : String × List String) : Bool :=
  Ascii.eqFold entry.1 name

/-- Entries with a value added to the first matching entry, or a new entry at the end. -/
def appendTo (name value : String) : List (String × List String) → List (String × List String)
  | [] => [(name, [value])]
  | e :: rest =>
    if nameMatches name e then (e.1, e.2 ++ [value]) :: rest else e :: appendTo name value rest

/-- Entries whose first matching entry holds only the value, or with a new entry at the
end. -/
def insertInto (name value : String) : List (String × List String) → List (String × List String)
  | [] => [(name, [value])]
  | e :: rest =>
    if nameMatches name e then (e.1, [value]) :: rest else e :: insertInto name value rest

/-- The values of the first matching entry, and the entries without it. -/
def removeFrom (name : String) :
    List (String × List String) → List String × List (String × List String)
  | [] => ([], [])
  | e :: rest =>
    if nameMatches name e then (e.2, rest)
    else let r := removeFrom name rest; (r.1, e :: r.2)

/-- Add a value under a name, after the values it already has. -/
def append (h : HeaderMap) (name value : String) : HeaderMap :=
  ⟨appendTo name value h.entries⟩

/-- Replace all values of a name by one value. -/
def insert (h : HeaderMap) (name value : String) : HeaderMap :=
  ⟨insertInto name value h.entries⟩

/-- Remove a name: its values (none if absent) and the map without it. -/
def remove (h : HeaderMap) (name : String) : List String × HeaderMap :=
  let r := removeFrom name h.entries
  (r.1, ⟨r.2⟩)

/-- All values of a name. -/
def getAll (h : HeaderMap) (name : String) : List String :=
  match h.entries.find? (nameMatches name) with
  | some e => e.2
  | none => []

/-- The first value of a name. -/
def get? (h : HeaderMap) (name : String) : Option String :=
  (h.getAll name).head?

/-- Does the map have the name? -/
def contains (h : HeaderMap) (name : String) : Bool :=
  h.entries.any (nameMatches name)

/-- The names, in order. -/
def names (h : HeaderMap) : List String :=
  h.entries.map (·.1)

/-- Every value with its name, entry by entry. -/
def pairs (h : HeaderMap) : List (String × String) :=
  h.entries.flatMap (fun e => e.2.map (fun v => (e.1, v)))

/-- The number of names. -/
def size (h : HeaderMap) : Nat :=
  h.entries.length

/-- Does the map have no names? -/
def isEmpty (h : HeaderMap) : Bool :=
  h.entries.isEmpty

/-- The map with pairs appended in order. -/
def extend (h : HeaderMap) (ps : List (String × String)) : HeaderMap :=
  ps.foldl (fun acc p => acc.append p.1 p.2) h

/-- The map of pairs appended in order to an empty map. -/
def ofPairs (ps : List (String × String)) : HeaderMap :=
  empty.extend ps

end HeaderMap

end HttpCall
