import HttpCall.Settings.Toml.Quoted

/-!
# The tables of a TOML document

A document is a tree of tables. A table comes to be in one of three ways, and the way
decides what may be done with it later:

* made on the way to a header's table (`a` for `[a.b]`): a header may define it later,
  and dotted keys may go into it;
* defined by a header `[a]`: no second header may define it, and no dotted key may
  reach into it;
* made by a dotted key (`a` for `a.b = 1`): no header may define it, and further dotted
  keys may add to it.

An array of tables grows by one table at each header `[[a]]`, and what follows goes
into its last table. A value (inline tables and arrays included) is never extended: a
dotted key that runs into one is a fault named for the value's type.

Inside an inline table, dotted keys make tables that further dotted keys of the same
inline table may add to; a table written out as an inline table there is closed.

All faults here are faults of the document's values: they are kept, and the reading
goes on.
-/

namespace HttpCall.Toml

/-- A key of a dotted key, with its span in the text. -/
structure KeyPart where
  name : String
  start : Nat
  stop : Nat
  deriving Repr, Inhabited

/-- How a table came to be. -/
inductive TableKind where
  | implicit
  | header
  | dotted
  deriving DecidableEq, Repr, Inhabited

/-- A document while it is read: values, tables and arrays of tables. -/
inductive Node where
  | leaf (v : TomlValue)
  | table (kind : TableKind) (entries : List (String × Node))
  | tables (items : List (List (String × Node)))
  deriving Inhabited

/-- The node at a key. -/
def lookup {α : Type} (entries : List (String × α)) (k : String) : Option α :=
  (entries.find? (·.1 == k)).map (·.2)

/-- Entries with the node at a key replaced, or added at the end. -/
def store {α : Type} (entries : List (String × α)) (k : String) (n : α) : List (String × α) :=
  if entries.any (·.1 == k) then entries.map fun e => if e.1 == k then (e.1, n) else e
  else entries ++ [(k, n)]

/-- The fault of a key set twice, or of a table defined twice. -/
def duplicateKey {α : Type} (k : KeyPart) : Except TomlError α :=
  fault k.start k.stop "duplicate key"

/-- The fault of a dotted key that runs into a value. -/
def cannotExtend {α : Type} (v : TomlValue) (k : KeyPart) : Except TomlError α :=
  fault k.start k.stop ("cannot extend value of type " ++ v.kindName ++ " with a dotted key")

/-- Change the entries of the table at a path below a table of a kind: missing tables
are made, by dots when `dotted` and on the way otherwise; arrays of tables lead into
their last table; `f` changes the entries at the end, knowing the kind of their table.
A dotted key may not reach into a table defined by a header. -/
def descend (dotted : Bool)
    (f : TableKind → List (String × Node) → Except TomlError (List (String × Node))) :
    TableKind → List (String × Node) → List KeyPart → Except TomlError (List (String × Node))
  | kind, entries, [] => f kind entries
  | _, entries, k :: rest =>
    match lookup entries k.name with
    | none => do
      let made := if dotted then TableKind.dotted else .implicit
      let inner ← descend dotted f made [] rest
      pure (store entries k.name (.table made inner))
    | some (.table kind inner) =>
      if dotted && kind == .header then duplicateKey k
      else do
        let inner ← descend dotted f kind inner rest
        pure (store entries k.name (.table kind inner))
    | some (.tables items) =>
      match items.getLast? with
      | some last => do
        let inner ← descend dotted f .header last rest
        pure (store entries k.name (.tables (items.dropLast ++ [inner])))
      | none => duplicateKey k
    | some (.leaf v) => cannotExtend v k

/-- Split a path into its keys before the last and the last. -/
def splitLast {α : Type} (xs : List α) : Option (List α × α) :=
  xs.getLast?.map fun last => (xs.dropLast, last)

/-- Define the table of a header `[path]`: new, or one made on the way so far. -/
def defineTable (root : List (String × Node)) (path : List KeyPart) :
    Except TomlError (List (String × Node)) :=
  match splitLast path with
  | none => .ok root
  | some (parents, k) =>
    descend false (fun _ entries =>
      match lookup entries k.name with
      | none => .ok (store entries k.name (.table .header []))
      | some (.table .implicit inner) => .ok (store entries k.name (.table .header inner))
      | some _ => duplicateKey k) .header root parents

/-- Add a table to the array of a header `[[path]]`. -/
def appendTable (root : List (String × Node)) (path : List KeyPart) :
    Except TomlError (List (String × Node)) :=
  match splitLast path with
  | none => .ok root
  | some (parents, k) =>
    descend false (fun _ entries =>
      match lookup entries k.name with
      | none => .ok (store entries k.name (.tables [[]]))
      | some (.tables items) => .ok (store entries k.name (.tables (items ++ [[]])))
      | some _ => duplicateKey k) .header root parents

/-- Set `key = value` in the table of the last header, at path `current`. The table a
dotted key ends in must be one that dots made. -/
def setValue (root : List (String × Node)) (current key : List KeyPart) (value : TomlValue) :
    Except TomlError (List (String × Node)) :=
  match splitLast key with
  | none => .ok root
  | some (parents, k) =>
    descend false (fun kind entries =>
      descend true (fun kind entries =>
        if !parents.isEmpty && kind != .dotted then duplicateKey k
        else match lookup entries k.name with
          | none => .ok (store entries k.name (.leaf value))
          | some _ => duplicateKey k) kind entries parents) .header root current

/-- Set a value at a dotted key in the entries of an inline table. -/
def insertInline (value : TomlValue) :
    List (String × TomlValue) → List KeyPart → Except TomlError (List (String × TomlValue))
  | entries, [] => .ok entries
  | entries, [k] =>
    if entries.any (·.1 == k.name) then duplicateKey k
    else .ok (entries ++ [(k.name, value)])
  | entries, k :: rest =>
    match lookup entries k.name with
    | none => do
      let inner ← insertInline value [] rest
      pure (entries ++ [(k.name, .table inner true)])
    | some (.table inner true) => do
      let inner ← insertInline value inner rest
      pure (store entries k.name (.table inner true))
    | some (.table _ false) => duplicateKey k
    | some v => cannotExtend v k

mutual

/-- The setting of a node. -/
def Node.toSetting (origin : Option String) : Node → Setting
  | .leaf v => v.toSetting origin
  | .table _ entries => .mk origin (.table (Node.entriesToSettings origin entries))
  | .tables items => .mk origin (.array (Node.itemsToSettings origin items))

/-- The settings of entries. -/
def Node.entriesToSettings (origin : Option String) :
    List (String × Node) → List (String × Setting)
  | [] => []
  | (k, n) :: rest => (k, n.toSetting origin) :: Node.entriesToSettings origin rest

/-- The settings of the tables of an array. -/
def Node.itemsToSettings (origin : Option String) : List (List (String × Node)) → List Setting
  | [] => []
  | es :: rest =>
    .mk origin (.table (Node.entriesToSettings origin es)) :: Node.itemsToSettings origin rest

end

mutual

/-- The reason of the first number without a value below a node: tables visited in
order of their keys, arrays in order. -/
def Node.firstUnreadable : Node → Option String
  | .leaf v => v.firstUnreadable
  | .table _ entries => firstByKey (Node.entryReasons entries)
  | .tables items => Node.firstInTables items

/-- The first reason of each entry's node. -/
def Node.entryReasons : List (String × Node) → List (String × Option String)
  | [] => []
  | (k, n) :: rest => (k, n.firstUnreadable) :: Node.entryReasons rest

/-- The first reason among the tables of an array, in order. -/
def Node.firstInTables : List (List (String × Node)) → Option String
  | [] => none
  | es :: rest =>
    match firstByKey (Node.entryReasons es) with
    | some r => some r
    | none => Node.firstInTables rest

end

end HttpCall.Toml
