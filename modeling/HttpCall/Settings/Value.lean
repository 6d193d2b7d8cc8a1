import HttpCall.Number.Text
/-!
# Setting trees

Settings are gathered from layers (built-in defaults, a TOML file, the environment) into
one tree before they are read. A setting is a value with the place it came from, which
error messages name. Values are nothing, booleans, integers, floating-point numbers,
texts, tables of named settings and arrays of settings.

A floating-point number is a binary64 number, read from its text by rounding to the
nearest value.

Layers are joined by setting each of their entries at a path: keys after dots and
indices in brackets (`options.retry_count`, `options.proxy_info[1]`). A table is merged
into the table already there, key by key, and any other value replaces what was there.
Tables and arrays made on the way, and the nothings that fill an array up to an index,
have no origin.
-/

namespace HttpCall

mutual

/-- A value with the place it came from. -/
inductive Setting where
  | mk (origin : Option String) (kind : SettingKind)

/-- The kinds of values. -/
inductive SettingKind where
  | nil
  | bool (b : Bool)
  | int (n : Int)
  | float (x : Binary64)
  | str (s : String)
  | table (entries : List (String × Setting))
  | array (items : List Setting)

end

namespace Setting

/-- Numbers in settings texts are written with the digits of their shortest decimal,
always positionally, and a whole number without a point (`300`, `0.1`, `-0`, `inf`). -/
def numberFormat : FloatFormat :=
  { positionalFrom := none, positionalTo := none, pointForWhole := false, plusExponent := false }

/-- A reader that wanted a structure names a number as settings texts write it, but
with a point kept for a whole number (`300.0`). -/
def numberFormatWithPoint : FloatFormat := { numberFormat with pointForWhole := true }

/-- Where a value came from. -/
def origin : Setting → Option String
  | mk o _ => o

/-- What a value is. -/
def kind : Setting → SettingKind
  | mk _ k => k

/-- An empty table with no origin. -/
def emptyTable : Setting := mk none (.table [])

/-- Is the value a table? -/
def isTable : Setting → Bool
  | mk _ (.table _) => true
  | _ => false

/-- The entries of a table, none for other values. -/
def entries : Setting → List (String × Setting)
  | mk _ (.table es) => es
  | _ => []

/-- The value at a key of a table. -/
def get? (s : Setting) (key : String) : Option Setting :=
  (s.entries.find? (·.1 == key)).map (·.2)

/-- Entries with the value of a key changed by `f`, from nothing when the key is new
(added at the end). -/
def updateEntry (key : String) (f : Setting → Setting) : List (String × Setting) → List (String × Setting)
  | [] => [(key, f (mk none .nil))]
  | (k, v) :: rest =>
    if k == key then (k, f v) :: rest else (k, v) :: updateEntry key f rest

/-- A value turned into a table if it is not one, with the value at a key changed. -/
def updateKey (s : Setting) (key : String) (f : Setting → Setting) : Setting :=
  match s with
  | mk o (.table es) => mk o (.table (updateEntry key f es))
  | _ => mk none (.table (updateEntry key f []))

end Setting

mutual

/-- Put a value in the place of `target`: a table is merged into `target` (which becomes
a table if it is not one) key by key, any other value replaces it. -/
def Setting.mergeInto (target : Setting) : Setting → Setting
  | .mk _ (.table incoming) =>
    let base := if target.isTable then target else Setting.emptyTable
    Setting.mergeEntries base incoming
  | v => v

/-- Merge entries one by one into a table. -/
def Setting.mergeEntries (base : Setting) : List (String × Setting) → Setting
  | [] => base
  | (k, v) :: rest =>
    Setting.mergeEntries (base.updateKey k fun old => old.mergeInto v) rest

end

/-- One step of a path into a setting tree: a key of a table, or an index into an array,
where `-1` is the last item. -/
inductive PathStep where
  | key (name : String)
  | index (i : Int)
  deriving DecidableEq, Repr, Inhabited

namespace Setting

/-- A value turned into an array if it is not one, with the item at an index changed.
An index past the end first fills the array with nothings up to it; a negative index
counts from the end, and one that reaches before the start first puts as many
nothings in front as are missing and then stands for the first item. -/
def updateIndex (s : Setting) (i : Int) (f : Setting → Setting) : Setting :=
  let (origin, items) := match s with
    | mk o (.array items) => (o, items)
    | _ => (none, [])
  let nothing := mk none .nil
  let (items, n) :=
    if i ≥ 0 then
      let n := i.toNat
      (items ++ List.replicate (n + 1 - items.length) nothing, n)
    else if i.natAbs ≤ items.length then (items, items.length - i.natAbs)
    else (List.replicate (i.natAbs - items.length) nothing ++ items, 0)
  mk origin (.array (items.set n (f (items.getD n nothing))))

/-- Set a value at a path below a setting: the value is put in the place the path leads
to, every step making the table or array it needs. -/
def setPath (root : Setting) (value : Setting) : List PathStep → Setting
  | [] => root.mergeInto value
  | .key k :: rest => root.updateKey k fun old => setPath old value rest
  | .index i :: rest => root.updateIndex i fun old => setPath old value rest

end Setting

/-- Is a character allowed in a key of a path? -/
def isPathKeyChar (c : Char) : Bool :=
  c.isAlphanum || c == '_' || c == '-'

namespace PathStep

/-- Read a key of a path: a nonempty run of letters, digits, `_` and `-`. -/
def readKey (cs : List Char) : Option (String × List Char) :=
  let name := cs.takeWhile isPathKeyChar
  if name.isEmpty then none else some (String.ofList name, cs.drop name.length)

/-- Read an index after its opening bracket: blanks, an optional minus sign and decimal
digits, blanks, and the closing bracket. An index must fit in a signed 64-bit word. -/
def readIndex (cs : List Char) : Option (Int × List Char) :=
  let isBlank (c : Char) := c == ' ' || c == '\t'
  let cs := cs.dropWhile isBlank
  let (negative, cs) := match cs with
    | '-' :: rest => (true, rest)
    | _ => (false, cs)
  let digits := cs.takeWhile Char.isDigit
  let rest := (cs.drop digits.length).dropWhile isBlank
  let n : Nat := digits.foldl (fun acc c => acc * 10 + (c.toNat - 48)) 0
  let i : Int := if negative then -(n : Int) else n
  match rest with
  | ']' :: rest =>
    if !digits.isEmpty && -(Int.pow 2 63) ≤ i && i < Int.pow 2 63 then some (i, rest) else none
  | _ => none

/-- Read the steps after the first key: `.key` and `[index]`, to the end of the text;
`fuel` bounds the steps. -/
def readSteps : Nat → List Char → Option (List PathStep)
  | _, [] => some []
  | 0, _ => none
  | fuel + 1, '.' :: rest => do
    let (k, rest) ← readKey rest
    pure (.key k :: (← readSteps fuel rest))
  | fuel + 1, '[' :: rest => do
    let (i, rest) ← readIndex rest
    pure (.index i :: (← readSteps fuel rest))
  | _, _ => none

end PathStep

/-- The steps of a path such as `options.proxy_info[0]`: a key, then keys after dots and
indices in brackets. A text that is not such a path is one key. -/
def pathSteps (text : String) : List PathStep :=
  let cs := text.toList
  match PathStep.readKey cs with
  | some (k, rest) =>
    match PathStep.readSteps rest.length rest with
    | some steps => .key k :: steps
    | none => [.key text]
  | none => [.key text]

end HttpCall
