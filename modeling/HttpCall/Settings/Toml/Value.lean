import HttpCall.Settings.Value

/-!
# TOML values and errors

A TOML document is read in three rounds, and an error names the round that found it.
First its structure: brackets, braces, commas, `=`, keys and line ends. A fault there
stops the reading. Then its values: strings with their escapes, numbers, dates, and
keys set twice; the first fault there is reported when the structure has none. Last,
numbers become 64-bit values, in the order of the keys, and a number that fits none is
reported when nothing else is wrong. `TomlError` holds a fault of the first two rounds
with its span, or a fault of the last round with no span.

A report quotes the line of the fault, with a caret under each byte of the span (at
least one, at most to the line's end); lines and columns count from one. A column counts
characters when the fault starts at a one-byte character, and bytes when it starts at a
longer one.

`TomlValue` is a value as the document writes it: a number that fits no 64-bit value
keeps only the reason, and a date or time is kept apart from strings because it is named
apart in errors.
-/

namespace HttpCall

/-- Why a document could not be read: a fault at a span of its text (positions count
characters), or a number written in it that no value holds. -/
inductive TomlError where
  | spanned (start stop : Nat) (message : String)
  | unspanned (message : String)
  deriving DecidableEq, Repr, Inhabited

namespace TomlError

/-- The line (from zero) of a position and the position where that line starts; a
position past the end is placed after the last character. -/
def lineOf (cs : List Char) (pos : Nat) : Nat × Nat :=
  let safe := min pos (cs.length - 1)
  let before := cs.take safe
  let lineStart := match before.reverse.idxOf? '\n' with
    | some k => safe - k
    | none => 0
  (before.count '\n', lineStart)

/-- The number of bytes of some characters in UTF-8. -/
def byteCount (cs : List Char) : Nat := cs.foldl (fun n c => n + c.utf8Size) 0

/-- The column (from zero) of a position on its line, given where the line starts: in
characters when the character there is a single byte (or the position is past the end),
and in bytes otherwise. -/
def column (cs : List Char) (lineStart pos : Nat) : Nat :=
  match cs[pos]? with
  | some c => if c.utf8Size = 1 then pos - lineStart else byteCount ((cs.drop lineStart).take (pos - lineStart))
  | none => pos - lineStart

/-- The report of an error in a text: the position, the line with the span marked, and
the message. An error without a place is its message alone. -/
def render (e : TomlError) (text : String) : String :=
  match e with
  | unspanned message => message
  | spanned start stop message =>
    let cs := text.toList
    let (line, lineStart) := lineOf cs start
    let col := column cs lineStart start
    let lineNum := toString (line + 1)
    let content := ((text.splitOn "\n")[line]?).getD ""
    let spanBytes := byteCount ((cs.drop start).take (stop - start))
    let highlight := min spanBytes (content.utf8ByteSize - col)
    let gutter := String.ofList (List.replicate (lineNum.length + 1) ' ')
    "TOML parse error at line " ++ lineNum ++ ", column " ++ toString (col + 1) ++ "\n" ++
      gutter ++ "|\n" ++
      lineNum ++ " | " ++ content ++ "\n" ++
      gutter ++ "|" ++ String.ofList (List.replicate (col + 1) ' ') ++ "^" ++
        String.ofList (List.replicate (highlight - 1) '^') ++ "\n" ++
      message ++ "\n"

end TomlError

/-- A value as a document writes it. A number that fits no 64-bit value keeps the kind
of number it is and the reason; a table records whether dotted keys made it inside an
inline table, which may then be extended by further dotted keys. -/
inductive TomlValue where
  | scalar (kind : SettingKind)
  | datetime (text : String)
  | unreadable (kind reason : String)
  | array (items : List TomlValue)
  | table (entries : List (String × TomlValue)) (dotted : Bool)
  deriving Inhabited

namespace TomlValue

/-- The words for the type of a value in errors. -/
def kindName : TomlValue → String
  | scalar (.bool _) => "boolean"
  | scalar (.int _) => "integer"
  | scalar (.float _) => "float"
  | scalar (.str _) => "string"
  | scalar _ => "value"
  | datetime _ => "datetime"
  | unreadable kind _ => kind
  | array _ => "array"
  | table _ _ => "inline table"

end TomlValue

/-- The first reason among entries, in order of their keys. -/
def firstByKey (reasons : List (String × Option String)) : Option String :=
  (reasons.mergeSort fun a b => decide (a.1 ≤ b.1)).findSome? (·.2)

mutual

/-- The setting of a value. -/
def TomlValue.toSetting (origin : Option String) : TomlValue → Setting
  | .scalar k => .mk origin k
  | .datetime text => .mk origin (.str text)
  | .unreadable _ _ => .mk origin .nil
  | .array items => .mk origin (.array (TomlValue.listToSettings origin items))
  | .table entries _ => .mk origin (.table (TomlValue.entriesToSettings origin entries))

/-- The settings of values. -/
def TomlValue.listToSettings (origin : Option String) : List TomlValue → List Setting
  | [] => []
  | v :: rest => v.toSetting origin :: TomlValue.listToSettings origin rest

/-- The settings of entries of values. -/
def TomlValue.entriesToSettings (origin : Option String) :
    List (String × TomlValue) → List (String × Setting)
  | [] => []
  | (k, v) :: rest => (k, v.toSetting origin) :: TomlValue.entriesToSettings origin rest

end

mutual

/-- The reason of the first number without a value, tables visited in order of their
keys and arrays in order. -/
def TomlValue.firstUnreadable : TomlValue → Option String
  | .unreadable _ r => some r
  | .array items => TomlValue.firstInList items
  | .table entries _ => firstByKey (TomlValue.entryReasons entries)
  | _ => none

/-- The first reason among values in order. -/
def TomlValue.firstInList : List TomlValue → Option String
  | [] => none
  | v :: rest =>
    match v.firstUnreadable with
    | some r => some r
    | none => TomlValue.firstInList rest

/-- The first reason of each entry's value. -/
def TomlValue.entryReasons : List (String × TomlValue) → List (String × Option String)
  | [] => []
  | (k, v) :: rest => (k, v.firstUnreadable) :: TomlValue.entryReasons rest

end

end HttpCall
