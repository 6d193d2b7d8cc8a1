import HttpCall.Settings.Value
import HttpCall.Text.Properties

/-!
# Settings errors

Reading settings fails for a reason that names, where it can, the key that failed (a
dotted path such as `options.retry_count`, or an index `[1]` into an array) and the
layer the value came from (the file, or the environment).

* A value of the wrong type: `invalid type: <found>, expected <wanted>`, with the key and
  the origin when known.
* A required field absent: `missing configuration field "<key>"`.
* Any other message, with the key appended as ` for key ...` once a key is known.
* A file that does not read as TOML: the parser's report and ` in <file>`.
* A file that does not exist: `configuration file "<path>" not found`.

Keys are added from the inside out as reading returns from nested values, so the path is
built by putting each enclosing key in front.
-/

namespace HttpCall

/-- What was found where another type of value was wanted. -/
inductive FoundValue where
  | bool (b : Bool)
  | signed (n : Int)
  | unsigned (n : Nat)
  | float (x : Binary64)
  | str (s : String)
  | unit
  | seq
  | map
  deriving DecidableEq, Repr, Inhabited

namespace FoundValue

/-- The words for what was found. -/
def describe : FoundValue → String
  | bool b => "boolean `" ++ toString b ++ "`"
  | signed n => "64-bit integer `" ++ toString n ++ "`"
  | unsigned n => "64-bit unsigned integer `" ++ toString n ++ "`"
  | float x => "floating point `" ++ Setting.numberFormat.write x ++ "`"
  | str s => "string " ++ Escaped.quote s
  | unit => "unit value"
  | seq => "sequence"
  | map => "map"

end FoundValue

/-- Why settings could not be read. -/
inductive ConfigError where
  | invalidType (origin : Option String) (found : FoundValue) (expected : String)
      (key : Option String)
  | located (error : ConfigError) (origin : Option String) (key : Option String)
  | missingField (key : String)
  | message (text : String)
  | fileParse (uri : Option String) (cause : String)
  | fileNotFound (path : String)
  deriving DecidableEq, Repr, Inhabited

namespace ConfigError

/-- A key path with a segment put in front: joined by a dot, unless the path is empty
or starts with an index. -/
def joinKey (segment : String) (addDot : Bool) (key : Option String) : String :=
  let key := key.getD ""
  let dot := if addDot && !key.isEmpty && !key.startsWith "[" then "." else ""
  segment ++ dot ++ key

/-- The error with a segment put in front of its key. -/
def prepend (segment : String) (addDot : Bool) : ConfigError → ConfigError
  | invalidType o f x k => invalidType o f x (some (joinKey segment addDot k))
  | located e o k => located e o (some (joinKey segment addDot k))
  | missingField k => missingField (joinKey segment addDot (some k))
  | e => located e none (some (joinKey segment addDot none))

/-- The error with the key of a table entry put in front. -/
def prependKey (key : String) (e : ConfigError) : ConfigError := e.prepend key true

/-- The error with an array index put in front. -/
def prependIndex (i : Nat) (e : ConfigError) : ConfigError :=
  e.prepend ("[" ++ toString i ++ "]") false

/-- The text ` for key ...`, if a key is known. -/
def keyText : Option String → String
  | some k => " for key `" ++ k ++ "`"
  | none => ""

/-- The text ` in ...`, if the origin is known. -/
def originText : Option String → String
  | some o => " in " ++ o
  | none => ""

/-- The text of an error. -/
def render : ConfigError → String
  | invalidType o f x k => "invalid type: " ++ f.describe ++ ", expected " ++ x ++ keyText k ++ originText o
  | located e o k => e.render ++ keyText k ++ originText o
  | missingField k => "missing configuration field " ++ Escaped.quote k
  | message t => t
  | fileParse uri cause => cause ++ originText uri
  | fileNotFound path => "configuration file \"" ++ path ++ "\" not found"

end ConfigError

end HttpCall
