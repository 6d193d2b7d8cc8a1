import HttpCall.Json.Value
import HttpCall.Number.Text
import HttpCall.Text.Properties

/-!
# Reading values from JSON

Typed values are read from JSON with the conventions of the usual derived readers:

* a number written as an integer is unsigned if it has no sign and fits in 64 bits,
  signed if it is negative (and not zero) and fits in 64 bits, and a floating-point number
  otherwise, as is every number written with a fraction or an exponent; a
  floating-point number is the binary64 number nearest to it; an integer read into a narrower type that does not fit, or a negative one
  read into an unsigned type, is an invalid value; anything else is of an invalid type;
* a structure is read from an object, whose members are visited in ascending order of
  their keys, unknown keys ignored; a field read twice is refused, and after the visit a
  missing field takes its default or is an error; or from an array, whose elements are
  the fields in their order, where a missing trailing field takes its default or ends
  the reading, and elements left over are an error;
* a unit enumeration is read from its variant's name, or from an object with that name
  as its only key and null as its value.

An error's text names what was found and what was expected.
-/

namespace HttpCall

/-- What a reader found where it expected something else. -/
inductive Unexpected where
  | null
  | bool (b : Bool)
  | unsigned (n : Nat)
  | signed (n : Int)
  | float (x : Binary64)
  | str (s : String)
  | unit
  | seq
  | map
  deriving DecidableEq, Repr, Inhabited

/-- Why a value could not be read. -/
inductive DecodeError where
  | invalidType (found : Unexpected) (expected : String)
  | invalidValue (found : Unexpected) (expected : String)
  | invalidLength (length : Nat) (expected : String)
  | missingField (name : String)
  | duplicateField (name : String)
  | unknownVariant (name : String) (expected : List String)
  deriving DecidableEq, Repr, Inhabited

namespace Unexpected

/-- Numbers in reading errors are written with the digits of their shortest decimal:
positionally for a leading digit from `10^-5` up to `10^15`, with `.0` after a whole
number, and in scientific notation with a signed exponent beyond (`1e+20`, `1e-7`). -/
def numberFormat : FloatFormat :=
  { positionalFrom := some (-5), positionalTo := some 15, pointForWhole := true,
    plusExponent := true }

/-- The words for what was found. -/
def describe : Unexpected → String
  | null => "null"
  | bool b => "boolean `" ++ toString b ++ "`"
  | unsigned n => "integer `" ++ toString n ++ "`"
  | signed n => "integer `" ++ toString n ++ "`"
  | float x => "floating point `" ++ numberFormat.write x ++ "`"
  | str s => "string " ++ Escaped.quote s
  | unit => "unit value"
  | seq => "sequence"
  | map => "map"

end Unexpected

namespace DecodeError

/-- Names in backquotes joined as `a`, `a or b`, or `a, b, or c`. -/
def oneOf : List String → String
  | [] => "there are no variants"
  | [a] => "`" ++ a ++ "`"
  | [a, b] => "`" ++ a ++ "` or `" ++ b ++ "`"
  | names => ", ".intercalate (names.dropLast.map ("`" ++ · ++ "`")) ++ ", or `" ++
      names.getLast! ++ "`"

/-- The text of a decoding error. -/
def message : DecodeError → String
  | invalidType found expected =>
    "invalid type: " ++ found.describe ++ ", expected " ++ expected
  | invalidValue found expected =>
    "invalid value: " ++ found.describe ++ ", expected " ++ expected
  | invalidLength n expected => "invalid length " ++ toString n ++ ", expected " ++ expected
  | missingField name => "missing field `" ++ name ++ "`"
  | duplicateField name => "duplicate field `" ++ name ++ "`"
  | unknownVariant name [] => "unknown variant `" ++ name ++ "`, there are no variants"
  | unknownVariant name expected =>
    "unknown variant `" ++ name ++ "`, expected " ++ oneOf expected

end DecodeError

namespace JsonValue

/-- What a value is, in the words of an error. -/
def unexpected : JsonValue → Unexpected
  | null => .null
  | bool b => .bool b
  | num n =>
    if n.integral then
      if !n.negative then
        if n.digits < Nat.pow 2 64 then .unsigned n.digits else .float (.ofDecimal false n.digits 0)
      else if n.digits = 0 then .float (.zero true)
      else if n.digits ≤ Nat.pow 2 63 then .signed (-(n.digits : Int))
      else .float (.ofDecimal true n.digits 0)
    else .float (.ofDecimal n.negative n.digits n.exponent)
  | str s => .str s
  | arr _ => .seq
  | obj _ => .map

/-- An unsigned integer below `bound`, named `name` in errors. -/
def readUnsigned (bound : Nat) (name : String) (v : JsonValue) : Except DecodeError Nat :=
  match v.unexpected with
  | .unsigned n => if n < bound then .ok n else .error (.invalidValue (.unsigned n) name)
  | .signed n => .error (.invalidValue (.signed n) name)
  | u => .error (.invalidType u name)

/-- A boolean. -/
def readBool (v : JsonValue) : Except DecodeError Bool :=
  match v with
  | bool b => .ok b
  | _ => .error (.invalidType v.unexpected "a boolean")

/-- A string. -/
def readString (v : JsonValue) : Except DecodeError String :=
  match v with
  | str s => .ok s
  | _ => .error (.invalidType v.unexpected "a string")

/-- An optional value: null is absent. -/
def readOption {α : Type} (read : JsonValue → Except DecodeError α) (v : JsonValue) :
    Except DecodeError (Option α) :=
  match v with
  | null => .ok none
  | _ => (read v).map some

/-- A unit variant among `names`, by its name or as the only key of an object whose
value is null. -/
def readVariant (names : List String) (v : JsonValue) : Except DecodeError String :=
  let byName (s : String) :=
    if names.contains s then .ok s else .error (DecodeError.unknownVariant s names)
  match v with
  | str s => byName s
  | obj [(k, inner)] => do
    let s ← byName k
    match inner with
    | null => pure s
    | other => throw (.invalidType other.unexpected "unit")
  | obj _ => .error (.invalidValue .map "map with a single key")
  | _ => .error (.invalidType v.unexpected "string or map")

/-- The members of an object in ascending order of their keys. -/
def sortedMembers (ms : List (String × JsonValue)) : List (String × JsonValue) :=
  ms.mergeSort (fun a b => decide (a.1 ≤ b.1))

end JsonValue

end HttpCall
