/-!
# JSON values

Options and proxies are read from and written to JSON. A value here is what a JSON text
denotes: objects keep their members in the order given, and a number is kept as it was
written: its sign, its digits with the point taken out, the power of ten that puts the
point back, and whether it was written as an integer (with no fraction and no
exponent). Readers treat integers and other numbers differently, so `1` and `1.0` are
not the same value, and neither are `0` and `-0`.
-/

namespace HttpCall

/-- A JSON number as written: `(-1)^negative * digits * 10^exponent`, `integral` when it
was written with neither a fraction nor an exponent. -/
structure JsonNumber where
  negative : Bool
  digits : Nat
  exponent : Int
  integral : Bool
  deriving DecidableEq, Repr, Inhabited

namespace JsonNumber

/-- An integer as a JSON number. -/
def ofInt (n : Int) : JsonNumber := ⟨n < 0, n.natAbs, 0, true⟩

end JsonNumber

/-- A JSON value. -/
inductive JsonValue where
  | null
  | bool (b : Bool)
  | num (n : JsonNumber)
  | str (s : String)
  | arr (items : List JsonValue)
  | obj (members : List (String × JsonValue))
  deriving Repr, Inhabited

namespace JsonValue

/-- An integer as a JSON number. -/
def ofInt (n : Int) : JsonValue := .num (.ofInt n)

/-- An optional value, `null` when absent. -/
def ofOption {α : Type} (f : α → JsonValue) : Option α → JsonValue
  | some a => f a
  | none => .null

/-- The value of a member of an object. -/
def member? (v : JsonValue) (key : String) : Option JsonValue :=
  match v with
  | .obj ms => (ms.find? (·.1 == key)).map (·.2)
  | _ => none

end JsonValue

end HttpCall
