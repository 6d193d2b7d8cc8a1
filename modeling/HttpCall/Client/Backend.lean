import HttpCall.Text.Case

/-!
# Backends

A client is built on one of two engines, named in settings as `reqwest` (the default)
or `ureq`. A name is read with its letters made small; any other text is refused with
the message `Unknown HTTP backend: ` and the text as given.
-/

namespace HttpCall

/-- The engine a client is built on. -/
inductive Backend where
  | reqwest
  | ureq
  deriving DecidableEq, Repr, Inhabited

namespace Backend

/-- The engine used when settings name none. -/
def default : Backend := .reqwest

/-- The engine's name in settings. -/
def name : Backend → String
  | reqwest => "reqwest"
  | ureq => "ureq"

/-- The engine a name selects, ignoring the case of its letters (in the full Unicode
sense: the Kelvin sign stands for `k`). -/
def parse (text : String) : Except String Backend :=
  match Case.lower text with
  | "reqwest" => .ok reqwest
  | "ureq" => .ok ureq
  | _ => .error ("Unknown HTTP backend: " ++ text)

end Backend

end HttpCall
