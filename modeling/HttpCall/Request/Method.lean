import HttpCall.Text.Ascii
import HttpCall.Error

/-!
# Methods

The eight request methods a call can use. A method name is read with its ASCII letters
made capital, so `gEt` is `GET`, while any other change (a blank, a control character)
leaves the name unknown.
-/

namespace HttpCall

/-- A request method. -/
inductive Method where
  | get
  | head
  | post
  | put
  | patch
  | delete
  | options
  | trace
  deriving DecidableEq, Repr, Inhabited

namespace Method

/-- Every method, in declaration order. -/
def all : List Method := [get, head, post, put, patch, delete, options, trace]

/-- The method's name, in capitals. -/
def name : Method → String
  | get => "GET"
  | head => "HEAD"
  | post => "POST"
  | put => "PUT"
  | patch => "PATCH"
  | delete => "DELETE"
  | options => "OPTIONS"
  | trace => "TRACE"

/-- Methods whose requests are expected to carry a body. -/
def bearsBody : Method → Bool
  | post | put | patch => true
  | _ => false

/-- The method a text names, its ASCII letters made capital first. -/
def parse (text : String) : Except Error Method :=
  let key := Ascii.upperText text
  match all.find? (fun m => m.name == key) with
  | some m => .ok m
  | none => .error (.build ("Unknown HTTP method: " ++ text))

/-- A response to a request has a body unless the request was `HEAD` or the status is
informational (1xx), `204 No Content` or `304 Not Modified`. -/
def responseHasBody (m : Method) (status : Nat) : Bool :=
  !(m == head || status == 204 || status == 304 || (100 ≤ status && status ≤ 199))

theorem parse_name (m : Method) : parse m.name = .ok m := by
  cases m <;> rfl

end Method

end HttpCall
