import HttpCall.Request.Basic
import HttpCall.Response.Body

/-!
# Responses

A response is a status, a reason phrase, headers, the request it answers and, when the
exchange can carry one, a body. Statuses outside 2xx are ordinary responses, not
errors.
-/

namespace HttpCall

/-- The answer to a request. -/
structure Response where
  status : Nat
  reason : String := ""
  headers : HeaderMap := {}
  request : Request
  body : Option (ResponseBody ByteSource) := none
  deriving DecidableEq, Repr, Inhabited

namespace Response

/-- Is the status a success (2xx)? -/
def isSuccess (r : Response) : Bool := 200 ≤ r.status && r.status < 300

/-- The first value of a header. -/
def header? (r : Response) (name : String) : Option String := r.headers.get? name

/-- Does the response have a body? -/
def hasBody (r : Response) : Bool := r.body.isSome

end Response

end HttpCall
