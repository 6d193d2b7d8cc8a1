import HttpCall.Body.Basic
import HttpCall.Header.Map
import HttpCall.Request.Method

/-!
# Requests

A request is a method, a URL text (checked only when the request is sent), a header map
and an optional body.

The content type of a request's body: the type the body declares for itself wins;
otherwise the first `Content-Type` header is read, and UTF-8 is assumed when it names no
charset. A request without either has no content type, which leaves the transport's
default in place.
-/

namespace HttpCall

/-- An outbound request. -/
structure Request where
  method : Method := .get
  url : String
  headers : HeaderMap := {}
  body : Option RequestBody := none
  deriving DecidableEq, Repr, Inhabited

namespace Request

/-- The `Content-Type` header name. -/
def contentTypeHeader : String := "Content-Type"

/-- A request with no headers and no body. -/
def new (method : Method) (url : String) : Request := { method, url }

/-- The request with a header value appended. -/
def withHeader (r : Request) (name value : String) : Request :=
  { r with headers := r.headers.append name value }

/-- The request with its headers replaced. -/
def withHeaders (r : Request) (h : HeaderMap) : Request := { r with headers := h }

/-- The request with a body. -/
def withBody (r : Request) (b : RequestBody) : Request := { r with body := some b }

/-- Does the request carry a body? -/
def hasBody (r : Request) : Bool := r.body.isSome

/-- The content type of the request's body, if it has one. -/
def resolveContentType (r : Request) : Except Error (Option MediaType) :=
  match r.body.bind RequestBody.contentType? with
  | some m => .ok (some m)
  | none =>
    match r.headers.get? contentTypeHeader with
    | some value => do
      let m ← MediaType.parse value
      pure (some (if m.charset.isSome then m else m.withCharset .utf8))
    | none => .ok none

end Request

end HttpCall
