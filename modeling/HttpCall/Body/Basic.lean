import HttpCall.Body.Form
import HttpCall.Body.Part

/-!
# Request bodies

A request body is exactly one of: bytes with an optional declared type, a URL-encoded
form, or a multipart body. A multipart body has its parts in order, the charset of its
names and text values, and optionally a boundary chosen by its caller; without one, a
boundary is generated when the body is sent.

The type a body declares for itself: the declared one for bytes, and for forms and
multipart bodies their media type with the body's charset.
-/

namespace HttpCall

/-- A `multipart/form-data` body. -/
structure MultipartBody where
  boundary : Option String := none
  charset : Charset := .utf8
  parts : List Part := []
  deriving DecidableEq, Repr, Inhabited

namespace MultipartBody

/-- `multipart/form-data` with the body's charset; the boundary is added on the wire. -/
def contentType (m : MultipartBody) : MediaType :=
  MediaType.formData.withCharset m.charset

end MultipartBody

/-- The body of a request. -/
inductive RequestBody where
  | raw (data : List UInt8) (contentType : Option MediaType)
  | form (f : FormBody)
  | multipart (m : MultipartBody)
  deriving DecidableEq, Repr, Inhabited

namespace RequestBody

/-- UTF-8 text, typed `text/plain; charset=UTF-8`. -/
def text (s : String) : RequestBody :=
  .raw (Utf8.encode s) (some (MediaType.textPlain.withCharset .utf8))

/-- The type a body declares for itself. -/
def contentType? : RequestBody → Option MediaType
  | .raw _ m => m
  | .form f => some f.contentType
  | .multipart m => some m.contentType

end RequestBody

end HttpCall
