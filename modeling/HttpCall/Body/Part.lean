import HttpCall.MediaType.Extension
import HttpCall.Stream.Source
import HttpCall.Text.PathName

/-!
# Multipart parts

A part of a multipart body has a name, an optional file name, an optional content type
set by its caller, and exactly one payload: a file read when the body is sent, a stream
that can be taken once, bytes, or a text value.

The content type a part is sent with is the one set by its caller; without one, a file
takes the type its extension suggests, bytes and streams are
`application/octet-stream`, and a text value is `text/plain` in the body's charset.
-/

namespace HttpCall

/-- The content of a part. A stream is `none` once it has been taken. -/
inductive Payload where
  | file (path : String)
  | stream (source : Option ByteSource)
  | bytes (data : List UInt8)
  | text (value : String)
  deriving DecidableEq, Repr, Inhabited

/-- One named section of a multipart body. -/
structure Part where
  name : String
  fileName : Option String := none
  contentType : Option MediaType := none
  payload : Payload
  deriving DecidableEq, Repr, Inhabited

namespace Part

/-- A text field. -/
def text (name value : String) : Part := { name, payload := .text value }

/-- Bytes held in memory. -/
def bytes (name : String) (data : List UInt8) : Part := { name, payload := .bytes data }

/-- A stream read when the body is first prepared. -/
def stream (name : String) (source : ByteSource) : Part :=
  { name, payload := .stream (some source) }

/-- A file read when the body is sent; its file name is the last component of the
path. -/
def file (name path : String) : Part :=
  { name, fileName := PathName.fileName? path, payload := .file path }

/-- The part with a file name. -/
def withFileName (p : Part) (fileName : String) : Part := { p with fileName := some fileName }

/-- The part with a content type. -/
def withContentType (p : Part) (m : MediaType) : Part := { p with contentType := some m }

/-- The content type a part is sent with, given the body's charset. -/
def effectiveContentType (p : Part) (cs : Charset) : MediaType :=
  match p.contentType with
  | some m => m
  | none =>
    match p.payload with
    | .file path => MediaType.ofPath path
    | .stream _ | .bytes _ => MediaType.octetStream
    | .text _ => MediaType.textPlain.withCharset cs

end Part

namespace Payload

/-- Has a stream payload been taken? Other payloads are never taken. -/
def isConsumed : Payload → Bool
  | .stream none => true
  | _ => false

/-- Take a stream: its source if it is still there, and the payload left behind. -/
def take : Payload → Option ByteSource × Payload
  | .stream s => (s, .stream none)
  | p => (none, p)

/-- The text that shows a stream payload's state. -/
def streamDebug (consumed : Bool) : String :=
  "StreamPayload \x7b consumed: " ++ (if consumed then "true" else "false") ++ " \x7d"

theorem take_take (p : Payload) : (p.take.2.take).1 = none := by
  cases p <;> rfl

end Payload

end HttpCall
