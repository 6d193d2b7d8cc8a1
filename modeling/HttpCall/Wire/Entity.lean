import HttpCall.Request.Basic
import HttpCall.Wire.Multipart

/-!
# Entities

The entity of a request is its body made ready for a call, once per call: bytes with
their content type, or a prepared multipart body.

Preparing bytes keeps them with the request's resolved content type; a form is written
out with its own type. A multipart body takes each stream part's source, which leaves
the stream consumed in the request, and reads it to the end; a stream taken before
fails the preparation, and so does a read that fails. Parts after a failure are left as
they were.

The headers sent with an entity are the request's own without `Content-Length`, and
without `Content-Type` when the entity sets one, followed by `Accept: */*` when the
request has no `Accept` header.
-/

namespace HttpCall

/-- A body ready for a call. -/
inductive Entity where
  | bytes (data : List UInt8) (contentType : Option String)
  | multipart (m : PreparedMultipart)
  deriving DecidableEq, Repr, Inhabited

namespace Entity

/-- Prepare one part: its payload read from a stream if it is one, with the part as it is
left. -/
def preparePart (cs : Charset) (p : Part) : Except Error PreparedPart × Part :=
  let done (payload : PreparedPayload) : PreparedPart :=
    ⟨p.name, p.fileName, p.effectiveContentType cs, p.contentType.isSome, payload⟩
  match p.payload with
  | .file path => (.ok (done (.file path)), p)
  | .bytes data => (.ok (done (.bytes data)), p)
  | .text value => (.ok (done (.text value)), p)
  | .stream none =>
    (.error (.body ("Stream payload of part `" ++ p.name ++ "` was already consumed")), p)
  | .stream (some source) =>
    let taken := { p with payload := .stream none }
    match source.readToEnd.1 with
    | (data, none) => (.ok (done (.bytes data)), taken)
    | (_, some e) =>
      (.error (.body ("Cannot read stream payload of part `" ++ p.name ++ "`: " ++ e.message)),
        taken)

/-- Prepare parts in order, stopping at the first failure. -/
def prepareParts (cs : Charset) : List Part → Except Error (List PreparedPart) × List Part
  | [] => (.ok [], [])
  | p :: rest =>
    match preparePart cs p with
    | (.error e, p') => (.error e, p' :: rest)
    | (.ok q, p') =>
      match prepareParts cs rest with
      | (.ok qs, rest') => (.ok (q :: qs), p' :: rest')
      | (.error e, rest') => (.error e, p' :: rest')

/-- The entity of a request, and the request as preparing leaves it. -/
def prepare (r : Request) : Except Error (Option Entity) × Request :=
  match r.body with
  | none => (.ok none, r)
  | some (.raw data _) =>
    (do
      let m ← r.resolveContentType
      pure (some (.bytes data (m.map MediaType.render))), r)
  | some (.form f) =>
    (.ok (some (.bytes (Utf8.encode f.encode) (some f.contentType.render))), r)
  | some (.multipart m) =>
    match prepareParts m.charset m.parts with
    | (result, parts) =>
      (result.map fun ps => some (.multipart ⟨m.boundary, m.charset, ps⟩),
        { r with body := some (.multipart { m with parts := parts }) })

/-- The bytes to send and their content type; `fresh` is the boundary a multipart body
without its own is framed with. -/
def toWire (files : FileStore) (fresh : String) : Entity → Except Error Wire
  | .bytes data ct => .ok ⟨data, ct⟩
  | .multipart m => m.encode files fresh

/-- Does the entity set the content type? -/
def setsContentType : Option Entity → Bool
  | some (.bytes _ ct) => ct.isSome
  | some (.multipart _) => true
  | none => false

/-- The name of the header that says what the client accepts. -/
def acceptHeader : String := "Accept"

/-- The headers sent with a request and its entity. -/
def outgoingHeaders (r : Request) (e : Option Entity) : List (String × String) :=
  let kept := r.headers.pairs.filter fun (name, _) =>
    !Ascii.eqFold name "Content-Length" &&
      !(setsContentType e && Ascii.eqFold name Request.contentTypeHeader)
  if r.headers.contains acceptHeader then kept else kept ++ [(acceptHeader, "*/*")]

/-- The kind of an entity as a word: `none`, `bytes` or `multipart`. -/
def kindName : Option Entity → String
  | none => "none"
  | some (.bytes _ _) => "bytes"
  | some (.multipart _) => "multipart"

end Entity

end HttpCall
