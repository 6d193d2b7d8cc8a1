import HttpCall.Body.Basic
import HttpCall.Wire.Files

/-!
# Multipart framing

A multipart body is prepared once per call: streams are read into memory, so that every
attempt of the call sends the same bytes, and each part's content type is fixed. Files
are read only when the body is framed.

The frame of each part is `--boundary`, a `Content-Disposition: form-data` line with the
part's name and file name, a `Content-Type` line when the type was set by the caller or
the payload is binary, an empty line, the payload and a line break. The body ends with
`--boundary--` and a line break. Names and file names are written in the body's charset
with `"`, carriage return and line feed escaped as `%22`, `%0D` and `%0A`; a text value
is written in its part's charset, or the body's.
-/

namespace HttpCall

/-- A payload ready to be sent any number of times. -/
inductive PreparedPayload where
  | file (path : String)
  | bytes (data : List UInt8)
  | text (value : String)
  deriving DecidableEq, Repr, Inhabited

namespace PreparedPayload

/-- Binary payloads always get a `Content-Type` line. -/
def isBinary : PreparedPayload → Bool
  | .text _ => false
  | _ => true

end PreparedPayload

/-- A part with its content type fixed. -/
structure PreparedPart where
  name : String
  fileName : Option String
  contentType : MediaType
  /-- Was the content type set by the caller? Such a type is always written. -/
  explicitType : Bool
  payload : PreparedPayload
  deriving DecidableEq, Repr, Inhabited

/-- A multipart body with its streams read. -/
structure PreparedMultipart where
  boundary : Option String
  charset : Charset
  parts : List PreparedPart
  deriving DecidableEq, Repr, Inhabited

/-- Bytes to send and the `Content-Type` they go with. -/
structure Wire where
  data : List UInt8
  contentType : Option String
  deriving DecidableEq, Repr, Inhabited

namespace PreparedMultipart

/-- The bytes of ASCII text. -/
def ascii (s : String) : List UInt8 := Utf8.encode s

/-- A name or file name as written in a part's header. -/
def headerParam (m : PreparedMultipart) (value : String) : List UInt8 :=
  let escaped := value.toList.flatMap fun c =>
    if c = '"' then "%22".toList
    else if c = '\r' then "%0D".toList
    else if c = '\n' then "%0A".toList
    else [c]
  m.charset.encode (String.ofList escaped)

/-- The header lines of a part, up to and with the empty line. -/
def partHead (m : PreparedMultipart) (boundary : String) (p : PreparedPart) : List UInt8 :=
  ascii "--" ++ Utf8.encode boundary ++ ascii "\r\nContent-Disposition: form-data; name=\"" ++
    m.headerParam p.name ++ ascii "\"" ++
    (match p.fileName with
      | some fn => ascii "; filename=\"" ++ m.headerParam fn ++ ascii "\""
      | none => []) ++
    ascii "\r\n" ++
    (if p.explicitType || p.payload.isBinary then
      ascii "Content-Type: " ++ Utf8.encode p.contentType.render ++ ascii "\r\n"
    else []) ++
    ascii "\r\n"

/-- The payload bytes of a part; a file that cannot be read fails the body. -/
def partBody (m : PreparedMultipart) (files : FileStore) (p : PreparedPart) :
    Except Error (List UInt8) :=
  match p.payload with
  | .file path =>
    match files.read path with
    | .ok data => .ok data
    | .error e =>
      .error (.body ("Cannot read file part `" ++ p.name ++ "` from " ++ path ++ ": " ++ e.message))
  | .bytes data => .ok data
  | .text value => .ok ((p.contentType.charset.getD m.charset).encode value)

/-- The framed bytes of the parts, with a boundary. -/
def frameParts (m : PreparedMultipart) (files : FileStore) (boundary : String) :
    List PreparedPart → Except Error (List UInt8)
  | [] => .ok (ascii "--" ++ Utf8.encode boundary ++ ascii "--\r\n")
  | p :: rest => do
    let body ← m.partBody files p
    let tail ← frameParts m files boundary rest
    pure (m.partHead boundary p ++ body ++ ascii "\r\n" ++ tail)

/-- The framed body and its full content type, with the caller's boundary or else
`fresh`. -/
def encode (m : PreparedMultipart) (files : FileStore) (fresh : String) : Except Error Wire := do
  let boundary := m.boundary.getD fresh
  let data ← m.frameParts files boundary m.parts
  pure ⟨data, some ("multipart/form-data; boundary=" ++ boundary ++ "; charset=" ++ m.charset.name)⟩

end PreparedMultipart

/-- The length of a generated boundary. -/
def boundaryLength : Nat := 30

/-- Is a text shaped like a generated boundary: thirty ASCII letters and digits? -/
def isBoundaryShape (s : String) : Bool :=
  s.length == boundaryLength && s.all fun c => c.isAlphanum

end HttpCall
