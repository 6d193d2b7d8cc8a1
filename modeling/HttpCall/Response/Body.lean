import HttpCall.Charset.Decode
import HttpCall.Error
import HttpCall.MediaType.Basic
import HttpCall.Stream.Source
import HttpCall.Text.Properties

/-!
# Response bodies

A response body is a one-shot handle over a received entity: the reader it reads from
(gone once the body is released), the length and type the server declared, and whether
a read has reached the end. Any `ByteReader` can stand under a body.

* A read on an exhausted body serves nothing; on a released body it fails with
  `response body already released`. A read of a nonempty buffer that serves nothing
  marks the body exhausted.
* Closing releases the source, and reports it when the end was not reached.
* `bytes` reads to the end and closes, also when the reading fails; a failure becomes a
  transport error classified by its kind. `string` decodes those bytes in the charset
  asked for, or else in the charset the declared type names, or else in UTF-8.
* The length is the declared one when it fits a signed 32-bit number.
-/

namespace HttpCall

/-- A handle over a received entity, read from a reader of type `ρ`. -/
structure ResponseBody (ρ : Type) where
  /-- The reader, until the body is released. -/
  source : Option ρ
  contentLength : Option Nat := none
  contentType : Option String := none
  exhausted : Bool := false
  deriving DecidableEq, Repr, Inhabited

namespace ResponseBody

variable {ρ : Type} [ByteReader ρ]

/-- A body over a reader, not yet read. -/
def new (source : ρ) (contentLength : Option Nat) (contentType : Option String) :
    ResponseBody ρ :=
  { source := some source, contentLength, contentType }

/-- The error of reading a released body. -/
def releasedError : IoError := ⟨.other, "response body already released"⟩

/-- The greatest length reported. -/
def maxLength : Nat := Nat.pow 2 31 - 1

/-- Has the source been released? -/
def isReleased (b : ResponseBody ρ) : Bool := b.source.isNone

/-- Streaming bodies can be read only once. -/
def isRepeatable (_ : ResponseBody ρ) : Bool := false

/-- The declared length, if it fits a signed 32-bit number. -/
def length? (b : ResponseBody ρ) : Option Nat :=
  b.contentLength.bind fun n => if n ≤ maxLength then some n else none

/-- One read into a buffer of `len` bytes. -/
def read (b : ResponseBody ρ) (len : Nat) : Except IoError (List UInt8) × ResponseBody ρ :=
  if b.exhausted then (.ok [], b)
  else
    match b.source with
    | none => (.error releasedError, b)
    | some s =>
      match ByteReader.read s len with
      | (.error e, s') => (.error e, { b with source := some s' })
      | (.ok bytes, s') =>
        (.ok bytes, { b with source := some s', exhausted := bytes.isEmpty && len != 0 })

/-- What is left to read: bytes and scheduled failures, while the body can serve any. -/
def workLeft (b : ResponseBody ρ) : Nat :=
  match b.source with
  | some s => ByteReader.workLeft s
  | none => 0

/-- Read to the end, with `acc` the bytes so far reversed; `fuel` bounds the reads. -/
def readToEndFrom : Nat → ResponseBody ρ → List UInt8 → (List UInt8 × Option IoError) × ResponseBody ρ
  | 0, b, acc => ((acc.reverse, none), b)
  | fuel + 1, b, acc =>
    match b.read (b.workLeft + 1) with
    | (.ok [], b') => ((acc.reverse, none), b')
    | (.ok bytes, b') => readToEndFrom fuel b' (bytes.reverse ++ acc)
    | (.error e, b') =>
      if e.kind = .interrupted then readToEndFrom fuel b' acc
      else ((acc.reverse, some e), b')

/-- Everything up to the end, or up to the first failure that is not an interruption,
with that failure. -/
def readToEnd (b : ResponseBody ρ) : (List UInt8 × Option IoError) × ResponseBody ρ :=
  readToEndFrom (b.workLeft + 1) b []

/-- The report of a body released before its end. -/
def earlyReleaseLog : LogEntry := .debug "Releasing response body before end of stream"

/-- Release the source; releasing again does nothing. -/
def close (b : ResponseBody ρ) : List LogEntry × ResponseBody ρ :=
  match b.source with
  | some _ => (if b.exhausted then [] else [earlyReleaseLog], { b with source := none })
  | none => ([], b)

/-- Read the rest and release the body, even when reading fails. -/
def bytes (b : ResponseBody ρ) : List LogEntry × Except Error (List UInt8) × ResponseBody ρ :=
  let ((data, failure), b) := b.readToEnd
  let (logs, b) := b.close
  match failure with
  | some e => (logs, .error (Error.ofIo e), b)
  | none => (logs, .ok data, b)

/-- The charset the declared type names, or UTF-8 when it names none or does not read. -/
def declaredCharset (b : ResponseBody ρ) : Charset :=
  match b.contentType with
  | some value =>
    match MediaType.parse value with
    | .ok m => m.charsetOrDefault
    | .error _ => .utf8
  | none => .utf8

/-- Decode the rest and release the body, even when reading fails. -/
def string (b : ResponseBody ρ) (cs : Option Charset) :
    List LogEntry × Except Error String × ResponseBody ρ :=
  let cs := cs.getD b.declaredCharset
  let (logs, result, b) := b.bytes
  (logs, result.map cs.decode, b)

/-- The debugging text of a body. -/
def debugText (b : ResponseBody ρ) : String :=
  "ResponseBody \x7b content_length: " ++
    (match b.contentLength with
      | some n => "Some(" ++ toString n ++ ")"
      | none => "None") ++
    ", content_type: " ++ Escaped.optionQuote b.contentType ++
    ", exhausted: " ++ toString b.exhausted ++
    ", released: " ++ toString b.isReleased ++ " \x7d"

end ResponseBody

end HttpCall
