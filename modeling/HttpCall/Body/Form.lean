import HttpCall.Charset.Encode
import HttpCall.MediaType.Basic
import HttpCall.Url.Percent

/-!
# URL-encoded forms

A form is a list of named fields in the order they were added, written in one charset.
Its text is `name=value` pairs joined by `&`: each name and value is first written in
the form's charset, then every byte that is not an ASCII letter or digit or one of
`*-._` is escaped as `%XX` with capital hexadecimal digits, except the blank, which
becomes `+`.
-/

namespace HttpCall

/-- Ordered form fields and the charset they are written in. -/
structure FormBody where
  items : List (String × String) := []
  charset : Charset := .utf8
  deriving DecidableEq, Repr, Inhabited

namespace FormBody

/-- Is a byte written as itself in a form? -/
def keepsByte (b : Nat) : Bool :=
  (48 ≤ b && b ≤ 57) || (65 ≤ b && b ≤ 90) || (97 ≤ b && b ≤ 122) ||
    b == 42 || b == 45 || b == 46 || b == 95

/-- The text of bytes in a form: kept bytes as they are, a blank as `+`, the rest
escaped. -/
def serializeBytes (bytes : List UInt8) : String :=
  String.ofList (bytes.flatMap fun byte =>
    let b := byte.toNat
    if keepsByte b then [Char.ofNat b]
    else if b = 32 then ['+']
    else Percent.escape b)

/-- A field added at the end. -/
def field (f : FormBody) (name value : String) : FormBody :=
  { f with items := f.items ++ [(name, value)] }

/-- The text of a form. -/
def encode (f : FormBody) : String :=
  "&".intercalate (f.items.map fun (name, value) =>
    serializeBytes (f.charset.encode name) ++ "=" ++ serializeBytes (f.charset.encode value))

/-- The media type of a form: `application/x-www-form-urlencoded` with its charset. -/
def contentType (f : FormBody) : MediaType :=
  MediaType.formUrlencoded.withCharset f.charset

theorem encode_nil (cs : Charset) : encode ⟨[], cs⟩ = "" := rfl

end FormBody

end HttpCall
