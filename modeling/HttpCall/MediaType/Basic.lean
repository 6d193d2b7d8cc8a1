import HttpCall.Charset.Basic
import HttpCall.Error

/-!
# Media types

A media type is a type, a subtype and an optional charset; every other parameter of a
`Content-Type` text is dropped when it is read. Type and subtype are stored with small
ASCII letters, so equality ignores their case.

Reading (`MediaType.parse`): the text up to the first `;` is the media range, trimmed of
Unicode white space and split at its first `/`; each half is trimmed again and folded.
The parameters after it are split on `;` outside double quotes (a backslash inside quotes
escapes the next character). A parameter whose key is `charset` in any case names the
charset by a WHATWG label, unquoted and trimmed; an empty label is skipped and the last
`charset` wins.

Writing (`MediaType.render`): `type/subtype`, then `; charset=` and the charset's
canonical name when there is one.
-/

namespace HttpCall

/-- A media type with an optional charset. -/
structure MediaType where
  type : String
  subtype : String
  charset : Option Charset := none
  deriving DecidableEq, Repr, Inhabited

namespace MediaType

/-- `type/subtype`, without parameters. -/
def essence (m : MediaType) : String :=
  m.type ++ "/" ++ m.subtype

/-- The text of a media type: its essence and its charset's canonical name. -/
def render (m : MediaType) : String :=
  match m.charset with
  | none => m.essence
  | some cs => m.essence ++ "; charset=" ++ cs.name

/-- The declared charset, or UTF-8. -/
def charsetOrDefault (m : MediaType) : Charset :=
  m.charset.getD .utf8

/-- The same type with its charset set. -/
def withCharset (m : MediaType) (cs : Charset) : MediaType :=
  { m with charset := some cs }

/-- Type and subtype agree; the charset is not compared. -/
def sameEssence (a b : MediaType) : Bool :=
  a.type == b.type && a.subtype == b.subtype

/-- `application/octet-stream`, for binary content of no known type. -/
def octetStream : MediaType := ⟨"application", "octet-stream", none⟩
/-- `application/json`. -/
def json : MediaType := ⟨"application", "json", none⟩
/-- `application/x-www-form-urlencoded`. -/
def formUrlencoded : MediaType := ⟨"application", "x-www-form-urlencoded", none⟩
/-- `multipart/form-data`. -/
def formData : MediaType := ⟨"multipart", "form-data", none⟩
/-- `text/plain`. -/
def textPlain : MediaType := ⟨"text", "plain", none⟩
/-- `text/html`. -/
def textHtml : MediaType := ⟨"text", "html", none⟩

/-- The parameter texts after the media range: split on `;` outside double quotes, where
a backslash inside quotes escapes the character after it. -/
def splitParams (cs : List Char) : List (List Char) :=
  go cs false false [] []
where
  /-- `cur` holds the current parameter reversed, `done` the finished ones reversed. -/
  go : List Char → Bool → Bool → List Char → List (List Char) → List (List Char)
    | [], _, _, cur, done => (cur.reverse :: done).reverse
    | c :: rest, inQuotes, escaped, cur, done =>
      if escaped then go rest inQuotes false (c :: cur) done
      else if c = '\\' ∧ inQuotes then go rest inQuotes true (c :: cur) done
      else if c = '"' then go rest (!inQuotes) false (c :: cur) done
      else if c = ';' ∧ ¬inQuotes then go rest inQuotes false [] (cur.reverse :: done)
      else go rest inQuotes false (c :: cur) done

/-- Backslash escapes removed: each backslash gives the character after it, and a
backslash at the end gives nothing. -/
def unescape : List Char → List Char
  | [] => []
  | ['\\'] => []
  | '\\' :: c :: rest => c :: unescape rest
  | c :: rest => c :: unescape rest

/-- A parameter value with its surrounding double quotes removed and its escapes
resolved; a value not quoted on both ends is kept as it is. -/
def unquote (v : List Char) : List Char :=
  match v with
  | '"' :: rest =>
    match rest.reverse with
    | '"' :: inner => unescape inner.reverse
    | _ => v
  | _ => v

/-- The first part of a list before an element, and what follows that element. -/
def splitAtFirst (sep : Char) (cs : List Char) : Option (List Char × List Char) :=
  match cs.idxOf? sep with
  | some i => some (cs.take i, cs.drop (i + 1))
  | none => none

/-- The charset named by one parameter, if it is a `charset` parameter with a label. -/
def paramCharset (param : List Char) : Option (Except Error Charset) :=
  match splitAtFirst '=' param with
  | none => none
  | some (key, value) =>
    if Ascii.eqFold (Blank.trim (String.ofList key)) "charset" then
      let label := String.ofList (unquote (Blank.trimListBy Blank.isUnicodeBlank value))
      if label.isEmpty then none
      else some (match Charset.ofLabel? label with
        | some cs => .ok cs
        | none => .error (.unsupportedCharset label))
    else none

/-- The charset of a parameter list: the last `charset` parameter with a label wins, and
the first unknown label ends the reading with an error. -/
def paramsCharset : List (List Char) → Option Charset → Except Error (Option Charset)
  | [], acc => .ok acc
  | p :: ps, acc =>
    match paramCharset p with
    | none => paramsCharset ps acc
    | some (.ok cs) => paramsCharset ps (some cs)
    | some (.error e) => .error e

/-- Read a `Content-Type` text. -/
def parse (text : String) : Except Error MediaType :=
  let malformed := fun f => Except.error (Error.malformedMediaType text f)
  let cs := text.toList
  let (range, params) := match splitAtFirst ';' cs with
    | some (r, p) => (r, some p)
    | none => (cs, none)
  match splitAtFirst '/' (Blank.trimListBy Blank.isUnicodeBlank range) with
  | none => malformed .missingSlash
  | some (t, s) =>
    let ty := Ascii.lowerText (String.ofList (Blank.trimListBy Blank.isUnicodeBlank t))
    let sub := Ascii.lowerText (String.ofList (Blank.trimListBy Blank.isUnicodeBlank s))
    if ty.isEmpty then malformed .emptyType
    else if sub.isEmpty then malformed .emptySubtype
    else if ty == "*" && sub != "*" then malformed .wildcardType
    else do
      let charset ← match params with
        | none => pure none
        | some p => paramsCharset (splitParams p) none
      pure ⟨ty, sub, charset⟩

/-- Does reading the text of a media type give it back? -/
def reparses (m : MediaType) : Bool :=
  match parse m.render with
  | .ok m' => m' == m
  | .error _ => false

/-- A media type from its two halves, checked as `parse` checks `type/subtype`. -/
def ofParts (type subtype : String) : Except Error MediaType :=
  parse (type ++ "/" ++ subtype)

end MediaType

end HttpCall
