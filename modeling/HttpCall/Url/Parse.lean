import HttpCall.Url.Basic
import HttpCall.Text.Ascii
import HttpCall.Text.Blank
import HttpCall.Error

/-!
# Reading URLs

The URL parser of the WHATWG URL Standard for absolute URLs, without a base.

* Controls and spaces at either end are dropped, and tabs and line breaks anywhere.
* The scheme is an ASCII letter followed by letters, digits, `+`, `-` and `.`, ended
  by `:`, and is folded to small letters; without one the text is a relative URL, which
  needs a base.
* `http`, `https`, `ws`, `wss` and `ftp` are special, with default ports 80, 443, 80,
  443 and 21; their authority follows any run of slashes and backslashes, a backslash
  counts as a slash, and the path is never empty. `file` URLs have a host but no
  userinfo or port. Other schemes have an authority only after `//`, and otherwise an
  opaque path.
* The userinfo ends at the last `@` of the authority; the username runs to its first
  `:`. The host ends at a `:` outside square brackets or at the end of the authority; a
  port is up to five decimal digits below 65536 and is dropped when it is the scheme's
  default.
* Path segments `.` and `..` (also written with `%2e`) are resolved as they are read.
-/

namespace HttpCall

/-- How a scheme is treated by the parser. -/
inductive SchemeKind where
  | special (defaultPort : Nat)
  | file
  | other
  deriving DecidableEq, Repr, Inhabited

namespace Url

/-- The kind of a scheme. -/
def schemeKind : String → SchemeKind
  | "http" | "ws" => .special 80
  | "https" | "wss" => .special 443
  | "ftp" => .special 21
  | "file" => .file
  | _ => .other

/-- The input with controls and spaces trimmed and tabs and line breaks removed. -/
def prepare (s : String) : List Char :=
  (Blank.trimListBy (fun c => c.toNat ≤ 0x20) s.toList).filter
    (fun c => c != '\t' && c != '\n' && c != '\r')

/-- The rest of a scheme after its first letter, `acc` reversed. -/
def schemeRest (acc : List Char) : List Char → Option (String × List Char)
  | ':' :: rest => some (String.ofList acc.reverse, rest)
  | c :: rest =>
    if Ascii.isAlnum c || c == '+' || c == '-' || c == '.' then
      schemeRest (Ascii.lower c :: acc) rest
    else none
  | [] => none

/-- The scheme, folded to small letters, and the text after its colon. -/
def splitScheme : List Char → Option (String × List Char)
  | c :: rest => if Ascii.isAlpha c then schemeRest [Ascii.lower c] rest else none
  | [] => none

/-- Does the character end the authority? -/
def endsAuthority (special : Bool) (c : Char) : Bool :=
  c == '/' || c == '?' || c == '#' || (special && c == '\\')

/-- The position of the last occurrence of a character. -/
def lastIndexOf? (x : Char) (cs : List Char) : Option Nat :=
  (cs.zipIdx.filter (·.1 == x)).getLast?.map (·.2)

/-- Text percent-encoded for userinfo. -/
def encodeUserinfo (cs : List Char) : String :=
  Percent.encode .userinfo (String.ofList cs)

/-- The username, the password (both encoded) and the rest of the authority. -/
def splitUserinfo (special : Bool) (cs : List Char) :
    Except UrlError (String × String × List Char) :=
  match lastIndexOf? '@' (cs.takeWhile (!endsAuthority special ·)) with
  | none => .ok ("", "", cs)
  | some 0 =>
    let after := cs.drop 1
    match after with
    | c :: _ => if endsAuthority special c then .error .emptyHost else .ok ("", "", after)
    | [] => .ok ("", "", after)
  | some k =>
    let info := cs.take k
    let (user, pass) := match info.idxOf? ':' with
      | some i => (info.take i, info.drop (i + 1))
      | none => (info, [])
    .ok (encodeUserinfo user, encodeUserinfo pass, cs.drop (k + 1))

/-- The host text and what follows it: the host ends at a `:` outside square brackets or
where the authority ends. -/
def splitHost (special : Bool) : Bool → List Char → List Char × List Char
  | _, [] => ([], [])
  | inside, c :: rest =>
    if (c == ':' && !inside) || endsAuthority special c then ([], c :: rest)
    else
      let inside := if c == '[' then true else if c == ']' then false else inside
      let (h, r) := splitHost special inside rest
      (c :: h, r)

/-- A port after its colon: decimal digits up to a slash, backslash, `?`, `#` or the
end; `none` when there are no digits. -/
def readPort (acc : Nat) (seen : Bool) : List Char → Except UrlError (Option Nat × List Char)
  | [] => .ok (if seen then some acc else none, [])
  | c :: rest =>
    if c.isDigit then
      let v := acc * 10 + (c.toNat - 48)
      if 65535 < v then .error .invalidPort else readPort v true rest
    else if c == '/' || c == '\\' || c == '?' || c == '#' then
      .ok (if seen then some acc else none, c :: rest)
    else .error .invalidPort

/-- Is a path segment `.`? -/
def isSingleDot (s : String) : Bool :=
  Ascii.lowerText s == "." || Ascii.lowerText s == "%2e"

/-- Is a path segment `..`? -/
def isDoubleDot (s : String) : Bool :=
  [".." , ".%2e", "%2e.", "%2e%2e"].contains (Ascii.lowerText s)

/-- The path after one more segment; `slashAfter` says whether a slash ended it. A
`..` removes the last segment, and a dot segment at the end leaves an empty one. -/
def pushSegment (path : List String) (seg : String) (slashAfter : Bool) : List String :=
  if isDoubleDot seg then
    if slashAfter then path.dropLast else path.dropLast ++ [""]
  else if isSingleDot seg then
    if slashAfter then path else path ++ [""]
  else path ++ [seg]

/-- The segments of a path in order, each but the last ended by a slash. -/
def buildPath (path : List String) : List String → List String
  | [] => path
  | [s] => pushSegment path s false
  | s :: rest => buildPath (pushSegment path s true) rest

/-- The raw segments of a path up to `?`, `#` or the end, and what follows; a slash
(or, in a special URL, a backslash) ends a segment. -/
def splitPath (special : Bool) (cur : List Char) (done : List (List Char)) :
    List Char → List (List Char) × List Char
  | [] => ((cur.reverse :: done).reverse, [])
  | c :: rest =>
    if c == '?' || c == '#' then ((cur.reverse :: done).reverse, c :: rest)
    else if c == '/' || (special && c == '\\') then splitPath special [] (cur.reverse :: done) rest
    else splitPath special (c :: cur) done rest

/-- A path of segments read from the text after its first slash. -/
def readPath (special : Bool) (cs : List Char) : List String × List Char :=
  let (raw, rest) := splitPath special [] [] cs
  (buildPath [] (raw.map fun s => Percent.encode .path (String.ofList s)), rest)

/-- The query and the fragment. -/
def readQueryFragment (special : Bool) : List Char → Option String × Option String
  | '?' :: rest =>
    let q := rest.takeWhile (· != '#')
    let f := (rest.dropWhile (· != '#')).drop 1
    let hasFragment := rest.contains '#'
    (some (Percent.encode (if special then .specialQuery else .query) (String.ofList q)),
      if hasFragment then some (Percent.encode .fragment (String.ofList f)) else none)
  | '#' :: rest => (none, some (Percent.encode .fragment (String.ofList rest)))
  | _ => (none, none)

/-- A URL of a special scheme other than `file`, from the text after its colon. -/
def parseSpecial (scheme : String) (defaultPort : Nat) (cs : List Char) :
    Except UrlError Url := do
  let cs := cs.dropWhile (fun c => c == '/' || c == '\\')
  let (username, password, rest) ← splitUserinfo true cs
  let (hostText, rest) := splitHost true false rest
  if hostText.isEmpty then throw .emptyHost
  let host ← Host.parseSpecial (String.ofList hostText)
  let (port, rest) ← match rest with
    | ':' :: r => readPort 0 false r
    | _ => pure (none, rest)
  let port := if port == some defaultPort then none else port
  let rest := match rest with
    | c :: r => if c == '/' || c == '\\' then r else rest
    | [] => []
  let (path, rest) := readPath true rest
  let (query, fragment) := readQueryFragment true rest
  pure { scheme, username, password, host := some host, port, path := .segments path,
         query, fragment }

/-- A URL of a scheme that is not special, from the text after its `//`. -/
def parseOtherAuthority (scheme : String) (cs : List Char) : Except UrlError Url := do
  let (username, password, rest) ← splitUserinfo false cs
  let (hostText, rest) := splitHost false false rest
  let host ← Host.parseNonSpecial (String.ofList hostText)
  let emptyHost := host == .domain ""
  if emptyHost && rest.head? == some ':' then throw .emptyHost
  let (port, rest) ← match rest with
    | ':' :: r => readPort 0 false r
    | _ => pure (none, rest)
  if emptyHost && !(username.isEmpty && password.isEmpty) then throw .emptyHost
  let (path, rest) := match rest with
    | [] => ([], [])
    | c :: r =>
      if c == '?' || c == '#' then ([], rest)
      else readPath false (if c == '/' then r else rest)
  let (query, fragment) := readQueryFragment false rest
  pure { scheme, username, password, host := some host, port, path := .segments path,
         query, fragment }

/-- A URL of a scheme that is not special and has no authority. -/
def parseOtherPath (scheme : String) (cs : List Char) : Url :=
  let (path, rest) := match cs with
    | '/' :: r => let (p, rest) := readPath false r; (UrlPath.segments p, rest)
    | _ =>
      let body := cs.takeWhile (fun c => c != '?' && c != '#')
      (.plain (Percent.encode .controls (String.ofList body)), cs.drop body.length)
  let (query, fragment) := readQueryFragment false rest
  { scheme, path, query, fragment }

/-- Is the text a letter followed by `:` or `|`? -/
def isDriveLetter : List Char → Bool
  | [a, b] => Ascii.isAlpha a && (b == ':' || b == '|')
  | _ => false

/-- A `file` URL from the text after its colon. Only a host after two slashes can be
refused; `localhost` and a drive letter stand for no host. -/
def parseFile (cs : List Char) : Except UrlError Url :=
  let isSlash (c : Char) := c == '/' || c == '\\'
  let whole : Url := { scheme := "file", path := .plain (String.ofList cs) }
  match cs with
  | a :: b :: rest =>
    if isSlash a && isSlash b then
      let hostText := rest.takeWhile (fun c => !(isSlash c || c == '?' || c == '#'))
      if hostText.isEmpty || isDriveLetter hostText then .ok whole
      else match Host.parseSpecial (String.ofList hostText) with
        | .ok (.domain "localhost") => .ok whole
        | .ok h => .ok { whole with host := some h }
        | .error e => .error e
    else .ok whole
  | _ => .ok whole

/-- Read an absolute URL. -/
def parse (input : String) : Except UrlError Url :=
  match splitScheme (prepare input) with
  | none => .error .relativeWithoutBase
  | some (scheme, rest) =>
    match schemeKind scheme with
    | .special port => parseSpecial scheme port rest
    | .file => parseFile rest
    | .other =>
      match rest with
      | '/' :: '/' :: r => parseOtherAuthority scheme r
      | _ => .ok (parseOtherPath scheme rest)

/-- Read the URL of a call: an absolute `http` or `https` URL with a host. -/
def parseHttp (raw : String) : Except Error Url :=
  match parse raw with
  | .error e => .error (.urlSyntax raw e.message)
  | .ok u =>
    if u.scheme == "http" || u.scheme == "https" then
      match u.hostText? with
      | some h => if h.isEmpty then .error (.urlSyntax raw "missing host") else .ok u
      | none => .error (.urlSyntax raw "missing host")
    else .error (.urlSyntax raw ("unsupported scheme `" ++ u.scheme ++ "`"))

end Url

end HttpCall
