import HttpCall.Url.Host

/-!
# URLs

A parsed URL: its scheme, the userinfo and host of its authority if it has one, an
optional port, a path, and an optional query and fragment. Components are stored as
they are written, already percent-encoded.

The text of a URL is the scheme and a colon; then, if there is an authority, `//`, the
username, `:` and the password if the password is not empty, `@` if either is not
empty, the host, and `:` and the port if there is one; then the path, `?` and the query,
`#` and the fragment. A path is either opaque text, or a list of segments each written
after a slash.

An empty host counts as no host: such a URL has no host text and cannot carry a username
or a password, nor can a `file` URL.
-/

namespace HttpCall

/-- The path of a URL. -/
inductive UrlPath where
  | plain (text : String)
  | segments (items : List String)
  deriving DecidableEq, Repr, Inhabited

/-- The text of a path. -/
def UrlPath.render : UrlPath → String
  | .plain text => text
  | .segments items => String.join (items.map ("/" ++ ·))

/-- An absolute URL. -/
structure Url where
  scheme : String
  username : String := ""
  password : String := ""
  host : Option Host := none
  port : Option Nat := none
  path : UrlPath := .segments []
  query : Option String := none
  fragment : Option String := none
  deriving DecidableEq, Repr, Inhabited

namespace Url

/-- The userinfo and its `@`, or nothing. -/
def userinfoText (u : Url) : String :=
  if u.username.isEmpty && u.password.isEmpty then ""
  else u.username ++ (if u.password.isEmpty then "" else ":" ++ u.password) ++ "@"

/-- The text of a URL. -/
def render (u : Url) : String :=
  u.scheme ++ ":" ++
  (match u.host with
    | some h =>
      "//" ++ u.userinfoText ++ h.render ++
        (match u.port with | some p => ":" ++ toString p | none => "")
    | none => "") ++
  u.path.render ++
  (match u.query with | some q => "?" ++ q | none => "") ++
  (match u.fragment with | some f => "#" ++ f | none => "")

/-- Does the URL have a host? An empty host counts as none. -/
def hasHost (u : Url) : Bool :=
  match u.host with
  | some (.domain "") => false
  | some _ => true
  | none => false

/-- The host as text, if there is a host. -/
def hostText? (u : Url) : Option String :=
  if u.hasHost then u.host.map Host.render else none

/-- Can the URL carry a username and a password? Only one with a host, and not a `file`
URL. -/
def canCarryCredentials (u : Url) : Bool :=
  u.hasHost && u.scheme != "file"

/-- The URL with a username, percent-encoded for userinfo; none if the URL cannot carry
one. -/
def withUsername (u : Url) (name : String) : Option Url :=
  if u.canCarryCredentials then some { u with username := Percent.encode .userinfo name }
  else none

/-- The URL with a password, percent-encoded for userinfo; none if the URL cannot carry
one. -/
def withPassword (u : Url) (password : String) : Option Url :=
  if u.canCarryCredentials then some { u with password := Percent.encode .userinfo password }
  else none

end Url

end HttpCall
