import HttpCall.Url.Parse
import HttpCall.Text.Properties

/-!
# Proxies

A proxy is a host, a port, a protocol (HTTP or SOCKS5) and optional basic credentials.
Its URL is `http://host:port` or `socks5://host:port`, read by the URL parser; a host
with a colon that does not start with a square bracket is put in brackets as an IPv6
address. A host that the parser refuses makes the proxy unusable, with the parser's
reason. The URL with credentials carries them percent-encoded in its userinfo; a missing
half of the credentials is empty. A URL with an empty host, which a SOCKS5 host such as
`#` or `/x` leaves, cannot carry them.
-/

namespace HttpCall

/-- The protocol spoken with a proxy. -/
inductive ProxyKind where
  | http
  | socks
  deriving DecidableEq, Repr, Inhabited

namespace ProxyKind

/-- The name of a protocol in settings and JSON. -/
def name : ProxyKind → String
  | http => "http"
  | socks => "socks"

/-- The name of a protocol in debugging output. -/
def debugName : ProxyKind → String
  | http => "Http"
  | socks => "Socks"

/-- The scheme of a proxy URL. -/
def scheme : ProxyKind → String
  | http => "http"
  | socks => "socks5"

/-- The protocol a name denotes. -/
def ofName? : String → Option ProxyKind
  | "http" => some http
  | "socks" => some socks
  | _ => none

end ProxyKind

/-- A proxy and its credentials. -/
structure ProxyInfo where
  host : String
  port : UInt16
  kind : ProxyKind := .http
  username : Option String := none
  password : Option String := none
  deriving DecidableEq, Repr, Inhabited

namespace ProxyInfo

/-- The credentials when either half is set, the missing half empty. -/
def credentials (p : ProxyInfo) : Option (String × String) :=
  if p.username.isNone && p.password.isNone then none
  else some (p.username.getD "", p.password.getD "")

/-- The host as it stands in the proxy URL. -/
def urlHost (p : ProxyInfo) : String :=
  if p.host.contains ':' && !p.host.startsWith "[" then "[" ++ p.host ++ "]" else p.host

/-- The URL of the proxy, without credentials. -/
def url (p : ProxyInfo) : Except Error Url :=
  match Url.parse (p.kind.scheme ++ "://" ++ p.urlHost ++ ":" ++ toString p.port) with
  | .ok u => .ok u
  | .error e => .error (.proxy ("Invalid proxy address `" ++ p.host ++ "`: " ++ e.message))

/-- The URL of the proxy with its credentials in the userinfo. -/
def urlWithCredentials (p : ProxyInfo) : Except Error Url := do
  let u ← p.url
  match p.credentials with
  | some (user, pass) =>
    match (u.withUsername user).bind (·.withPassword pass) with
    | some u' => pure u'
    | none => throw (.proxy "Proxy URL cannot carry credentials")
  | none => pure u

/-- The debugging text of a proxy, with the password hidden. -/
def debugText (p : ProxyInfo) : String :=
  "ProxyInfo \x7b host: " ++ Escaped.quote p.host ++ ", port: " ++ toString p.port ++
    ", proxy_type: " ++ p.kind.debugName ++ ", username: " ++
    Escaped.optionQuote p.username ++ ", password: " ++
    Escaped.optionQuote (p.password.map fun _ => "<redacted>") ++ " \x7d"

end ProxyInfo

end HttpCall
