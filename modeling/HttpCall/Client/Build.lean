import HttpCall.Options.Basic
import HttpCall.Client.Backend
import HttpCall.Error

/-!
# Building clients

A client is an engine and the options it uses when a call brings none. Options a call
brings are used only when they differ from the client's; the call then builds an engine
of its own.

Building an engine checks what the engine cannot take:

* the `reqwest` engine has one I/O timeout, so it warns when the read and write
  timeouts differ and uses the larger; its proxy must have a URL (with the credentials
  in the userinfo for SOCKS5); and then its client builder may still fail, for reasons of
  the machine rather than of the options (a TLS backend that cannot start), which is why
  what the builder reports is a parameter of every build;
* the `ureq` engine needs a proxy URL with a host; it copies credentials into the proxy
  URI as they are, so they must be URI userinfo characters (letters, digits and
  `- . _ ~ ! $ & ' ( ) * + , ; = @ %`, and `:` in the username only); and the proxy URI
  it writes must read back as a URI authority.
-/

namespace HttpCall

/-- A client: its engine and its default options. -/
structure Client where
  backend : Backend
  defaults : Options
  deriving DecidableEq, Repr, Inhabited

namespace Client

/-- The options of a call and whether they differ from the client's defaults. -/
def effectiveOptions (defaults : Options) : Option Options → Options × Bool
  | some o => if o = defaults then (defaults, false) else (o, true)
  | none => (defaults, false)

/-- The warning of the `reqwest` engine about its single I/O timeout. -/
def timeoutWarnings (o : Options) : List LogEntry :=
  if o.writeTimeoutMillis ≠ o.readTimeoutMillis then
    [.warn ("reqwest has no separate write timeout, using max(read " ++
      toString o.readTimeoutMillis ++ " ms, write " ++ toString o.writeTimeoutMillis ++ " ms)")]
  else []

/-- May the character stand in proxy credentials as they are? -/
def isUserinfoChar (c : Char) : Bool :=
  c.isAlphanum && c.toNat < 128 || "-._~!$&'()*+,;=@%".contains c

/-- The message when credentials cannot be sent as they are. -/
def credentialsMessage : String :=
  "ureq only sends proxy credentials made of URI userinfo characters, with no `:` in the password"

/-- Can the credentials be sent as they are? -/
def credentialsSendable (username password : String) : Bool :=
  username.toList.all (fun c => isUserinfoChar c || c == ':') && password.toList.all isUserinfoChar

/-- The characters a URI may hold outside escapes. -/
def isUriChar (c : Char) : Bool :=
  c.toNat < 128 && (c.isAlphanum || "!#$&'()*+,-./:;=?@[]_~".contains c)

/-- Reading a URI authority, character by character. -/
structure AuthorityScan where
  colons : Nat := 0
  openBracket : Bool := false
  closeBracket : Bool := false
  percent : Bool := false
  lastAt : Option Nat := none
  deriving Inhabited

/-- One character of an authority at position `i`, or none if the text is refused. -/
def AuthorityScan.step (s : AuthorityScan) (i : Nat) (c : Char) : Option AuthorityScan :=
  if c == ':' then (if 8 ≤ s.colons then none else some { s with colons := s.colons + 1 })
  else if c == '[' then (if s.percent || s.openBracket then none else some { s with openBracket := true })
  else if c == ']' then
    (if !s.openBracket || s.closeBracket then none
     else some { s with closeBracket := true, colons := 0, percent := false })
  else if c == '@' then some { s with lastAt := some i, colons := 0, percent := false }
  else if c == '%' then some { s with percent := true }
  else if isUriChar c then some s
  else none

/-- Is the text a URI authority: valid characters, balanced brackets, at most one port
colon, something after the last `@`, and no `%` outside userinfo and brackets? -/
def isUriAuthority (text : String) : Bool :=
  let cs := text.toList.takeWhile (fun c => c != '/' && c != '?' && c != '#')
  match (cs.zipIdx).foldlM (fun s (c, i) => s.step i c) ({} : AuthorityScan) with
  | none => false
  | some s =>
    s.openBracket == s.closeBracket && s.colons ≤ 1 &&
      s.lastAt != some (cs.length - 1) && !s.percent

/-- The checks of the `ureq` engine on a proxy. -/
def agentProxyCheck (p : ProxyInfo) : Except Error Unit := do
  let u ← p.url
  let host ← match u.hostText? with
    | some h => pure h
    | none => throw (.proxy ("Invalid proxy address `" ++ p.host ++ "`"))
  let userinfo ← match p.credentials with
    | some (user, pass) =>
      if credentialsSendable user pass then pure (user ++ ":" ++ pass ++ "@")
      else throw (.proxy credentialsMessage)
    | none => pure ""
  if isUriAuthority (userinfo ++ host ++ ":" ++ toString p.port) then pure ()
  else throw (.proxy "invalid proxy url")

/-- The checks of the `reqwest` engine on a proxy. -/
def nativeProxyCheck (p : ProxyInfo) : Except Error Unit :=
  match p.kind with
  | .http => p.url.map fun _ => ()
  | .socks => p.urlWithCredentials.map fun _ => ()

/-- What the `reqwest` engine's client builder gives for options: the client, or the
failure `nativeBuild` reports for them. -/
def nativeBuilt (nativeBuild : Options → Option String) (o : Options) : Except Error Unit :=
  match nativeBuild o with
  | some m => .error (.build m)
  | none => .ok ()

/-- Build an engine for options: what it reports, and whether it can be built.
`nativeBuild` is what the `reqwest` engine's client builder reports for options past the
engine's own checks: `none` when it builds the client, or the message of its failure. -/
def engineFor (backend : Backend) (nativeBuild : Options → Option String) (o : Options) :
    List LogEntry × Except Error Unit :=
  match backend with
  | .reqwest =>
    (timeoutWarnings o, (match o.proxy with
      | some p => nativeProxyCheck p
      | none => .ok ()).bind fun _ => nativeBuilt nativeBuild o)
  | .ureq =>
    ([], match o.proxy with
      | some p => agentProxyCheck p
      | none => .ok ())

/-- A client for an engine and its default options. -/
def build (backend : Backend) (nativeBuild : Options → Option String) (o : Options) :
    List LogEntry × Except Error Client :=
  let (logs, r) := engineFor backend nativeBuild o
  (logs, r.map fun _ => ⟨backend, o⟩)

end Client

end HttpCall
