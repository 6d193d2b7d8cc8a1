import HttpCall.Options.Basic
import HttpCall.Json.Decode
import HttpCall.Json.Write

/-!
# Options as JSON

Options are written as an object with the members `connect_timeout_millis`,
`read_timeout_millis`, `write_timeout_millis`, `follow_redirects`, `retry_count` and
`proxy_info`, a proxy as an object with `host`, `port`, `type`, `username` and
`password`; the object is written as text by `Json/Write`. They are read back by the
conventions of `Json/Decode`: every member of the options may be missing and then takes
its default, while a proxy needs its host and port.
-/

namespace HttpCall

namespace ProxyInfo

/-- The JSON of a proxy. -/
def toJson (p : ProxyInfo) : JsonValue :=
  .obj [("host", .str p.host), ("port", .ofInt p.port.toNat), ("type", .str p.kind.name),
    ("username", .ofOption .str p.username), ("password", .ofOption .str p.password)]

/-- The fields of a proxy being read: each is absent until its member is seen. -/
structure Fields where
  host : Option String := none
  port : Option UInt16 := none
  kind : Option ProxyKind := none
  username : Option (Option String) := none
  password : Option (Option String) := none

/-- Read the protocol. -/
def readKind (v : JsonValue) : Except DecodeError ProxyKind := do
  let name ← v.readVariant ["http", "socks"]
  pure (if name == "socks" then .socks else .http)

/-- Read the port. -/
def readPort (v : JsonValue) : Except DecodeError UInt16 :=
  (v.readUnsigned 65536 "u16").map Nat.toUInt16

/-- Set a field once; a second value is an error. -/
def setOnce {α : Type} (name : String) (old : Option α) (v : Except DecodeError α) :
    Except DecodeError (Option α) :=
  match old with
  | some _ => .error (.duplicateField name)
  | none => v.map some

/-- Visit one member of an object. -/
def visit (f : Fields) : String × JsonValue → Except DecodeError Fields
  | ("host", v) => do pure { f with host := ← setOnce "host" f.host v.readString }
  | ("port", v) => do pure { f with port := ← setOnce "port" f.port (readPort v) }
  | ("type", v) => do pure { f with kind := ← setOnce "type" f.kind (readKind v) }
  | ("username", v) => do
    pure { f with username := ← setOnce "username" f.username (v.readOption JsonValue.readString) }
  | ("password", v) => do
    pure { f with password := ← setOnce "password" f.password (v.readOption JsonValue.readString) }
  | _ => pure f

/-- The proxy once all members are visited. -/
def finish (f : Fields) : Except DecodeError ProxyInfo := do
  let host ← match f.host with | some h => pure h | none => throw (.missingField "host")
  let port ← match f.port with | some p => pure p | none => throw (.missingField "port")
  pure { host, port, kind := f.kind.getD .http, username := f.username.getD none,
         password := f.password.getD none }

/-- The expectation named when an array is too short. -/
def arrayShape : String := "struct ProxyInfo with 5 elements"

/-- A proxy from the elements of an array, in field order. -/
def ofElements (items : List JsonValue) : Except DecodeError ProxyInfo := do
  let host ← match items[0]? with
    | some v => v.readString
    | none => throw (.invalidLength 0 arrayShape)
  let port ← match items[1]? with
    | some v => readPort v
    | none => throw (.invalidLength 1 arrayShape)
  let kind ← match items[2]? with | some v => readKind v | none => pure .http
  let username ← match items[3]? with
    | some v => v.readOption JsonValue.readString
    | none => pure none
  let password ← match items[4]? with
    | some v => v.readOption JsonValue.readString
    | none => pure none
  if 5 < items.length then throw (.invalidLength items.length "fewer elements in array")
  pure { host, port, kind, username, password }

/-- Read a proxy from JSON. -/
def ofJson (v : JsonValue) : Except DecodeError ProxyInfo :=
  match v with
  | .obj ms => (JsonValue.sortedMembers ms).foldlM visit {} >>= finish
  | .arr items => ofElements items
  | _ => .error (.invalidType v.unexpected "struct ProxyInfo")

end ProxyInfo

namespace Options

/-- The JSON of options. -/
def toJson (o : Options) : JsonValue :=
  .obj [("connect_timeout_millis", .ofInt o.connectTimeoutMillis.toNat),
    ("read_timeout_millis", .ofInt o.readTimeoutMillis.toNat),
    ("write_timeout_millis", .ofInt o.writeTimeoutMillis.toNat),
    ("follow_redirects", .bool o.followRedirects),
    ("retry_count", .ofInt o.retryCount.toNat),
    ("proxy_info", .ofOption ProxyInfo.toJson o.proxy)]

/-- The JSON text of options. -/
def toText (o : Options) : String :=
  o.toJson.toText

/-- Read a 64-bit count of milliseconds. -/
def readMillis (v : JsonValue) : Except DecodeError UInt64 :=
  (v.readUnsigned UInt64.size "u64").map Nat.toUInt64

/-- Read a retry count. -/
def readRetries (v : JsonValue) : Except DecodeError UInt32 :=
  (v.readUnsigned UInt32.size "u32").map Nat.toUInt32

/-- Read a proxy or null. -/
def readProxy (v : JsonValue) : Except DecodeError (Option ProxyInfo) :=
  v.readOption ProxyInfo.ofJson

/-- The fields of options being read, with the names of those already seen. -/
structure Fields where
  options : Options := {}
  seen : List String := []

/-- Set a field once; a second value is an error. -/
def setOnce {α : Type} (f : Fields) (name : String) (v : Except DecodeError α)
    (set : Options → α → Options) : Except DecodeError Fields :=
  if f.seen.contains name then .error (.duplicateField name)
  else v.map fun a => { options := set f.options a, seen := name :: f.seen }

/-- Visit one member of an object. -/
def visit (f : Fields) : String × JsonValue → Except DecodeError Fields
  | ("connect_timeout_millis", v) =>
    setOnce f "connect_timeout_millis" (readMillis v) fun o a => { o with connectTimeoutMillis := a }
  | ("read_timeout_millis", v) =>
    setOnce f "read_timeout_millis" (readMillis v) fun o a => { o with readTimeoutMillis := a }
  | ("write_timeout_millis", v) =>
    setOnce f "write_timeout_millis" (readMillis v) fun o a => { o with writeTimeoutMillis := a }
  | ("follow_redirects", v) =>
    setOnce f "follow_redirects" v.readBool fun o a => { o with followRedirects := a }
  | ("retry_count", v) =>
    setOnce f "retry_count" (readRetries v) fun o a => { o with retryCount := a }
  | ("proxy_info", v) =>
    setOnce f "proxy_info" (readProxy v) fun o a => { o with proxy := a }
  | _ => .ok f

/-- Options from the elements of an array, in field order; missing ones default. -/
def ofElements (items : List JsonValue) : Except DecodeError Options := do
  let d := defaults
  let field {α : Type} (i : Nat) (read : JsonValue → Except DecodeError α) (dflt : α) :
      Except DecodeError α :=
    match items[i]? with | some v => read v | none => pure dflt
  let connect ← field 0 readMillis d.connectTimeoutMillis
  let readT ← field 1 readMillis d.readTimeoutMillis
  let write ← field 2 readMillis d.writeTimeoutMillis
  let follow ← field 3 JsonValue.readBool d.followRedirects
  let retries ← field 4 readRetries d.retryCount
  let proxy ← field 5 readProxy d.proxy
  if 6 < items.length then throw (.invalidLength items.length "fewer elements in array")
  pure ⟨connect, readT, write, follow, retries, proxy⟩

/-- Read options from JSON. -/
def ofJson (v : JsonValue) : Except DecodeError Options :=
  match v with
  | .obj ms => ((JsonValue.sortedMembers ms).foldlM visit {}).map (·.options)
  | .arr items => ofElements items
  | _ => .error (.invalidType v.unexpected "struct Options")

end Options

end HttpCall
