import HttpCall.Settings.Error
import HttpCall.Options.Basic
import HttpCall.Text.Case

/-!
# Reading settings

Typed values are read from a setting tree leniently, as settings layers need: the
environment gives every value as text, so texts, numbers and booleans convert into one
another where the meaning is plain.

* An unsigned integer is read from a non-negative integer, a decimal text, a boolean
  (1 or 0), the texts `true`, `on`, `yes` (1) and `false`, `off`, `no` (0), or a
  floating-point number rounded half away from zero (negative numbers and not-a-number
  give 0, numbers too large the greatest value). A narrower integer must then fit.
* A boolean is read from a boolean, a number (true when not zero) or one of the texts
  `1`, `true`, `on`, `yes`, `0`, `false`, `off`, `no`, in any case.
* A text is read from a text, or from a boolean or number written out.
* A unit enumeration is read from its variant's name, or from a table whose only key is
  that name.
* A structure is read from a table, entry by entry in order of their keys, ignoring keys
  it does not know; or from an array, whose items are its fields in order.

A failure inside a table or array gets the entry's key or the item's index put in front
of its key path.
-/

namespace HttpCall

namespace Setting

/-- What a value is, in the words of a reader that wanted a structure. -/
def describeKind : SettingKind → String
  | .nil => "unit value"
  | .bool b => "boolean `" ++ toString b ++ "`"
  | .int n => "integer `" ++ toString n ++ "`"
  | .float x => "floating point `" ++ numberFormatWithPoint.write x ++ "`"
  | .str s => "string " ++ Escaped.quote s
  | .table _ => "map"
  | .array _ => "sequence"

/-- The error of a value of the wrong type, naming its origin. -/
def wrongType (s : Setting) (expected : String) : ConfigError :=
  let found : FoundValue := match s.kind with
    | .nil => .unit
    | .bool b => .bool b
    | .int n => .signed n
    | .float x => .float x
    | .str t => .str t
    | .table _ => .map
    | .array _ => .seq
  .invalidType s.origin found expected none

/-- A decimal text of an unsigned 64-bit integer, with an optional plus sign. -/
def parseUnsigned? (t : String) : Option Nat :=
  let cs := match t.toList with
    | '+' :: rest => rest
    | cs => cs
  if !cs.isEmpty && cs.all Char.isDigit then
    let n := cs.foldl (fun acc c => acc * 10 + (c.toNat - 48)) 0
    if n < Nat.pow 2 64 then some n else none
  else none

/-- The value as an unsigned 64-bit integer. -/
def toUInt (s : Setting) : Except ConfigError Nat :=
  match s.kind with
  | .int n =>
    if n ≥ 0 then .ok n.toNat
    else .error (.invalidType s.origin (.signed n) "an unsigned 64 bit or less integer" none)
  | .str t =>
    match Case.lower t with
    | "true" | "on" | "yes" => .ok 1
    | "false" | "off" | "no" => .ok 0
    | _ =>
      match parseUnsigned? t with
      | some n => .ok n
      | none => .error (s.wrongType "an integer")
  | .bool b => .ok (if b then 1 else 0)
  | .float x => .ok x.toUInt64Sat
  | _ => .error (s.wrongType "an integer")

/-- The value as an unsigned integer of `bits` bits. -/
def toUIntBits (s : Setting) (bits : Nat) : Except ConfigError Nat := do
  let n ← s.toUInt
  if n < Nat.pow 2 bits then pure n
  else .error (.invalidType none (.unsigned n) ("an unsigned " ++ toString bits ++ " bit integer") none)

/-- The value as a boolean. -/
def toBool (s : Setting) : Except ConfigError Bool :=
  match s.kind with
  | .bool b => .ok b
  | .int n => .ok (n != 0)
  | .float x => .ok !x.isZero
  | .str t =>
    match Case.lower t with
    | "1" | "true" | "on" | "yes" => .ok true
    | "0" | "false" | "off" | "no" => .ok false
    | lowered => .error (.invalidType s.origin (.str lowered) "a boolean" none)
  | _ => .error (s.wrongType "a boolean")

/-- The value as a text. -/
def toText (s : Setting) : Except ConfigError String :=
  match s.kind with
  | .str t => .ok t
  | .bool b => .ok (toString b)
  | .int n => .ok (toString n)
  | .float x => .ok (numberFormat.write x)
  | _ => .error (s.wrongType "a string")

/-- The value as an optional text: nothing is none. -/
def toTextOption (s : Setting) : Except ConfigError (Option String) :=
  match s.kind with
  | .nil => .ok none
  | _ => some <$> s.toText

/-- The variant a value names, among the variants of the enumeration `name`. -/
def toVariant (s : Setting) (name : String) (variants : List String) : Except ConfigError String :=
  let check (v : String) : Except ConfigError String :=
    if variants.contains v then .ok v
    else .error (.message ("enum " ++ name ++ " does not have variant constructor " ++ v))
  match s.kind with
  | .str v => check v
  | .table [(v, _)] => check v
  | _ => .error (.message ("value of enum " ++ name ++
      " should be represented by either string or table with exactly one key"))

/-- The error of a structure read from a value that is neither a table nor an array. -/
def notStruct (s : Setting) (name : String) : ConfigError :=
  .message ("invalid type: " ++ describeKind s.kind ++ ", expected struct " ++ name)

/-- The entries of a table in order of their keys. -/
def sortedEntries (entries : List (String × Setting)) : List (String × Setting) :=
  entries.mergeSort fun a b => decide (a.1 ≤ b.1)

end Setting

/-- Read each entry of a table into a state, in order; a failure gets the entry's key. -/
def readEntries {σ : Type} (step : σ → String → Setting → Except ConfigError σ) (init : σ)
    (entries : List (String × Setting)) : Except ConfigError σ :=
  (Setting.sortedEntries entries).foldlM
    (fun st (k, v) => (step st k v).mapError (ConfigError.prependKey k)) init

/-- Read the items of an array as fields in order, each with its index; `fields` says
for each index how to read it into the state. -/
def readItems {σ : Type} (step : σ → Nat → Setting → Except ConfigError σ) (init : σ)
    (items : List Setting) : Except ConfigError σ :=
  (items.zipIdx).foldlM (fun st (v, i) => (step st i v).mapError (ConfigError.prependIndex i)) init

namespace ProxyKind

/-- The protocol a value names. -/
def ofSetting (s : Setting) : Except ConfigError ProxyKind := do
  match ← s.toVariant "ProxyType" ["http", "socks"] with
  | "socks" => pure .socks
  | _ => pure .http

end ProxyKind

namespace ProxyInfo

/-- The fields of a proxy as they are found. -/
structure Found where
  host : Option String := none
  port : Option UInt16 := none
  kind : ProxyKind := .http
  username : Option String := none
  password : Option String := none

/-- Read one field of a proxy by name; other names are ignored. -/
def readField (f : Found) (key : String) (v : Setting) : Except ConfigError Found :=
  match key with
  | "host" => do pure { f with host := some (← v.toText) }
  | "port" => do pure { f with port := some (← v.toUIntBits 16).toUInt16 }
  | "type" => do pure { f with kind := ← ProxyKind.ofSetting v }
  | "username" => do pure { f with username := ← v.toTextOption }
  | "password" => do pure { f with password := ← v.toTextOption }
  | _ => pure f

/-- The names of the fields of a proxy, in order. -/
def fieldNames : List String := ["host", "port", "type", "username", "password"]

/-- A proxy from a table or an array of settings. -/
def ofSetting (s : Setting) : Except ConfigError ProxyInfo :=
  match s.kind with
  | .table entries => do
    let f ← readEntries readField {} entries
    match f.host, f.port with
    | none, _ => .error (.missingField "host")
    | _, none => .error (.missingField "port")
    | some host, some port => pure ⟨host, port, f.kind, f.username, f.password⟩
  | .array items => do
    let f ← readItems (fun f i v => match fieldNames[i]? with
      | some name => readField f name v
      | none => pure f) {} items
    let tooShort (n : Nat) : ConfigError :=
      .message ("invalid length " ++ toString n ++ ", expected struct ProxyInfo with 5 elements")
    match f.host, f.port with
    | none, _ => .error (tooShort 0)
    | _, none => .error (tooShort 1)
    | some host, some port => pure ⟨host, port, f.kind, f.username, f.password⟩
  | _ => .error (s.notStruct "ProxyInfo")

/-- An optional proxy: nothing is none. -/
def ofSettingOption (s : Setting) : Except ConfigError (Option ProxyInfo) :=
  match s.kind with
  | .nil => .ok none
  | _ => some <$> ofSetting s

end ProxyInfo

namespace Options

/-- Read one field of options by name; other names are ignored. -/
def readField (o : Options) (key : String) (v : Setting) : Except ConfigError Options :=
  match key with
  | "connect_timeout_millis" => do pure { o with connectTimeoutMillis := (← v.toUInt).toUInt64 }
  | "read_timeout_millis" => do pure { o with readTimeoutMillis := (← v.toUInt).toUInt64 }
  | "write_timeout_millis" => do pure { o with writeTimeoutMillis := (← v.toUInt).toUInt64 }
  | "follow_redirects" => do pure { o with followRedirects := ← v.toBool }
  | "retry_count" => do pure { o with retryCount := (← v.toUIntBits 32).toUInt32 }
  | "proxy_info" => do pure { o with proxy := ← ProxyInfo.ofSettingOption v }
  | _ => pure o

/-- The names of the fields of options, in order. -/
def fieldNames : List String :=
  ["connect_timeout_millis", "read_timeout_millis", "write_timeout_millis", "follow_redirects",
    "retry_count", "proxy_info"]

/-- Options from a table or an array of settings; fields not given keep their defaults. -/
def ofSetting (s : Setting) : Except ConfigError Options :=
  match s.kind with
  | .table entries => readEntries readField defaults entries
  | .array items => readItems (fun o i v => match fieldNames[i]? with
      | some name => readField o name v
      | none => pure o) defaults items
  | _ => .error (s.notStruct "Options")

/-- The options as a setting tree, as the built-in layer of settings holds them. -/
def toSetting (o : Options) : Setting :=
  .mk none (.table [
    ("connect_timeout_millis", .mk none (.int o.connectTimeoutMillis.toNat)),
    ("read_timeout_millis", .mk none (.int o.readTimeoutMillis.toNat)),
    ("write_timeout_millis", .mk none (.int o.writeTimeoutMillis.toNat)),
    ("follow_redirects", .mk none (.bool o.followRedirects)),
    ("retry_count", .mk none (.int o.retryCount.toNat)),
    ("proxy_info", match o.proxy with
      | none => .mk none .nil
      | some p => .mk none (.table [
          ("host", .mk none (.str p.host)),
          ("port", .mk none (.int p.port.toNat)),
          ("type", .mk none (.str p.kind.name)),
          ("username", .mk none (match p.username with | some u => .str u | none => .nil)),
          ("password", .mk none (match p.password with | some u => .str u | none => .nil))]))])

end Options

end HttpCall
