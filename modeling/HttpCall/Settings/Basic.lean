import HttpCall.Settings.Read
import HttpCall.Settings.Toml
import HttpCall.Client.Build
import HttpCall.Text.Ascii

/-!
# Settings

Settings choose the backend a client is built on and the client's default options. They
are loaded in layers, each overriding the one before: the defaults, then a TOML file if
one is given, then the environment.

An environment variable takes part when its name, with its letters made small, starts
with `http_transport_`; the rest of the name, with `__` read as a dot, is the key path
(`HTTP_TRANSPORT_OPTIONS__RETRY_COUNT` sets `options.retry_count`). Its value is read as
a boolean if it is `true` or `false` in any case, else as a 64-bit integer, else as a
floating-point number, else as text.
-/

namespace HttpCall

/-- Which backend to build and its default options. -/
structure Settings where
  backend : Backend := .reqwest
  options : Options := {}
  deriving DecidableEq, Repr, Inhabited

/-- A settings file: its path, and its text when it exists. -/
structure SettingsFile where
  path : String
  text : Option String
  deriving DecidableEq, Repr, Inhabited

namespace Settings

/-- The default settings. -/
def defaults : Settings := {}

/-- The origin of values from the environment. -/
def environmentOrigin : String := "the environment"

/-- The prefix of environment variables that take part, with its letters small. -/
def envPrefix : String := "http_transport_"

/-- The settings as a setting tree, as the built-in layer holds them. -/
def toSetting (s : Settings) : Setting :=
  .mk none (.table [("backend", .mk none (.str s.backend.name)), ("options", s.options.toSetting)])

/-- A decimal 64-bit integer with an optional sign. -/
def parseSigned? (t : String) : Option Int :=
  let (negative, cs) := match t.toList with
    | '-' :: rest => (true, rest)
    | '+' :: rest => (false, rest)
    | cs => (false, cs)
  if !cs.isEmpty && cs.all Char.isDigit then
    let n : Int := cs.foldl (fun acc c => acc * 10 + (c.toNat - 48)) 0
    let n := if negative then -n else n
    if -(Int.pow 2 63) ≤ n ∧ n < Int.pow 2 63 then some n else none
  else none

/-- A decimal floating-point text: an optional sign, then `inf`, `infinity` or `nan` in
any case, or digits with an optional point (digits on at least one side) and an optional
exponent; its value is the nearest binary64 number. -/
def parseFloat? (t : String) : Option Binary64 :=
  let (negative, cs) := match t.toList with
    | '-' :: rest => (true, rest)
    | '+' :: rest => (false, rest)
    | cs => (false, cs)
  let word := Ascii.lowerText (String.ofList cs)
  if word == "inf" || word == "infinity" then some (Binary64.infinite negative)
  else if word == "nan" then some Binary64.nan
  else
    let (mant, expo) := match cs.findIdx? (fun c => c == 'e' || c == 'E') with
      | some k => (cs.take k, some (cs.drop (k + 1)))
      | none => (cs, none)
    let (whole, frac) := match mant.idxOf? '.' with
      | some k => (mant.take k, mant.drop (k + 1))
      | none => (mant, [])
    let digitsOk (ds : List Char) := ds.all Char.isDigit
    let value (ds : List Char) : Nat := ds.foldl (fun a c => a * 10 + (c.toNat - 48)) 0
    if (whole.isEmpty && frac.isEmpty) || !digitsOk whole || !digitsOk frac then none
    else
      let e : Option Int := match expo with
        | none => some 0
        | some ('-' :: ds) => if !ds.isEmpty && digitsOk ds then some (-(value ds : Int)) else none
        | some ('+' :: ds) => if !ds.isEmpty && digitsOk ds then some (value ds : Int) else none
        | some ds => if !ds.isEmpty && digitsOk ds then some (value ds : Int) else none
      e.map fun (e : Int) =>
        Binary64.ofDecimal negative (value (whole ++ frac)) (e - (frac.length : Int))

/-- The value of an environment variable. -/
def envValue (value : String) : SettingKind :=
  match Case.lower value with
  | "true" => .bool true
  | "false" => .bool false
  | _ =>
    match parseSigned? value with
    | some n => .int n
    | none =>
      match parseFloat? value with
      | some x => .float x
      | none => .str value

/-- The key path an environment variable sets, if it takes part. -/
def envKey? (name : String) : Option String :=
  let lowered := Case.lower name
  if lowered.startsWith envPrefix then
    some ((String.ofList (lowered.toList.drop envPrefix.length)).replace "__" ".")
  else none

/-- The entries the environment sets, in order of their keys. -/
def envEntries (env : List (String × String)) : List (String × Setting) :=
  let entries := env.filterMap fun (name, value) =>
    (envKey? name).map fun k => (k, Setting.mk (some environmentOrigin) (envValue value))
  entries.mergeSort fun a b => decide (a.1 ≤ b.1)

/-- Set entries of a layer at their key paths. -/
def applyLayer (tree : Setting) (entries : List (String × Setting)) : Setting :=
  entries.foldl (fun t (k, v) => t.setPath v (pathSteps k)) tree

/-- Read one field of settings by name; other names are ignored. -/
def readField (s : Settings) (key : String) (v : Setting) : Except ConfigError Settings :=
  match key with
  | "backend" => do
    match ← v.toVariant "Backend" ["reqwest", "ureq"] with
    | "ureq" => pure { s with backend := .ureq }
    | _ => pure { s with backend := .reqwest }
  | "options" => do pure { s with options := ← Options.ofSetting v }
  | _ => pure s

/-- Settings from the joined tree. -/
def ofSetting (tree : Setting) : Except ConfigError Settings :=
  readEntries readField defaults tree.entries

/-- The joined tree of the layers: defaults, the file, the environment. -/
def gather (file : Option SettingsFile) (env : List (String × String)) :
    Except ConfigError Setting := do
  let tree := applyLayer Setting.emptyTable defaults.toSetting.entries
  let tree ← match file with
    | none => pure tree
    | some f =>
      match f.text with
      | none => .error (.fileNotFound f.path)
      | some text =>
        match Toml.parse text (some f.path) with
        | .ok doc => pure (applyLayer tree doc.entries)
        | .error e => .error (.fileParse (some f.path) (e.render text))
  pure (applyLayer tree (envEntries env))

/-- The report of loaded settings. -/
def loadedLog (s : Settings) : LogEntry :=
  .debug ("Loaded HTTP settings for " ++ s.backend.name ++ " backend")

/-- Load settings from a file, if given, and the environment. -/
def load (file : Option SettingsFile) (env : List (String × String)) :
    List LogEntry × Except Error Settings :=
  match gather file env >>= ofSetting with
  | .ok s => ([s.loadedLog], .ok s)
  | .error e => ([], .error (.config e.render))

/-- Build a client for the configured backend; `nativeBuild` is what the `reqwest` engine's
client builder reports. -/
def buildClient (s : Settings) (nativeBuild : Options → Option String) :
    List LogEntry × Except Error Client :=
  Client.build s.backend nativeBuild s.options

end Settings

end HttpCall
