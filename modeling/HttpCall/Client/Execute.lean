import HttpCall.Client.AgentFault
import HttpCall.Client.Build
import HttpCall.Retry.Run
import HttpCall.Response.Basic
import HttpCall.Url.Parse
import HttpCall.Wire.Entity

/-!
# Calls

A call sends a request with a client and returns a response or an error. Before it
touches the network it prepares (`Client.prepareCall`), checking in order:

1. the URL, which must be an absolute `http` or `https` URL;
2. the options: when the call brings options that differ from the client's, an engine
   is built for the call (reported first), and building it may fail;
3. the body, prepared once for the whole call (which consumes its streams) and framed
   into bytes.

Then the request is attempted as the retry policy allows. Each attempt is reported, and
each attempt checks the header names and values before sending: a name must be a
nonempty HTTP token, and a value may hold no control character other than tab. A bad
header fails the attempt with an error of the engine that no retry can mend.

The network is a parameter: for the n-th request an engine sends in a call, it says what
the engine gets back, a response or a failure in the engine's own terms. The `ureq`
engine's failures are its faults, classified by `AgentFault.toError`; the `reqwest`
engine reports a failed connection as `error sending request for url (...)`, counted as
the host being unreachable unless the failure itself says otherwise. Only the `ureq`
engine retries on a status. The network also says what the `reqwest` engine's client
builder reports for a client built for a call.
-/

namespace HttpCall

/-- A response as an engine hands it over: the status with its standard reason phrase,
the header pairs, and the entity's source with the length it declares. -/
structure Delivery where
  status : Nat
  reason : String := ""
  headers : List (String × String) := []
  source : ByteSource := ByteSource.ofBytes []
  contentLength : Option Nat := none
  deriving DecidableEq, Repr, Inhabited

namespace Delivery

/-- The response to a request: the headers collected into a map, and a body over the
source unless the exchange carries none. -/
def toResponse (d : Delivery) (r : Request) : Response :=
  let headers := HeaderMap.ofPairs d.headers
  { status := d.status, reason := d.reason, headers, request := r,
    body :=
      if r.method.responseHasBody d.status then
        some (ResponseBody.new d.source d.contentLength (headers.get? Request.contentTypeHeader))
      else none }

end Delivery

/-- The network as the engines see it: for the n-th request an engine sends in a call,
what comes back. -/
structure Network where
  /-- What the `ureq` engine gets: a response, or a fault it reports. -/
  agent : Nat → Except AgentFault Delivery
  /-- What the `reqwest` engine gets: a response, or the failure of its connection. -/
  native : Nat → Except IoError Delivery
  /-- What the `reqwest` engine's client builder reports for the options of a client built
  for a call: `none` when it builds, or the message of its failure. -/
  nativeBuild : Options → Option String

namespace Network

/-- The failure of a connection to a network that cannot be reached. -/
def unreachableFailure : IoError := ⟨.networkUnreachable, "Network is unreachable (os error 101)"⟩

/-- A network that cannot be reached at all. -/
def unreachable : Network :=
  ⟨fun _ => .error (.io unreachableFailure), fun _ => .error unreachableFailure, fun _ => none⟩

end Network

/-- What is wrong with a header, if anything. -/
inductive HeaderFault where
  | badName
  | badValue
  deriving DecidableEq, Repr, Inhabited

namespace HeaderFault

/-- May the character stand in a header name? Letters of either case, digits and
``!"#$%&'*+-.^_`|~``. -/
def isNameChar (c : Char) : Bool :=
  c.toNat < 128 && (c.isAlphanum || "!\"#$%&'*+-.^_`|~".contains c)

/-- Is the text a header name? -/
def isName (name : String) : Bool :=
  !name.isEmpty && name.all isNameChar

/-- Is the text a header value: no control character but tab? -/
def isValue (value : String) : Bool :=
  value.all fun c => c == '\t' || (32 ≤ c.toNat && c.toNat ≠ 127)

/-- The fault of the first bad header, the name checked before the value. -/
def first? : List (String × String) → Option HeaderFault
  | [] => none
  | (name, value) :: rest =>
    if !isName name then some .badName
    else if !isValue value then some .badValue
    else first? rest

end HeaderFault

namespace Backend

/-- How an engine reports a bad header. -/
def headerError : Backend → HeaderFault → Error
  | .reqwest, _ => .build "builder error"
  | .ureq, .badName => .build "http: invalid HTTP header name"
  | .ureq, .badValue => .build "http: failed to parse header value"

/-- How the `reqwest` engine reports a failed connection for a URL. -/
def nativeConnectError (url : String) (e : IoError) : Error :=
  let kind := FailureKind.ofIo e.kind
  .transport (if kind = .io then .unreachable else kind)
    ("error sending request for url (" ++ url ++ ")")

/-- What the engine's n-th send in a call brings back for a URL, with a response made for
the request `r`. -/
def send (b : Backend) (net : Network) (url : String) (r : Request) (n : Nat) :
    Except Error Response :=
  match b with
  | .ureq =>
    match net.agent n with
    | .ok d => .ok (d.toResponse r)
    | .error f => .error f.toError
  | .reqwest =>
    match net.native n with
    | .ok d => .ok (d.toResponse r)
    | .error e => .error (nativeConnectError url e)

/-- The status of a response that the engine's retry rules judge: the `ureq` engine
retries on statuses, the `reqwest` engine takes every response. -/
def judge : Backend → Response → Option Nat
  | .ureq, resp => some resp.status
  | .reqwest, _ => none

/-- The report of an engine built for one call. -/
def scopedLog (b : Backend) (m : Method) (url : String) : LogEntry :=
  match b with
  | .reqwest => .debug ("Building call-scoped reqwest client for " ++ m.name ++ " " ++ url)
  | .ureq => .debug ("Building call-scoped ureq agent for " ++ m.name ++ " " ++ url)

end Backend

/-- A call ready for its attempts: the options it runs with, its URL, and the headers it
sends. -/
structure CallPlan where
  options : Options
  url : Url
  headers : List (String × String)

/-- What a call did: its reports, the numbers of the attempts it made, how it ended, and
the request as it left it. -/
structure CallOutcome where
  logs : List LogEntry
  attempts : List Nat
  result : RunEnd Response
  request : Request

namespace Client

/-- The report at the start of an attempt. -/
def attemptLog (r : Request) (n : Nat) : LogEntry :=
  .debug (r.method.name ++ " " ++ r.url ++ " (attempt " ++ toString n ++ ")")

/-- The headers and bytes sent for a request and its entity. -/
def wireOf (files : FileStore) (fresh : String) (r : Request) :
    Option Entity → Except Error (List (String × String) × Option (List UInt8))
  | none => .ok (Entity.outgoingHeaders r none, none)
  | some e => do
    let w ← e.toWire files fresh
    let headers := Entity.outgoingHeaders r (some e)
    pure (headers ++ (w.contentType.map fun ct => (Request.contentTypeHeader, ct)).toList,
      some w.data)

/-- Everything a call does before its first attempt: its reports, the plan of its
attempts or the error that ends it, and the request as preparing left it. `files` are
the files the body may read, `fresh` the boundary for a multipart body that has none, and
`nativeBuild` what the `reqwest` engine's client builder reports. -/
def prepareCall (c : Client) (nativeBuild : Options → Option String) (files : FileStore)
    (fresh : String) (r : Request) (call : Option Options) :
    List LogEntry × Except Error CallPlan × Request :=
  match Url.parseHttp r.url with
  | .error e => ([], .error e, r)
  | .ok url =>
    let (o, isScoped) := effectiveOptions c.defaults call
    let (buildLogs, engine) :=
      if isScoped then
        let (logs, result) := engineFor c.backend nativeBuild o
        (c.backend.scopedLog r.method r.url :: logs, result)
      else ([], .ok ())
    match engine with
    | .error e => (buildLogs, .error e, r)
    | .ok () =>
      match Entity.prepare r with
      | (.error e, r') => (buildLogs, .error e, r')
      | (.ok entity, r') =>
        match wireOf files fresh r entity with
        | .error e => (buildLogs, .error e, r')
        | .ok (headers, _) => (buildLogs, .ok ⟨o, url, headers⟩, r')

/-- The outcome of attempt `n` of a planned call: a bad header fails before anything is
sent, and otherwise the engine's send answers, with a response made for `r`. -/
def attemptOutcome (c : Client) (net : Network) (plan : CallPlan) (r : Request) (n : Nat) :
    Except Error Response :=
  match HeaderFault.first? plan.headers with
  | some f => .error (c.backend.headerError f)
  | none => c.backend.send net plan.url.render r n

/-- Execute a request over a network, with the call's options if it brings any. -/
def execute (c : Client) (net : Network) (files : FileStore) (fresh : String) (r : Request)
    (call : Option Options) : CallOutcome :=
  match c.prepareCall net.nativeBuild files fresh r call with
  | (logs, .error e, r') => ⟨logs, [], .returned (.error e), r'⟩
  | (logs, .ok plan, r') =>
    let run := plan.options.retryPolicy.runFrom r.hasBody (fun n => [attemptLog r n])
      c.backend.judge (c.attemptOutcome net plan r') 1
    ⟨logs ++ run.logs, run.calls, run.result, r'⟩

end Client

end HttpCall
