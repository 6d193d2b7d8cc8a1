import HttpCall.Error

/-!
# Failures reported by the agent engine

The `ureq` engine reports its failures as values of its own; `AgentFault` lists them
with their texts, and `AgentFault.toError` classifies each as an `Error`: its I/O
failures by their kind, its timeouts as timeouts, a host that cannot be found or
connected as unreachable, TLS trouble as TLS, proxy trouble as proxy errors, malformed
requests as build errors, and everything else as plain I/O.
-/

namespace HttpCall

/-- The stage of a call at which an agent timeout struck. -/
inductive AgentTimeout where
  | global
  | perCall
  | resolve
  | connect
  | sendRequest
  | await100
  | sendBody
  | recvResponse
  | recvBody
  deriving DecidableEq, Repr, Inhabited

/-- The words for a timeout's stage. -/
def AgentTimeout.describe : AgentTimeout → String
  | .global => "global"
  | .perCall => "per call"
  | .resolve => "resolve"
  | .connect => "connect"
  | .sendRequest => "send request"
  | .await100 => "await 100"
  | .sendBody => "send body"
  | .recvResponse => "receive response"
  | .recvBody => "receive body"

/-- A failure reported by the agent engine. -/
inductive AgentFault where
  | statusCode (status : Nat)
  | http (message : String)
  | badUri (message : String)
  | io (e : IoError)
  | timeout (stage : AgentTimeout)
  | hostNotFound
  | redirectFailed
  | invalidProxyUrl
  | connectionFailed
  | bodyExceedsLimit (limit : Nat)
  | tooManyRedirects
  | tls (message : String)
  | requireHttpsOnly (message : String)
  | largeResponseHeader (size max : Nat)
  | connectProxyFailed (message : String)
  | tlsRequired
  | bodyStalled
  deriving DecidableEq, Repr, Inhabited

namespace AgentFault

/-- The text of a fault. -/
def message : AgentFault → String
  | statusCode s => "http status: " ++ toString s
  | http m => "http: " ++ m
  | badUri m => "bad uri: " ++ m
  | io e => "io: " ++ e.message
  | timeout t => "timeout: " ++ t.describe
  | hostNotFound => "host not found"
  | redirectFailed => "redirect failed"
  | invalidProxyUrl => "invalid proxy url"
  | connectionFailed => "connection failed"
  | bodyExceedsLimit n => "the response body is larger than request limit: " ++ toString n
  | tooManyRedirects => "too many redirects"
  | tls m => m
  | requireHttpsOnly m => "configured for https only: " ++ m
  | largeResponseHeader size max =>
    "response header is too big: " ++ toString size ++ " > " ++ toString max
  | connectProxyFailed m => "CONNECT proxy failed: " ++ m
  | tlsRequired => "TLS required, but transport is unsecured"
  | bodyStalled => "body data reading stalled"

/-- The error a fault becomes. An I/O fault keeps only its own text as the cause. -/
def toError (f : AgentFault) : Error :=
  match f with
  | io e => Error.ofIo e
  | timeout _ => .transport .timeout f.message
  | hostNotFound | connectionFailed => .transport .unreachable f.message
  | tls _ => .transport .tls f.message
  | invalidProxyUrl | connectProxyFailed _ => .proxy f.message
  | badUri _ | http _ => .build f.message
  | _ => .transport .io f.message

end AgentFault

end HttpCall
