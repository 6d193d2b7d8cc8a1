import HttpCall.Options.Proxy
import HttpCall.Retry.Policy

/-!
# Transport options

Options fix the connect, read and write timeouts in whole milliseconds (zero turns a
timeout off), whether redirects are followed, how many retries a call may make, and an
optional proxy. The defaults are ten seconds to connect, a minute to read and to write,
redirects followed, no retries and no proxy.

Options are built by steps applied in order to a starting value. A timeout given as
seconds and nanoseconds keeps its whole milliseconds, capped at the largest 64-bit
count.
-/

namespace HttpCall

/-- A span of time as seconds and nanoseconds below a second. -/
structure Span where
  secs : UInt64
  nanos : UInt32
  deriving DecidableEq, Repr, Inhabited

/-- The whole milliseconds of a span, capped at the largest 64-bit count. -/
def Span.millis (s : Span) : UInt64 :=
  let ms := s.secs.toNat * 1000 + s.nanos.toNat / 1000000
  if ms < UInt64.size then ms.toUInt64 else (UInt64.size - 1).toUInt64

/-- Transport options. -/
structure Options where
  connectTimeoutMillis : UInt64 := 10000
  readTimeoutMillis : UInt64 := 60000
  writeTimeoutMillis : UInt64 := 60000
  followRedirects : Bool := true
  retryCount : UInt32 := 0
  proxy : Option ProxyInfo := none
  deriving DecidableEq, Repr, Inhabited

/-- One step of building options. -/
inductive OptionsStep where
  | connectTimeout (s : Span)
  | readTimeout (s : Span)
  | writeTimeout (s : Span)
  | followRedirects (follow : Bool)
  | retryCount (n : UInt32)
  | proxy (p : ProxyInfo)
  | noProxy
  deriving DecidableEq, Repr, Inhabited

namespace Options

/-- The default options. -/
def defaults : Options := {}

/-- A timeout in milliseconds, none when it is off. -/
def timeout? (millis : UInt64) : Option UInt64 :=
  if millis = 0 then none else some millis

/-- The retry policy of the options. -/
def retryPolicy (o : Options) : RetryPolicy := ⟨o.retryCount⟩

/-- The options after one step. -/
def apply (o : Options) : OptionsStep → Options
  | .connectTimeout s => { o with connectTimeoutMillis := s.millis }
  | .readTimeout s => { o with readTimeoutMillis := s.millis }
  | .writeTimeout s => { o with writeTimeoutMillis := s.millis }
  | .followRedirects f => { o with followRedirects := f }
  | .retryCount n => { o with retryCount := n }
  | .proxy p => { o with proxy := some p }
  | .noProxy => { o with proxy := none }

/-- The options after each of the steps, in order. -/
def trace (o : Options) : List OptionsStep → List Options
  | [] => []
  | s :: rest => let o' := o.apply s; o' :: trace o' rest

/-- The options after all the steps. -/
def applyAll (o : Options) (steps : List OptionsStep) : Options :=
  steps.foldl apply o

end Options

end HttpCall
