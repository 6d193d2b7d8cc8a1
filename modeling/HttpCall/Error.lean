/-!
# Errors

Everything that can go wrong while a call is described, sent or read back is one value
of `Error`, and its text is `Error.message`: the wording lives in that one function.
Transport failures carry a `FailureKind`, which the retry rules read; I/O failures of a
stream carry an `IoKind`, which `FailureKind.ofIo` classifies.

Some operations also report what they do, as log entries: a debug line when a scoped
client is built or an attempt starts, a warning when a call is retried or an option
cannot be honoured. An entry is a level and a message, and its text is the level's name
in capitals, a blank and the message.
-/

namespace HttpCall

/-- The kind of a failed read or write, as an operating system reports it. -/
inductive IoKind where
  | notFound
  | permissionDenied
  | connectionRefused
  | connectionReset
  | hostUnreachable
  | networkUnreachable
  | connectionAborted
  | notConnected
  | addrInUse
  | addrNotAvailable
  | networkDown
  | brokenPipe
  | alreadyExists
  | wouldBlock
  | notADirectory
  | isADirectory
  | directoryNotEmpty
  | readOnlyFilesystem
  | staleNetworkFileHandle
  | invalidInput
  | invalidData
  | timedOut
  | writeZero
  | storageFull
  | notSeekable
  | quotaExceeded
  | fileTooLarge
  | resourceBusy
  | executableFileBusy
  | deadlock
  | crossesDevices
  | tooManyLinks
  | invalidFilename
  | argumentListTooLong
  | interrupted
  | unsupported
  | unexpectedEof
  | outOfMemory
  | inProgress
  | other
  deriving DecidableEq, Repr, Inhabited

namespace IoKind

/-- Every kind, in the order of `name`'s table. -/
def all : List IoKind :=
  [notFound, permissionDenied, connectionRefused, connectionReset, hostUnreachable,
    networkUnreachable, connectionAborted, notConnected, addrInUse, addrNotAvailable,
    networkDown, brokenPipe, alreadyExists, wouldBlock, notADirectory, isADirectory,
    directoryNotEmpty, readOnlyFilesystem, staleNetworkFileHandle, invalidInput, invalidData,
    timedOut, writeZero, storageFull, notSeekable, quotaExceeded, fileTooLarge, resourceBusy,
    executableFileBusy, deadlock, crossesDevices, tooManyLinks, invalidFilename,
    argumentListTooLong, interrupted, unsupported, unexpectedEof, outOfMemory, inProgress, other]

/-- The name of a kind, in the camel case that reports and configurations use. -/
def name : IoKind → String
  | notFound => "NotFound"
  | permissionDenied => "PermissionDenied"
  | connectionRefused => "ConnectionRefused"
  | connectionReset => "ConnectionReset"
  | hostUnreachable => "HostUnreachable"
  | networkUnreachable => "NetworkUnreachable"
  | connectionAborted => "ConnectionAborted"
  | notConnected => "NotConnected"
  | addrInUse => "AddrInUse"
  | addrNotAvailable => "AddrNotAvailable"
  | networkDown => "NetworkDown"
  | brokenPipe => "BrokenPipe"
  | alreadyExists => "AlreadyExists"
  | wouldBlock => "WouldBlock"
  | notADirectory => "NotADirectory"
  | isADirectory => "IsADirectory"
  | directoryNotEmpty => "DirectoryNotEmpty"
  | readOnlyFilesystem => "ReadOnlyFilesystem"
  | staleNetworkFileHandle => "StaleNetworkFileHandle"
  | invalidInput => "InvalidInput"
  | invalidData => "InvalidData"
  | timedOut => "TimedOut"
  | writeZero => "WriteZero"
  | storageFull => "StorageFull"
  | notSeekable => "NotSeekable"
  | quotaExceeded => "QuotaExceeded"
  | fileTooLarge => "FileTooLarge"
  | resourceBusy => "ResourceBusy"
  | executableFileBusy => "ExecutableFileBusy"
  | deadlock => "Deadlock"
  | crossesDevices => "CrossesDevices"
  | tooManyLinks => "TooManyLinks"
  | invalidFilename => "InvalidFilename"
  | argumentListTooLong => "ArgumentListTooLong"
  | interrupted => "Interrupted"
  | unsupported => "Unsupported"
  | unexpectedEof => "UnexpectedEof"
  | outOfMemory => "OutOfMemory"
  | inProgress => "InProgress"
  | other => "Other"

/-- The kind a name denotes. -/
def ofName? (s : String) : Option IoKind :=
  all.find? (fun k => k.name == s)

end IoKind

/-- A failed read or write: its kind and the text it reports. -/
structure IoError where
  kind : IoKind
  message : String
  deriving DecidableEq, Repr, Inhabited

/-- How a transport failure is classified for the retry rules. -/
inductive FailureKind where
  /-- The peer closed the connection before a response came. -/
  | connectionDropped
  /-- The TLS handshake failed. -/
  | tlsHandshake
  /-- The operation was interrupted. -/
  | interrupted
  /-- The host could not be resolved or reached. -/
  | unreachable
  /-- Any other TLS failure. -/
  | tls
  /-- A connect or I/O timeout. -/
  | timeout
  /-- Any other I/O failure. -/
  | io
  deriving DecidableEq, Repr, Inhabited

namespace FailureKind

/-- Every kind, in declaration order. -/
def all : List FailureKind :=
  [connectionDropped, tlsHandshake, interrupted, unreachable, tls, timeout, io]

/-- The words a message uses for a kind. -/
def describe : FailureKind → String
  | connectionDropped => "connection dropped"
  | tlsHandshake => "TLS handshake"
  | interrupted => "interrupted"
  | unreachable => "host unreachable"
  | tls => "TLS"
  | timeout => "timeout"
  | io => "I/O"

/-- The name of a kind, as reports spell it. -/
def name : FailureKind → String
  | connectionDropped => "ConnectionDropped"
  | tlsHandshake => "TlsHandshake"
  | interrupted => "Interrupted"
  | unreachable => "Unreachable"
  | tls => "Tls"
  | timeout => "Timeout"
  | io => "Io"

/-- The kind a name denotes. -/
def ofName? (s : String) : Option FailureKind :=
  all.find? (fun k => k.name == s)

/-- The classification of an I/O failure: a reset, abort, broken pipe or early end is a
dropped connection; a timeout or a would-block is a timeout; an unreachable host or
network or an unavailable address is unreachable; interruption is its own kind; all
else is plain I/O. -/
def ofIo : IoKind → FailureKind
  | .connectionReset | .connectionAborted | .brokenPipe | .unexpectedEof => connectionDropped
  | .interrupted => interrupted
  | .timedOut | .wouldBlock => timeout
  | .hostUnreachable | .networkUnreachable | .addrNotAvailable => unreachable
  | _ => io

end FailureKind

/-- Why a media type text was refused. -/
inductive MediaTypeFault where
  | missingSlash
  | emptyType
  | emptySubtype
  | wildcardType
  deriving DecidableEq, Repr, Inhabited

/-- The words of a refusal. -/
def MediaTypeFault.reason : MediaTypeFault → String
  | .missingSlash => "missing `/` separator"
  | .emptyType => "empty type"
  | .emptySubtype => "empty subtype"
  | .wildcardType => "wildcard type with a concrete subtype"

/-- A failure of building, sending or reading a call. -/
inductive Error where
  /-- The URL is not a usable absolute http(s) URL; `reason` says why. -/
  | urlSyntax (url reason : String)
  /-- A transport failure of a kind, with the text of its cause. -/
  | transport (kind : FailureKind) (cause : String)
  /-- A media type text was refused. -/
  | malformedMediaType (value : String) (fault : MediaTypeFault)
  /-- A `charset` parameter names no known encoding. -/
  | unsupportedCharset (label : String)
  /-- The proxy cannot be used. -/
  | proxy (message : String)
  /-- The client or the call could not be built. -/
  | build (message : String)
  /-- The request body could not be produced. -/
  | body (message : String)
  /-- The settings could not be loaded. -/
  | config (message : String)
  deriving DecidableEq, Repr, Inhabited

namespace Error

/-- The text of an error. -/
def message : Error → String
  | urlSyntax url reason => "Invalid URL `" ++ url ++ "`: " ++ reason
  | transport kind cause => "Transport error (" ++ kind.describe ++ "): " ++ cause
  | malformedMediaType value fault =>
      "Malformed content type `" ++ value ++ "`: " ++ fault.reason
  | unsupportedCharset label => "Unsupported charset: " ++ label
  | proxy m => "Proxy error: " ++ m
  | build m => "Client build error: " ++ m
  | body m => "Request body error: " ++ m
  | config m => "Configuration error: " ++ m

/-- The failure kind of a transport error; other errors have none. -/
def failureKind? : Error → Option FailureKind
  | transport kind _ => some kind
  | _ => none

/-- The text of the error's cause, for the errors that keep one. -/
def cause? : Error → Option String
  | transport _ cause => some cause
  | config m => some m
  | _ => none

/-- A failed read or write, as a transport error classified by its kind. -/
def ofIo (e : IoError) : Error :=
  transport (FailureKind.ofIo e.kind) e.message

theorem failureKind_ofIo (e : IoError) :
    (ofIo e).failureKind? = some (FailureKind.ofIo e.kind) := rfl

end Error

/-! ## Log entries -/

/-- The level of a log entry. -/
inductive LogLevel where
  | debug
  | warn
  deriving DecidableEq, Repr, Inhabited

/-- One reported event. -/
structure LogEntry where
  level : LogLevel
  message : String
  deriving DecidableEq, Repr, Inhabited

namespace LogEntry

/-- A debug entry. -/
def debug (message : String) : LogEntry := ⟨.debug, message⟩

/-- A warning. -/
def warn (message : String) : LogEntry := ⟨.warn, message⟩

/-- The text of an entry: `DEBUG` or `WARN`, a blank, and the message. -/
def render (e : LogEntry) : String :=
  (match e.level with
    | .debug => "DEBUG"
    | .warn => "WARN") ++ " " ++ e.message

end LogEntry

end HttpCall
