/-
  ShardBridge.Stream.Failure

  How a byte stream fails: a kind, a text for people, and the errors behind it.
-/
import ShardBridge.Stream.Trail

namespace ShardBridge

/-- The kinds of failure of a stream. -/
inductive StreamFailureKind where
  | notFound
  | permissionDenied
  | connectionRefused
  | connectionReset
  | hostUnreachable
  | networkUnreachable
  | connectionAborted
  | notConnected
  | addrInUse
  | addrNotAvailable
  | networkDown
  | brokenPipe
  | alreadyExists
  | wouldBlock
  | notADirectory
  | isADirectory
  | directoryNotEmpty
  | readOnlyFilesystem
  | staleNetworkFileHandle
  | invalidInput
  | invalidData
  | timedOut
  | writeZero
  | storageFull
  | notSeekable
  | quotaExceeded
  | fileTooLarge
  | resourceBusy
  | executableFileBusy
  | deadlock
  | crossesDevices
  | tooManyLinks
  | invalidFilename
  | argumentListTooLong
  | interrupted
  | unsupported
  | unexpectedEof
  | outOfMemory
  | other
  deriving DecidableEq, Repr

namespace StreamFailureKind

def byName : List (String × StreamFailureKind) :=
  [ ("NotFound", .notFound), ("PermissionDenied", .permissionDenied),
    ("ConnectionRefused", .connectionRefused), ("ConnectionReset", .connectionReset),
    ("HostUnreachable", .hostUnreachable), ("NetworkUnreachable", .networkUnreachable),
    ("ConnectionAborted", .connectionAborted), ("NotConnected", .notConnected),
    ("AddrInUse", .addrInUse), ("AddrNotAvailable", .addrNotAvailable),
    ("NetworkDown", .networkDown), ("BrokenPipe", .brokenPipe), ("AlreadyExists", .alreadyExists),
    ("WouldBlock", .wouldBlock), ("NotADirectory", .notADirectory),
    ("IsADirectory", .isADirectory), ("DirectoryNotEmpty", .directoryNotEmpty),
    ("ReadOnlyFilesystem", .readOnlyFilesystem),
    ("StaleNetworkFileHandle", .staleNetworkFileHandle), ("InvalidInput", .invalidInput),
    ("InvalidData", .invalidData), ("TimedOut", .timedOut), ("WriteZero", .writeZero),
    ("StorageFull", .storageFull), ("NotSeekable", .notSeekable),
    ("QuotaExceeded", .quotaExceeded), ("FileTooLarge", .fileTooLarge),
    ("ResourceBusy", .resourceBusy), ("ExecutableFileBusy", .executableFileBusy),
    ("Deadlock", .deadlock), ("CrossesDevices", .crossesDevices), ("TooManyLinks", .tooManyLinks),
    ("InvalidFilename", .invalidFilename), ("ArgumentListTooLong", .argumentListTooLong),
    ("Interrupted", .interrupted), ("Unsupported", .unsupported),
    ("UnexpectedEof", .unexpectedEof), ("OutOfMemory", .outOfMemory), ("Other", .other) ]

def name (k : StreamFailureKind) : String :=
  ((byName.find? fun entry => entry.2 = k).map Prod.fst).getD "Other"

def named? (name : String) : Option StreamFailureKind := byName.lookup name

/-- The other side went away, as it does when it is done with the stream. -/
def isClosing : StreamFailureKind → Bool
  | .unexpectedEof | .brokenPipe | .connectionReset | .connectionAborted => true
  | _ => false

end StreamFailureKind

/-- A failure of a stream. -/
structure StreamFailure where
  kind : StreamFailureKind
  text : String
  /-- What led to it. -/
  trail : Trail := .root
  deriving DecidableEq, Repr

/-- The failure of a stream that takes none of the bytes it is offered. -/
def StreamFailure.writeZero : StreamFailure := { kind := .writeZero, text := "write zero" }

end ShardBridge
