/-
  ShardBridge.Telemetry.Entry

  What the bridge has to say while it runs: entries with a level, a subject, a
  message and named values.
-/

namespace ShardBridge

/-- How grave an entry is, the gravest first. -/
inductive LogLevel where
  | error
  | warn
  | info
  | debug
  | trace
  deriving DecidableEq, Repr

def LogLevel.name : LogLevel → String
  | .error => "ERROR"
  | .warn => "WARN"
  | .info => "INFO"
  | .debug => "DEBUG"
  | .trace => "TRACE"

/-- How much a level lets through: an entry passes at its own rank and above. -/
def LogLevel.rank : LogLevel → Nat
  | .error => 1
  | .warn => 2
  | .info => 3
  | .debug => 4
  | .trace => 5

/-- What an entry is about. -/
inductive LogSubject where
  | bridge
  | checkpoint
  | transport
  deriving DecidableEq, Repr

def LogSubject.name : LogSubject → String
  | .bridge => "kcl.bridge"
  | .checkpoint => "kcl.checkpoint"
  | .transport => "kcl.transport"

/-- A value in an entry. -/
inductive LogValue where
  /-- A text that is shown as it is. -/
  | shown (text : String)
  /-- A text that is shown in quotes. -/
  | quoted (text : String)
  | number (n : Nat)
  deriving DecidableEq, Repr

/-- An entry of the log. -/
structure LogEntry where
  level : LogLevel
  subject : LogSubject
  message : String
  fields : List (String × LogValue)
  deriving DecidableEq, Repr

end ShardBridge
