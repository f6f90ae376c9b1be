/-
  ShardBridge.Config

  The settings of a bridge. Each can be left out and then has a default, and a
  setting that is left out stays apart from one that is set to its default: it
  gives way when two configurations are merged.
-/

namespace ShardBridge

/-- How the log is written. -/
inductive LogFormat where
  | text
  /-- One JSON object an entry. -/
  | json
  deriving DecidableEq, Repr

def LogFormat.variants : List (String × LogFormat) := [("text", .text), ("json", .json)]

def LogFormat.name : LogFormat → String
  | .text => "text"
  | .json => "json"

/-- Settings as they were given. -/
structure Config where
  /-- A level, or directives for single targets. -/
  logLevel : Option String
  logFormat : Option LogFormat
  /-- How often a failed checkpoint is tried again. -/
  checkpointRetries : Option UInt32
  /-- The pause before each further try, in milliseconds. -/
  checkpointRetryDelay : Option UInt64
  deriving DecidableEq, Repr

namespace Config

def empty : Config := ⟨none, none, none, none⟩

/-- The settings of a bridge that was given none: the log level is set, and nothing else. -/
def initial : Config := { empty with logLevel := some "info" }

/-! ## Effective settings -/

def defaultLogLevel : String := "info"

def defaultCheckpointRetries : UInt32 := 5

/-- The pause where none is set: five seconds. -/
def defaultCheckpointRetryDelay : UInt64 := 5000

def effectiveLogLevel (c : Config) : String := c.logLevel.getD defaultLogLevel

def effectiveLogFormat (c : Config) : LogFormat := c.logFormat.getD .text

def retries (c : Config) : UInt32 := c.checkpointRetries.getD defaultCheckpointRetries

def retryDelay (c : Config) : UInt64 := c.checkpointRetryDelay.getD defaultCheckpointRetryDelay

/-! ## Merging -/

/-- Lays settings over others: what is set above counts, and the rest shows through. -/
def merge (base overlay : Config) : Config where
  logLevel := overlay.logLevel.or base.logLevel
  logFormat := overlay.logFormat.or base.logFormat
  checkpointRetries := overlay.checkpointRetries.or base.checkpointRetries
  checkpointRetryDelay := overlay.checkpointRetryDelay.or base.checkpointRetryDelay

end Config

end ShardBridge
