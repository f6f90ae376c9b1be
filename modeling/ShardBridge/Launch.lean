/-
  ShardBridge.Launch

  What a program does before its session: it loads its settings, checks them if
  it wants to, and sets up its log. The log can be set up only once.
-/
import ShardBridge.Config.Load
import ShardBridge.Config.Validation
import ShardBridge.Telemetry.Filter
import ShardBridge.Telemetry.Format

namespace ShardBridge

/-! ## The log -/

/-- A log that is set up. -/
structure LogSetup where
  filter : LogFilter
  format : LogFormat

/-- Why a log cannot be set up. -/
inductive LogSetupError where
  /-- The directives do not read as a filter. -/
  | invalidFilter
  /-- A log is set up already. -/
  | alreadySetUp
  deriving DecidableEq, Repr

def LogSetupError.message : LogSetupError → String
  | .invalidFilter => "invalid log filter"
  | .alreadySetUp => "failed to install tracing subscriber"

namespace LogSetup

/-- The variable of the environment whose directives go before the settings. -/
def filterVariable : String := "RUST_LOG"

/-- The directives for a log: those of the environment unless they are blank, and else those of
    the settings. -/
def directives (c : Config) (env : Config.Environment) : String :=
  match env filterVariable with
  | some text => if text.toList.all Text.isBlank then c.effectiveLogLevel else text
  | none => c.effectiveLogLevel

def ofConfig (c : Config) (env : Config.Environment) : Except LogSetupError LogSetup :=
  match LogFilter.ofText (directives c env) with
  | some filter => .ok ⟨filter, c.effectiveLogFormat⟩
  | none => .error .invalidFilter

/-- Sets the log up, where there may be one already. -/
def install (c : Config) (env : Config.Environment) (current : Option LogSetup) :
    Except LogSetupError LogSetup :=
  match ofConfig c env, current with
  | .error e, _ => .error e
  | .ok _, some _ => .error .alreadySetUp
  | .ok setup, none => .ok setup

/-- Sets the log up so many times. -/
def installTimes (c : Config) (env : Config.Environment) :
    Nat → Option LogSetup → Except LogSetupError (Option LogSetup)
  | 0, current => .ok current
  | n + 1, current =>
    match install c env current with
    | .error e => .error e
    | .ok setup => installTimes c env n (some setup)

/-- How much of a subject a log shows; a log that is not set up shows nothing. -/
def threshold (setup : Option LogSetup) (subject : LogSubject) : LogThreshold :=
  setup.bind fun s => s.filter.threshold subject

/-- What a log shows of an entry, if anything. -/
def show? (setup : Option LogSetup) (e : LogEntry) : Option Json.Value :=
  match setup with
  | some s => if s.filter.passes e then some (e.render s.format) else none
  | none => none

end LogSetup

/-! ## Launching -/

/-- How a program is launched. -/
structure Launch where
  file : Option Config.File
  env : Config.Environment
  /-- The settings are checked. -/
  checks : Bool
  /-- The number of times that the log is set up. -/
  installs : Nat

/-- Why a program does not get to its session. -/
inductive LaunchError where
  | load (e : ConfigError)
  | check (e : ConfigError)
  | log (e : LogSetupError)
  deriving DecidableEq, Repr

/-- A program that is ready for its session. -/
structure Ready where
  config : Config
  log : Option LogSetup

namespace Launch

/-- Checks settings if that is wanted; warnings are no hindrance. -/
def check (l : Launch) (c : Config) : Except LaunchError Unit :=
  if l.checks then
    match c.validate with
    | .ok _ => .ok ()
    | .error e => .error (.check e)
  else .ok ()

def prepare (l : Launch) : Except LaunchError Ready :=
  match Config.load l.file l.env with
  | .error e => .error (.load e)
  | .ok c =>
    match l.check c with
    | .error e => .error e
    | .ok () =>
      match LogSetup.installTimes c l.env l.installs none with
      | .error e => .error (.log e)
      | .ok log => .ok ⟨c, log⟩

end Launch

end ShardBridge
