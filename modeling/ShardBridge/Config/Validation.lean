/-
  ShardBridge.Config.Validation

  Bounds on settings. What is out of bounds is refused, with every reason; what
  is merely unwise is warned of.
-/
import ShardBridge.Config
import ShardBridge.Config.Error
import ShardBridge.Text.Blank
import ShardBridge.Text.Decimal

namespace ShardBridge.Config

/-! ## Refusals -/

/-- The levels that stand alone. -/
def bareLevels : List String := ["error", "warn", "info", "debug", "trace", "off"]

/-- The greatest number of further tries. -/
def greatestRetries : Nat := 100

/-- The longest pause before a further try: ten minutes. -/
def greatestRetryDelay : Nat := 600000

def numeral (n : Nat) : String := String.ofList (Text.Decimal.digits n)

/-- The level is neither one of the known ones nor made of directives. -/
def isUnknownLevel (level : String) : Bool :=
  !level.toList.contains '=' && !bareLevels.contains (Text.toLowerAscii level)

/-- Why the level is refused. -/
def levelReasons (c : Config) : List String :=
  match c.logLevel with
  | some level => if isUnknownLevel level then ["invalid log_level '" ++ level ++ "'"] else []
  | none => []

/-- Why a number is refused: it is past its bound. -/
def rangeReasons (name : String) (greatest n : Nat) : List String :=
  if greatest < n then
    [name ++ " " ++ numeral n ++ " out of range (0..=" ++ numeral greatest ++ ")"]
  else []

/-- Why the settings are refused. -/
def reasons (c : Config) : List String :=
  levelReasons c ++ rangeReasons "checkpoint_retries" greatestRetries c.retries.toNat ++
    rangeReasons "checkpoint_retry_delay_ms" greatestRetryDelay c.retryDelay.toNat

/-! ## Warnings -/

/-- Something unwise. -/
inductive Warning where
  /-- There are further tries, without a pause between them. -/
  | zeroRetryDelay (retries : Nat)
  /-- A failing checkpoint holds up the shard for many seconds. -/
  | longRetryWindow (seconds : Nat)
  deriving DecidableEq, Repr

def Warning.name : Warning → String
  | .zeroRetryDelay _ => "ZeroRetryDelay"
  | .longRetryWindow _ => "LongRetryWindow"

def Warning.message : Warning → String
  | .zeroRetryDelay n => numeral n ++ " checkpoint retries with no delay between them"
  | .longRetryWindow s => "a failing checkpoint can block processing for " ++ numeral s ++ "s"

/-- The greatest number of milliseconds that is told apart from greater ones. -/
def greatestWindow : Nat := UInt64.size - 1

/-- The time that all further tries take at most, in milliseconds. -/
def retryWindow (c : Config) : Nat := min greatestWindow (c.retries.toNat * c.retryDelay.toNat)

/-- The longest time in seconds that goes without a warning. -/
def longestQuietWindow : Nat := 300

/-- What is unwise about settings that are not refused. -/
def warnings (c : Config) : List Warning :=
  (if 0 < c.retries.toNat && c.retryDelay.toNat = 0 then [.zeroRetryDelay c.retries.toNat]
    else []) ++
  (if longestQuietWindow < retryWindow c / 1000 then [.longRetryWindow (retryWindow c / 1000)]
    else [])

/-- Refuses settings that are out of bounds, and warns of the rest. -/
def validate (c : Config) : Except ConfigError (List Warning) :=
  if reasons c = [] then .ok (warnings c) else .error (.invalid (reasons c))

end ShardBridge.Config
