/-
  ShardBridge.Config.Environment

  Settings from variables of the environment. The variables are looked at in a
  fixed order, up to the first whose value does not fit; those before it keep
  their effect.
-/
import ShardBridge.Config
import ShardBridge.Config.Error
import ShardBridge.Text.Blank
import ShardBridge.Text.Natural

namespace ShardBridge.Config

/-- An environment: the values of its variables. -/
abbrev Environment := String → Option String

/-- A variable, and what its value does to the settings. -/
structure Override where
  name : String
  set : String → Config → Except String Config

/-- The format with a name, in whatever case. -/
def formatOf (value : String) : Except String LogFormat :=
  match LogFormat.variants.lookup (Text.toLowerAscii value) with
  | some format => .ok format
  | none => .error ("unknown format '" ++ Text.toLowerAscii value ++ "'")

/-- The number up to a bound that a value holds, between blanks. -/
def numberOf (greatest : Nat) (value : String) : Except String Nat :=
  match Text.Natural.read greatest (Text.trim value.toList) with
  | .ok n => .ok n
  | .error f => .error f.message

/-- The variables that are looked at, in their order. -/
def overrides : List Override :=
  [ ⟨"KCL_LOG_LEVEL", fun value c => .ok { c with logLevel := some value }⟩,
    ⟨"KCL_LOG_FORMAT", fun value c =>
      (formatOf value).map fun format => { c with logFormat := some format }⟩,
    ⟨"KCL_CHECKPOINT_RETRIES", fun value c =>
      (numberOf (UInt32.size - 1) value).map fun n =>
        { c with checkpointRetries := some (UInt32.ofNat n) }⟩,
    ⟨"KCL_CHECKPOINT_RETRY_DELAY_MS", fun value c =>
      (numberOf (UInt64.size - 1) value).map fun n =>
        { c with checkpointRetryDelay := some (UInt64.ofNat n) }⟩ ]

/-- Applies overrides, up to the first whose value does not fit. -/
def applyAll (env : Environment) : List Override → Config → Except ConfigError Unit × Config
  | [], c => (.ok (), c)
  | o :: rest, c =>
    match env o.name with
    | none => applyAll env rest c
    | some value =>
      match o.set value c with
      | .ok c' => applyAll env rest c'
      | .error reason => (.error (.invalidVariable o.name reason), c)

/-- Applies the environment to settings: how that came out, and the settings after it. -/
def override (env : Environment) (c : Config) : Except ConfigError Unit × Config :=
  applyAll env overrides c

end ShardBridge.Config
