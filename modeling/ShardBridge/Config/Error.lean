/-
  ShardBridge.Config.Error

  Why a configuration cannot be had.
-/
import ShardBridge.Text.Quoted

namespace ShardBridge

/-- Why a configuration cannot be had. -/
inductive ConfigError where
  /-- There is no such file, or it is not text. -/
  | fileNotFound (path : String)
  /-- The file does not read as a configuration. -/
  | unreadable
  /-- A variable of the environment has a value that does not fit. -/
  | invalidVariable (name : String) (reason : String)
  /-- The settings are out of bounds. -/
  | invalid (reasons : List String)
  deriving DecidableEq, Repr

def ConfigError.message : ConfigError → String
  | .fileNotFound path => "config file not found: " ++ path
  | .unreadable => "failed to parse config"
  | .invalidVariable name reason => "invalid value for " ++ name ++ ": " ++ reason
  | .invalid reasons => "config validation failed: " ++ Text.Quoted.quoteAll reasons

end ShardBridge
