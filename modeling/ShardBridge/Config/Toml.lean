/-
  ShardBridge.Config.Toml

  Settings as a TOML document, which is what configuration files hold. Keys
  that are no settings mean nothing; what is not set is left out.
-/
import ShardBridge.Config
import ShardBridge.Toml.Document

namespace ShardBridge.Config

open Toml (Entries Value)

/-! ## Reading -/

/-- The value means nothing: it is an empty table or list. -/
def isHollow : Value → Bool
  | .table _ [] => true
  | .array [] => true
  | _ => false

def tomlString : Value → Option String
  | .string s => some (String.ofList s)
  | _ => none

/-- The name of a format, or a table with nothing but that name in it. -/
def tomlFormat : Value → Option LogFormat
  | .string s => LogFormat.variants.lookup (String.ofList s)
  | .table _ [(key, v)] => if isHollow v then LogFormat.variants.lookup key else none
  | _ => none

/-- A natural number up to a bound. -/
def tomlNatural (greatest : Nat) : Value → Option Nat
  | .integer (.ofNat n) => if n ≤ greatest then some n else none
  | _ => none

/-- The value of a key; a key that is not there has none. -/
def tomlMember {α : Type} (read : Value → Option α) (key : String) (entries : Entries) :
    Option (Option α) :=
  match entries.lookup key with
  | none => some none
  | some v => (read v).map some

def ofEntries (entries : Entries) : Option Config := do
  let logLevel ← tomlMember tomlString "log_level" entries
  let logFormat ← tomlMember tomlFormat "log_format" entries
  let retries ← tomlMember (tomlNatural (UInt32.size - 1)) "checkpoint_retries" entries
  let delay ← tomlMember (tomlNatural (UInt64.size - 1)) "checkpoint_retry_delay_ms" entries
  return ⟨logLevel, logFormat, retries.map UInt32.ofNat, delay.map UInt64.ofNat⟩

def ofToml (text : String) : Option Config := (Entries.ofText text.toList).bind ofEntries

/-! ## Writing -/

/-- The line of a setting. -/
def tomlLine (key : String) (value : List Char) : List Char :=
  key.toList ++ [' ', '=', ' '] ++ value ++ ['\n']

/-- The line of a setting, if it is set. -/
def tomlSetting {α : Type} (key : String) (render : α → List Char) : Option α → List Char
  | some a => tomlLine key (render a)
  | none => []

/-- The greatest whole number that a document can hold. -/
def greatestTomlInteger : Nat := 9223372036854775807

/-- The TOML text of settings; there is none when the pause is too long for a document. -/
def toToml (c : Config) : Option String :=
  if c.checkpointRetryDelay.any fun n => greatestTomlInteger < n.toNat then none
  else
    some <| String.ofList <|
      tomlSetting "log_level" (fun s => Toml.Text.render s.toList) c.logLevel ++
      tomlSetting "log_format" (fun f => Toml.Text.render f.name.toList) c.logFormat ++
      tomlSetting "checkpoint_retries" (fun n => Text.Decimal.digits n.toNat)
        c.checkpointRetries ++
      tomlSetting "checkpoint_retry_delay_ms" (fun n => Text.Decimal.digits n.toNat)
        c.checkpointRetryDelay

end ShardBridge.Config
