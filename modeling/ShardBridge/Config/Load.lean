/-
  ShardBridge.Config.Load

  Settings from a file and from the environment, which goes over the file.
-/
import ShardBridge.Config.Environment
import ShardBridge.Config.Toml
import ShardBridge.Text.Utf8

namespace ShardBridge.Config

/-- A file that was asked for. -/
structure File where
  path : String
  /-- Its bytes; none when it cannot be read. -/
  content : Option (List UInt8)

def File.text (f : File) : Except ConfigError String :=
  match f.content.bind Text.Utf8.decode? with
  | some text => .ok text
  | none => .error (.fileNotFound f.path)

def parse (text : String) : Except ConfigError Config :=
  match ofToml text with
  | some c => .ok c
  | none => .error .unreadable

/-- The settings before the environment is looked at. -/
def ofFile : Option File → Except ConfigError Config
  | none => .ok initial
  | some f =>
    match f.text with
    | .error e => .error e
    | .ok text => parse text

/-- The settings from a file, if one is asked for, and from the environment. -/
def load (file : Option File) (env : Environment) : Except ConfigError Config :=
  match ofFile file with
  | .error e => .error e
  | .ok c =>
    match override env c with
    | (.ok (), c') => .ok c'
    | (.error e, _) => .error e

end ShardBridge.Config
