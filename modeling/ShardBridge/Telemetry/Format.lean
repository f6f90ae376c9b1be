/-
  ShardBridge.Telemetry.Format

  The two forms of an entry of the log: a line for people, and a JSON object.
-/
import ShardBridge.Config
import ShardBridge.Json.Value
import ShardBridge.Telemetry.Entry
import ShardBridge.Text.Quoted

namespace ShardBridge

namespace LogValue

def text : LogValue → String
  | .shown s => s
  | .quoted s => Text.Quoted.quote s
  | .number n => String.ofList (Text.Decimal.digits n)

def toJson : LogValue → Json.Value
  | .shown s => .string s
  | .quoted s => .string s
  | .number n => .nat n

end LogValue

namespace LogEntry

/-- The number of places that the name of a level takes. -/
def levelWidth : Nat := 5

/-- The name of a level, to the right of its places. -/
def levelColumn (level : LogLevel) : String :=
  String.ofList (List.replicate (levelWidth - level.name.length) ' ') ++ level.name

def line (e : LogEntry) : String :=
  levelColumn e.level ++ " " ++ e.subject.name ++ ": " ++ e.message ++
    String.join (e.fields.map fun f => " " ++ f.1 ++ "=" ++ f.2.text)

/-- The named values of an entry as the members of an object. -/
def members (e : LogEntry) : List (String × Json.Value) :=
  e.fields.map fun f => (f.1, f.2.toJson)

def toJson (e : LogEntry) : Json.Value :=
  .object [("level", .string e.level.name),
    ("fields", .object (("message", .string e.message) :: e.members)),
    ("target", .string e.subject.name)]

/-- An entry in a format: a text, which may run over several lines, or an object. -/
def render (format : LogFormat) (e : LogEntry) : Json.Value :=
  match format with
  | .text => .string e.line
  | .json => e.toJson

end LogEntry

end ShardBridge
