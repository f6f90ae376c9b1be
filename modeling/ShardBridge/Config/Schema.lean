/-
  ShardBridge.Config.Schema

  The settings described for editors: a JSON schema. It has a property for each
  setting that a reader of JSON knows, and no other.
-/
import ShardBridge.Config.Json

namespace ShardBridge.Config

open Json (Value)

/-- A whole number that may be null. -/
def integerSchema (description format : String) : Value :=
  .object [("description", .string description), ("type", .strings ["integer", "null"]),
    ("format", .string format), ("minimum", .nat 0)]

/-- A name that stands for itself. -/
def constantSchema (description name : String) : Value :=
  .object [("description", .string description), ("type", .string "string"),
    ("const", .string name)]

def formatDescription : LogFormat → String
  | .text => "Human-readable lines."
  | .json => "One JSON object per event."

/-- One of the formats, by its name. -/
def formatSchema : Value :=
  .object [("description", .string "Output format for diagnostic logs on stderr."),
    ("oneOf", .array (LogFormat.variants.map fun entry =>
      constantSchema (formatDescription entry.2) entry.1))]

def propertySchemas : List (String × Value) :=
  [ ("log_level", .object [
      ("description",
        .string "Log level or `EnvFilter` directive (e.g. `\"debug\"`, `\"kcl=trace\"`)."),
      ("type", .strings ["string", "null"])]),
    ("log_format", .object [("description", .string "Log output format."),
      ("anyOf", .array [.object [("$ref", .string "#/$defs/LogFormat")],
        .object [("type", .string "null")]])]),
    ("checkpoint_retries",
      integerSchema "How many times a failed checkpoint is retried by the retrying handler."
        "uint32"),
    ("checkpoint_retry_delay_ms",
      integerSchema "Pause before each checkpoint retry, in milliseconds." "uint64") ]

/-- The schema, in the dialect with this address. -/
def schema (dialect : String) : Value :=
  .object [("$schema", .string dialect), ("title", .string "BridgeConfig"),
    ("description", .string "Runtime configuration for a record processor bridge."),
    ("type", .string "object"), ("properties", .object propertySchemas),
    ("$defs", .object [("LogFormat", formatSchema)])]

/-- The schema has a property for each setting, in the order of the settings. -/
theorem schema_properties (dialect : String) :
    ∃ properties, (schema dialect).get? "properties" = some (.object properties) ∧
      properties.map Prod.fst = settings.map Setting.name :=
  ⟨propertySchemas, rfl, rfl⟩

end ShardBridge.Config
