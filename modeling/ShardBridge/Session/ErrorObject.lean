/-
  ShardBridge.Session.ErrorObject

  Errors as JSON objects, for tools that watch a session: the name of the
  error, its wording, and what it is about.
-/
import ShardBridge.Session.Error

namespace ShardBridge

open Json (Value)

/-- A member that is null when it has no value. -/
def nullable {α : Type} (toValue : α → Value) : Option α → Value
  | some a => toValue a
  | none => .null

def MalformedCause.toJson : MalformedCause → Value
  | .invalidUtf8 m =>
    .object [("kind", .string "InvalidUtf8"), ("valid_up_to", .nat m.validUpTo),
      ("error_len", nullable .nat m.errorLength)]
  | .invalidJson e =>
    .object [("kind", .string "InvalidJson"), ("category", .string e.category.name)]
  | .notAnObject => .object [("kind", .string "NotAnObject")]
  | .missingAction => .object [("kind", .string "MissingAction")]
  | .unknownAction name => .object [("kind", .string "UnknownAction"), ("name", .string name)]
  | .invalidPayload action e =>
    .object [("kind", .string "InvalidPayload"), ("action", .string action.name),
      ("category", .string e.category.name)]
  | .unexpectedAction action =>
    .object [("kind", .string "UnexpectedAction"), ("action", .string action.name)]

def MalformedLine.toJson (locate : Locator) (m : MalformedLine) : Value :=
  .object [("error", .string "Malformed"), ("message", .string (m.message locate)),
    ("line", .string m.line), ("cause", m.cause.toJson)]

namespace SessionError

def name : SessionError → String
  | .malformed _ => "Malformed"
  | .encode _ _ _ => "Encode"
  | .read _ => "Read"
  | .write _ => "Write"
  | .closedDuringCheckpoint => "ClosedDuringCheckpoint"
  | .embeddedNewline => "EmbeddedNewline"
  | .processor _ _ => "Processor"

/-- What an error is about: the kind of a message, or the kind of a stream's failure. -/
def topic? : SessionError → Option String
  | .encode action _ _ => some action.name
  | .processor action _ => some action.name
  | .read e => some e.kind.name
  | .write e => some e.kind.name
  | _ => none

def toJson (locate : Locator) : SessionError → Value
  | .malformed m => m.toJson locate
  | e => .object [("error", .string e.name), ("message", .string (e.message locate)),
      ("of", nullable .string e.topic?)]

end SessionError

end ShardBridge
