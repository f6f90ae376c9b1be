/-
  ShardBridge.Message.Malformed

  Lines that are no message, with the reason. The wording shows the beginning
  of the line; the line itself is kept whole.

  Where in a line the reader of JSON stopped is a matter of that reader. Here it
  is open: whatever puts an error into words is told by a `Locator`.
-/
import ShardBridge.Action
import ShardBridge.Text.Utf8

namespace ShardBridge

/-- Why a line is no message, or not one for its place. -/
inductive MalformedCause where
  /-- The line is not text. -/
  | invalidUtf8 (m : Text.Utf8.Malformation)
  /-- The line is not JSON, or the name of its kind is no string. -/
  | invalidJson (e : Json.Error)
  /-- The line is JSON, but no object. -/
  | notAnObject
  /-- The object does not name its kind. -/
  | missingAction
  /-- There is no such kind. -/
  | unknownAction (name : String)
  /-- The content does not fit the kind. -/
  | invalidPayload (action : Action) (e : Json.Error)
  /-- A message stands where it is not allowed. -/
  | unexpectedAction (action : Action)
  deriving DecidableEq, Repr

/-- The wording of a cause, with the place in the line if the reader of JSON named one. -/
def MalformedCause.message (place : Option Json.Place) : MalformedCause → String
  | .invalidUtf8 m => "invalid UTF-8: " ++ m.message
  | .invalidJson e => "invalid JSON: " ++ e.message place
  | .notAnObject => "expected a JSON object"
  | .missingAction => "missing `action` discriminator"
  | .unknownAction name => "unknown action `" ++ name ++ "`"
  | .invalidPayload action e => "invalid " ++ action.name ++ " payload: " ++ e.message place
  | .unexpectedAction action => "`" ++ action.name ++ "` is not valid here"

/-- The error of a reader that stopped. -/
inductive ReaderError where
  /-- It reads bytes as text. -/
  | text (m : Text.Utf8.Malformation)
  /-- It reads text as JSON. -/
  | json (e : Json.Error)
  deriving DecidableEq, Repr

def ReaderError.message (place : Option Json.Place) : ReaderError → String
  | .text m => m.message
  | .json e => e.message place

/-- What a cause itself goes back to: the error of the reader that stopped. -/
def MalformedCause.reason? : MalformedCause → Option ReaderError
  | .invalidUtf8 m => some (.text m)
  | .invalidJson e => some (.json e)
  | .invalidPayload _ e => some (.json e)
  | _ => none

/-- A line that is no message. -/
structure MalformedLine where
  line : String
  cause : MalformedCause
  deriving DecidableEq, Repr

/-- The place that the reader of JSON names for what is wrong with a line, if it names one. -/
def Locator : Type := MalformedLine → Option Json.Place

/-- Names no place. -/
def Locator.silent : Locator := fun _ => none

namespace MalformedLine

/-- The number of characters of a line that the wording shows. -/
def previewLength : Nat := 200

def preview (m : MalformedLine) : String := String.ofList (m.line.toList.take previewLength)

/-- The wording of the error. -/
def message (locate : Locator) (m : MalformedLine) : String :=
  "malformed message `" ++ m.preview ++ "`: " ++ m.cause.message (locate m)

end MalformedLine

end ShardBridge
