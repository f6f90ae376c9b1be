/-
  ShardBridge.Checkpoint.FailureKind

  The families of failed checkpoints, told apart by the words of the failure.
-/
import ShardBridge.Action

namespace ShardBridge

/-- Why a checkpoint failed, broadly. -/
inductive CheckpointFailureKind where
  /-- The table of leases is overloaded. -/
  | throttling
  /-- The processor is being stopped; its lease is gone. -/
  | shutdown
  /-- The table of leases is missing or inconsistent. -/
  | invalidState
  /-- Something that the daemon depends on failed. -/
  | dependency
  /-- The answer was another message. -/
  | unexpectedResponse
  | other
  deriving DecidableEq, Repr

namespace CheckpointFailureKind

def name : CheckpointFailureKind → String
  | .throttling => "Throttling"
  | .shutdown => "Shutdown"
  | .invalidState => "InvalidState"
  | .dependency => "Dependency"
  | .unexpectedResponse => "UnexpectedResponse"
  | .other => "Other"

/-- The words that a failure begins with when the answer was another message. -/
def unexpectedResponseHeading : String := "unexpected response to checkpoint"

def unexpectedResponseText (action : Action) : String :=
  unexpectedResponseHeading ++ ": " ++ action.name

/-- One text stands within the other. -/
def occursIn (word : List Char) : List Char → Bool
  | [] => word.isEmpty
  | c :: text => word.isPrefixOf (c :: text) || occursIn word text

/-- The words that tell a kind, in the order in which they are looked for. -/
def signs : List (String × CheckpointFailureKind) :=
  [ ("ThrottlingException", .throttling), ("ShutdownException", .shutdown),
    ("InvalidStateException", .invalidState),
    ("KinesisClientLibDependencyException", .dependency) ]

def classify (error : String) : CheckpointFailureKind :=
  if unexpectedResponseHeading.toList.isPrefixOf error.toList then .unexpectedResponse
  else ((signs.find? fun s => occursIn s.1.toList error.toList).map Prod.snd).getD .other

/-- The same checkpoint may go well at another time. -/
def isRetryable : CheckpointFailureKind → Bool
  | .throttling | .dependency => true
  | _ => false

end CheckpointFailureKind

end ShardBridge
