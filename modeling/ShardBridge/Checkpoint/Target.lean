/-
  ShardBridge.Checkpoint.Target

  The position that a checkpoint is about.
-/
import ShardBridge.Message

namespace ShardBridge

/-- The position that a checkpoint is about. -/
inductive CheckpointTarget where
  /-- The last record that was delivered. -/
  | lastDelivered
  /-- A position that is named. -/
  | position (sequenceNumber : String) (subSequenceNumber : Option Int64)
  deriving DecidableEq, Repr

namespace CheckpointTarget

def ofRecord (r : Record) : CheckpointTarget := .position r.sequenceNumber r.subSequenceNumber

def sequenceNumber? : CheckpointTarget → Option String
  | .lastDelivered => none
  | .position s _ => some s

def text : CheckpointTarget → String
  | .lastDelivered => "last delivered record"
  | .position s none => s
  | .position s (some n) => s ++ "." ++ String.ofList (Text.Decimal.signed n.toInt)

/-- The message that asks the daemon to record the position. -/
def request : CheckpointTarget → Message
  | .lastDelivered => .checkpointRequest none none
  | .position s n => .checkpointRequest (some s) n

end CheckpointTarget

end ShardBridge
