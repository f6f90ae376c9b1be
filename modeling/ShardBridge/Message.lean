/-
  ShardBridge.Message

  The messages that daemon and processor exchange, one to a line, and the
  object that stands for each. The first member names the kind; a field
  without a value is left out, but for the position of a checkpoint, which is
  then null.
-/
import ShardBridge.Action
import ShardBridge.Record

namespace ShardBridge

/-! ## Content -/

/-- A shard is assigned. -/
structure ShardStart where
  shardId : String
  /-- Where to go on, if the shard was checkpointed before. -/
  sequenceNumber : Option String
  subSequenceNumber : Option Int64
  deriving DecidableEq, Repr

/-- A batch of records, in the order of the shard. -/
structure Batch where
  records : List Record
  /-- How far the batch is behind the tip of the stream. -/
  millisBehindLatest : Option Int64
  deriving DecidableEq, Repr

def Batch.last? (b : Batch) : Option Record := b.records.getLast?

/-- Why an older daemon stops a processor. -/
inductive ShutdownReason where
  /-- The shard ended; its position may still be recorded. -/
  | terminate
  /-- The lease is lost; nothing may be recorded. -/
  | zombie
  /-- The daemon itself stops. -/
  | requested
  deriving DecidableEq, Repr

/-- The reason in words. -/
def ShutdownReason.name : ShutdownReason → String
  | .terminate => "TERMINATE"
  | .zombie => "ZOMBIE"
  | .requested => "REQUESTED"

/-- The reason as a value in JSON. -/
def ShutdownReason.variantName : ShutdownReason → String
  | .terminate => "TERMINATE"
  | .zombie => "ZOMBIE"
  | .requested => "REQUESTED"

def ShutdownReason.variants : List (String × ShutdownReason) :=
  [.terminate, .zombie, .requested].map fun r => (r.variantName, r)

/-- A request to record a position, or the answer to it. -/
structure CheckpointNotice where
  /-- The position; none stands for the last record that was delivered. -/
  sequenceNumber : Option String
  subSequenceNumber : Option Int64
  /-- What went wrong, in the words of the daemon. -/
  error : Option String
  deriving DecidableEq, Repr

/-- What went wrong. An empty text says that nothing did. -/
def CheckpointNotice.effectiveError (c : CheckpointNotice) : Option String :=
  c.error.filter (· ≠ "")

/-! ## Messages -/

/-- A message. -/
inductive Message where
  | start (content : ShardStart)
  | processRecords (content : Batch)
  | leaseLost
  | shardEnded
  | shutdownRequested
  | shutdown (reason : ShutdownReason)
  | checkpoint (content : CheckpointNotice)
  | status (responseFor : Action)
  deriving DecidableEq, Repr

namespace Message

def action : Message → Action
  | .start _ => .start
  | .processRecords _ => .processRecords
  | .leaseLost => .leaseLost
  | .shardEnded => .shardEnded
  | .shutdownRequested => .shutdownRequested
  | .shutdown _ => .shutdown
  | .checkpoint _ => .checkpoint
  | .status _ => .status

/-- A request to record a position. -/
def checkpointRequest (sequenceNumber : Option String) (subSequenceNumber : Option Int64) :
    Message :=
  .checkpoint ⟨sequenceNumber, subSequenceNumber, none⟩

/-! ## Wire form -/

open Record (optionalMember int64Value)

/-- What names the kind of a message in its object. -/
def tag : Message → String
  | .start _ => "initialize"
  | .processRecords _ => "processRecords"
  | .leaseLost => "leaseLost"
  | .shardEnded => "shardEnded"
  | .shutdownRequested => "shutdownRequested"
  | .shutdown _ => "shutdown"
  | .checkpoint _ => "checkpoint"
  | .status _ => "status"

/-- The members of a message after the one that names its kind. -/
def members : Message → List (String × Json.Value)
  | .start c =>
    [("shardId", .string c.shardId)] ++
    optionalMember "sequenceNumber" .string c.sequenceNumber ++
    optionalMember "subSequenceNumber" int64Value c.subSequenceNumber
  | .processRecords c =>
    [("records", .array (c.records.map Record.toJson))] ++
    optionalMember "millisBehindLatest" int64Value c.millisBehindLatest
  | .leaseLost => []
  | .shardEnded => []
  | .shutdownRequested => []
  | .shutdown reason => [("reason", .string reason.variantName)]
  | .checkpoint c =>
    [("sequenceNumber", (c.sequenceNumber.map Json.Value.string).getD .null)] ++
    optionalMember "subSequenceNumber" int64Value c.subSequenceNumber ++
    optionalMember "error" .string c.error
  | .status a => [("responseFor", .string a.variantName)]

/-- The object that stands for a message. -/
def toJson (m : Message) : Json.Value :=
  .object (("action", .string m.tag) :: m.members)

/-- The line of a message, without its end. -/
def encode (m : Message) : String := m.toJson.text

/-! ## Laws -/

/-- A message is tagged with the name of its kind in the table. -/
theorem tag_eq (m : Message) : m.tag = m.action.name := by cases m <;> rfl

end Message

/-- A reason as a value goes by its words. -/
theorem ShutdownReason.variantName_eq (r : ShutdownReason) : r.variantName = r.name := by
  cases r <;> rfl

end ShardBridge
