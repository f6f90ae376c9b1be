/-
  ShardBridge.Message.Decode

  Lines as messages. The general reader takes the line first, and the last
  member called `action` gives the kind; then the content is read from the
  same tree, where a field may stand only once.
-/
import ShardBridge.Message
import ShardBridge.Message.Malformed

namespace ShardBridge.Message

open Json (Field Shape Tree)

/-! ## Content -/

def readOptionalString : Tree → Json.Result (Option String) := Tree.asOptional Tree.asString

def readOptionalInt64 : Tree → Json.Result (Option Int64) := Tree.asOptional Record.readInt64

/-- The assignment of a shard of which some fields were read. -/
structure StartDraft where
  shardId : Option String := none
  sequenceNumber : Option (Option String) := none
  subSequenceNumber : Option (Option Int64) := none

def startShape : Shape StartDraft ShardStart where
  name := "an assignment"
  fields := [
    .required "shardId" StartDraft.shardId (fun a d => { d with shardId := some a }) Tree.asString,
    .optional "sequenceNumber" StartDraft.sequenceNumber
      (fun a d => { d with sequenceNumber := some a }) readOptionalString,
    .optional "subSequenceNumber" StartDraft.subSequenceNumber
      (fun a d => { d with subSequenceNumber := some a }) readOptionalInt64 ]
  blank := {}
  build := fun d =>
    match d.shardId with
    | some shardId => .ok ⟨shardId, d.sequenceNumber.join, d.subSequenceNumber.join⟩
    | none => .error (.mismatch (.missingField "shardId"))

/-- A batch of which some fields were read. -/
structure BatchDraft where
  records : Option (List Record) := none
  millisBehindLatest : Option (Option Int64) := none

def batchShape : Shape BatchDraft Batch where
  name := "a batch"
  fields := [
    .required "records" BatchDraft.records (fun a d => { d with records := some a })
      (Tree.asList Record.ofTree),
    .optional "millisBehindLatest" BatchDraft.millisBehindLatest
      (fun a d => { d with millisBehindLatest := some a }) readOptionalInt64 ]
  blank := {}
  build := fun d =>
    match d.records with
    | some records => .ok ⟨records, d.millisBehindLatest.join⟩
    | none => .error (.mismatch (.missingField "records"))

def shutdownShape : Shape (Option ShutdownReason) ShutdownReason where
  name := "a shutdown"
  fields := [
    .required "reason" id (fun a _ => some a) (Tree.asVariant ShutdownReason.variants) ]
  blank := none
  build := Json.present "reason"

/-- A checkpoint of which some fields were read. -/
structure CheckpointDraft where
  sequenceNumber : Option (Option String) := none
  subSequenceNumber : Option (Option Int64) := none
  error : Option (Option String) := none

def checkpointShape : Shape CheckpointDraft CheckpointNotice where
  name := "a checkpoint"
  fields := [
    .optional "sequenceNumber" CheckpointDraft.sequenceNumber
      (fun a d => { d with sequenceNumber := some a }) readOptionalString,
    .optional "subSequenceNumber" CheckpointDraft.subSequenceNumber
      (fun a d => { d with subSequenceNumber := some a }) readOptionalInt64,
    .optional "error" CheckpointDraft.error (fun a d => { d with error := some a })
      readOptionalString ]
  blank := {}
  build := fun d => .ok ⟨d.sequenceNumber.join, d.subSequenceNumber.join, d.error.join⟩

def statusShape : Shape (Option Action) Action where
  name := "a status"
  fields := [ .required "responseFor" id (fun a _ => some a) Action.ofTree ]
  blank := none
  build := Json.present "responseFor"

/-- Reads the message of a kind from the tree of its line. Three kinds have no content, and
    nothing is asked of their members. -/
def ofTree (action : Action) (tree : Tree) : Json.Result Message :=
  match action with
  | .start => (startShape.ofTree tree).map .start
  | .processRecords => (batchShape.ofTree tree).map .processRecords
  | .leaseLost => .ok .leaseLost
  | .shardEnded => .ok .shardEnded
  | .shutdownRequested => .ok .shutdownRequested
  | .shutdown => (shutdownShape.ofTree tree).map .shutdown
  | .checkpoint => (checkpointShape.ofTree tree).map .checkpoint
  | .status => (statusShape.ofTree tree).map .status

/-! ## Lines -/

/-- The kind that an object names. -/
def actionOf (object : Json.Value) : Except MalformedCause Action :=
  match object.get? "action" with
  | none => .error .missingAction
  | some .null => .error .missingAction
  | some (.string name) =>
    match Action.named? name with
    | some a => .ok a
    | none => .error (.unknownAction name)
  | some v => .error (.invalidJson (v.found.wrongType "a string"))

/-- The message of a whole text, or why there is none. -/
def ofDocument (doc : Json.Document) : Except MalformedCause Message :=
  match doc.value with
  | .error f => .error (.invalidJson (.fault f))
  | .ok (.object members) =>
    match actionOf (.object members) with
    | .error cause => .error cause
    | .ok action =>
      match ofTree action doc.root with
      | .error e => .error (.invalidPayload action e)
      | .ok m => .ok m
  | .ok _ => .error .notAnObject

/-- The message of a line. -/
def decode (line : String) : Except MalformedLine Message :=
  match ofDocument (Json.Document.ofText line.toList) with
  | .ok m => .ok m
  | .error cause => .error ⟨line, cause⟩

end ShardBridge.Message
