/-
  ShardBridge.Processor.Script

  Processors that are given as data: a list of steps for each callback, and
  plans for the failures of checkpoints. A scripted processor keeps a diary of
  what it is called with and of what its steps come to, one JSON object a note,
  and counts its calls.
-/
import ShardBridge.Processor.Legacy
import ShardBridge.Session.ErrorObject

namespace ShardBridge

open Json (Value)

namespace Script

/-! ## The diary -/

/-- A note in the diary. -/
def note (members : List (String × Value)) : Remark := .note (Value.object members).text

/-- Bytes in hexadecimal. -/
def hex (bytes : List UInt8) : String :=
  String.ofList <| bytes.flatMap fun b =>
    [Text.Quoted.hexDigit (b.toNat / 16), Text.Quoted.hexDigit (b.toNat % 16)]

/-! ## Plans for failed checkpoints -/

/-- What to do about a failed checkpoint. -/
inductive Plan where
  | ignore
  | retry (retries delay : Nat)
  /-- Notes the failure. Then, by what is given: lets a failure be that another try would not
      mend; fails; checkpoints at another place; or leaves the failure to a further plan. -/
  | observe (onlyRetryable : Bool) (failure : Option SessionError)
      (fallback : Option CheckpointTarget) (onward : Plan)

def failureNote (target : CheckpointTarget) (error : String) : Remark :=
  note [("handler", .string target.text), ("error", .string error),
    ("kind", .string (CheckpointFailureKind.classify error).name),
    ("retryable", .bool (CheckpointFailureKind.classify error).isRetryable)]

def Plan.handler : Plan → CheckpointHandler
  | .ignore => CheckpointHandler.ignore
  | .retry retries delay => CheckpointHandler.retrying delay retries
  | .observe onlyRetryable failure fallback onward => fun target error =>
    .remark (failureNote target error) <|
      if onlyRetryable && !(CheckpointFailureKind.classify error).isRetryable then .finish (.ok ())
      else
        match failure, fallback with
        | some e, _ => .finish (.error e)
        | none, some place => .checkpoint place onward.handler .finish
        | none, none => onward.handler target error

/-! ## Steps -/

/-- The places of the checkpoints of a step. -/
inductive Places where
  | one (target : CheckpointTarget)
  /-- The last record of the batch, if there is one. -/
  | lastRecord
  /-- Each record of the batch. -/
  | everyRecord

def Places.targets (records : List Record) : Places → List CheckpointTarget
  | .one target => [target]
  | .lastRecord => (records.getLast?.map CheckpointTarget.ofRecord).toList
  | .everyRecord => records.map CheckpointTarget.ofRecord

/-- A step of a callback. -/
inductive Step where
  /-- Notes the payload of every record; if it is strict, it fails at the first that has none. -/
  | payloads (strict : Bool)
  /-- Checkpoints at some places, one after the other up to the first that fails. Unless it is
      lenient, it then fails too. -/
  | checkpoint (places : Places) (plan : Plan) (lenient : Bool)
  | fail (e : ProcessorError)
  /-- Decodes a line as a message. -/
  | decode (line : String)
  /-- Notes whether the callback may checkpoint. -/
  | inspect

/-- What follows a step: more steps, or the failure of the callback. -/
structure Onward (access : Access) (σ : Type) where
  next : Activity access σ
  fail : ProcessorError → Activity access σ

def payloadError (e : Base64.Error) : ProcessorError := .own e.message

/-- Notes the payloads of records. -/
def notePayloads {access : Access} {σ : Type} (strict : Bool) (onward : Onward access σ) :
    List Record → Activity access σ
  | [] => onward.next
  | r :: rest =>
    match r.payload with
    | .ok bytes =>
      .remark (note [("record", .string r.sequenceNumber), ("data", .string (hex bytes))])
        (notePayloads strict onward rest)
    | .error e =>
      if strict then onward.fail (payloadError e)
      else
        .remark (note [("record", .string r.sequenceNumber), ("data", .string e.message)])
          (notePayloads strict onward rest)

/-- Checkpoints at several places, up to the first that fails. -/
def checkpointAll {access : Access} {σ : Type} (allowed : access = .granted)
    (handler : CheckpointHandler) (next : Except SessionError Unit → Activity access σ) :
    List CheckpointTarget → Activity access σ
  | [] => next (.ok ())
  | target :: rest =>
    .checkpoint allowed target handler fun
      | .ok () => checkpointAll allowed handler next rest
      | .error e => next (.error e)

/-- What follows the checkpoints of a step. -/
def afterCheckpoints {access : Access} {σ : Type} (lenient : Bool) (onward : Onward access σ) :
    Except SessionError Unit → Activity access σ
  | .ok () => .remark (note [("checkpoint", .string "returned")]) onward.next
  | .error e =>
    .remark (note [("checkpoint", e.toJson .silent)])
      (if lenient then onward.next else onward.fail (.session e))

def accessText : Access → String
  | .withheld => "None"
  | .granted => "Some(Checkpointer \x7b .. \x7d)"

/-- What a step does. -/
def Step.activity {σ : Type} (records : List Record) :
    (access : Access) → Onward access σ → Step → Activity access σ
  | _, onward, .payloads strict => notePayloads strict onward records
  | .withheld, onward, .checkpoint _ _ _ =>
    .remark (note [("checkpoint", .string "unavailable")]) onward.next
  | .granted, onward, .checkpoint places plan lenient =>
    checkpointAll rfl plan.handler (afterCheckpoints lenient onward) (places.targets records)
  | _, onward, .fail e => onward.fail e
  | _, onward, .decode line =>
    match Message.decode line with
    | .ok m => .remark (note [("decoded", .string m.action.name)]) onward.next
    | .error m => onward.fail (.malformed m)
  | access, onward, .inspect =>
    .remark (note [("debug", .string (accessText access))]) onward.next

/-- What several steps do, one after the other. -/
def activity {σ : Type} (records : List Record) (access : Access) (state : σ) :
    List Step → Activity access σ
  | [] => .done state
  | step :: rest =>
    step.activity records access
      ⟨activity records access state rest, fun e => .finish state (.error e)⟩

/-! ## Callbacks -/

/-- The callbacks of processors of both manners. -/
inductive Callback where
  | start
  | processRecords
  | leaseLost
  | shardEnded
  | shutdownRequested
  | shutdown
  deriving DecidableEq, Repr

def Callback.name : Callback → String
  | .start => "initialize"
  | .processRecords => "process_records"
  | .leaseLost => "lease_lost"
  | .shardEnded => "shard_ended"
  | .shutdownRequested => "shutdown_requested"
  | .shutdown => "shutdown"

def Callback.all : List Callback :=
  [.start, .processRecords, .leaseLost, .shardEnded, .shutdownRequested, .shutdown]

/-- How often each callback was called. -/
structure Calls where
  start : Nat := 0
  processRecords : Nat := 0
  leaseLost : Nat := 0
  shardEnded : Nat := 0
  shutdownRequested : Nat := 0
  shutdown : Nat := 0
  deriving DecidableEq, Repr

def Calls.of (calls : Calls) : Callback → Nat
  | .start => calls.start
  | .processRecords => calls.processRecords
  | .leaseLost => calls.leaseLost
  | .shardEnded => calls.shardEnded
  | .shutdownRequested => calls.shutdownRequested
  | .shutdown => calls.shutdown

def Calls.count (calls : Calls) : Callback → Calls
  | .start => { calls with start := calls.start + 1 }
  | .processRecords => { calls with processRecords := calls.processRecords + 1 }
  | .leaseLost => { calls with leaseLost := calls.leaseLost + 1 }
  | .shardEnded => { calls with shardEnded := calls.shardEnded + 1 }
  | .shutdownRequested => { calls with shutdownRequested := calls.shutdownRequested + 1 }
  | .shutdown => { calls with shutdown := calls.shutdown + 1 }

@[simp] theorem Calls.of_count (calls : Calls) (c d : Callback) :
    (calls.count c).of d = calls.of d + if d = c then 1 else 0 := by
  cases c <;> cases d <;> rfl

/-- A step in a script, for every call or for the call with a number, counted from one. -/
structure Line where
  step : Step
  onCall : Option Nat := none

end Script

/-- The steps of each callback. -/
abbrev Script := Script.Callback → List Script.Line

namespace Script

def stepsAt (s : Script) (c : Callback) (call : Nat) : List Step :=
  ((s c).filter fun l => l.onCall.all (· = call)).map Line.step

/-- Runs a callback: notes what it is called with, and takes its steps. -/
def callback (s : Script) (c : Callback) (input : Value) (records : List Record)
    (access : Access) (calls : Calls) : Activity access Calls :=
  .remark
    (note [("call", .string c.name), ("input", input), ("checkpointer", .bool (access = .granted))])
    (activity records access (calls.count c) (s.stepsAt c ((calls.count c).of c)))

def startInput (c : ShardStart) : Value :=
  .array [.string c.shardId, nullable .string c.sequenceNumber,
    nullable Record.int64Value c.subSequenceNumber]

def batchInput (c : Batch) : Value :=
  .array [.nat c.records.length, nullable Record.int64Value c.millisBehindLatest,
    nullable (fun r => .string (CheckpointTarget.ofRecord r).text) c.last?]

/-- The processor with a callback for everything. -/
def full (s : Script) : Processor Calls where
  start := fun calls c => s.callback .start (startInput c) [] .withheld calls
  processRecords := fun calls c =>
    s.callback .processRecords (batchInput c) c.records .granted calls
  leaseLost := fun calls => s.callback .leaseLost .null [] .withheld calls
  shardEnded := fun calls => s.callback .shardEnded .null [] .granted calls
  shutdownRequested := fun calls => s.callback .shutdownRequested .null [] .granted calls

/-- The processor that has nothing to say when the daemon is going to stop. -/
def minimal (s : Script) : Processor Calls :=
  { s.full with shutdownRequested := Activity.done }

/-- The processor of the older manner. -/
def legacy (s : Script) : LegacyProcessor Calls where
  start := s.full.start
  processRecords := s.full.processRecords
  shutdown := fun calls reason access =>
    s.callback .shutdown (.string reason.name) [] access calls

end Script

end ShardBridge
