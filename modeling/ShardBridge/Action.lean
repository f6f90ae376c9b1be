/-
  ShardBridge.Action

  The kinds of message, and their names on the wire. A kind is named in three
  ways: by the table of kinds, as a value in JSON, and as the tag of a message
  (see there). Each has a table of its own, and the tables agree.
-/
import ShardBridge.Json.Printer
import ShardBridge.Json.Schema

namespace ShardBridge

/-- The kind of a message. -/
inductive Action where
  /-- The daemon assigned a shard to the processor. -/
  | start
  /-- A batch of records is ready. -/
  | processRecords
  /-- Another worker took the lease of the shard. -/
  | leaseLost
  /-- The shard was read to its end. -/
  | shardEnded
  /-- The daemon is going to stop. -/
  | shutdownRequested
  /-- The one notice of older daemons for the three before. -/
  | shutdown
  /-- A request to record a position, or the answer to it. -/
  | checkpoint
  /-- The word that a message was handled. -/
  | status
  deriving DecidableEq, Repr

namespace Action

/-- The name in the table of kinds. -/
def name : Action → String
  | .start => "initialize"
  | .processRecords => "processRecords"
  | .leaseLost => "leaseLost"
  | .shardEnded => "shardEnded"
  | .shutdownRequested => "shutdownRequested"
  | .shutdown => "shutdown"
  | .checkpoint => "checkpoint"
  | .status => "status"

/-- Every kind, in the order of the wire table. -/
def all : List Action :=
  [.start, .processRecords, .leaseLost, .shardEnded, .shutdownRequested, .shutdown, .checkpoint,
    .status]

def named? (name : String) : Option Action := all.find? fun a => a.name = name

/-- The kind as a value in JSON. -/
def variantName : Action → String
  | .start => "initialize"
  | .processRecords => "processRecords"
  | .leaseLost => "leaseLost"
  | .shardEnded => "shardEnded"
  | .shutdownRequested => "shutdownRequested"
  | .shutdown => "shutdown"
  | .checkpoint => "checkpoint"
  | .status => "status"

def variants : List (String × Action) := all.map fun a => (a.variantName, a)

def ofTree : Json.Tree → Json.Result Action := Json.Tree.asVariant variants

/-! ## Laws -/

theorem mem_all (a : Action) : a ∈ all := by cases a <;> decide

/-- A kind as a value goes by its name in the table. -/
theorem variantName_eq (a : Action) : a.variantName = a.name := by cases a <;> rfl

theorem named?_name (a : Action) : named? a.name = some a := by cases a <;> decide

theorem named?_eq_some_iff {text : String} {a : Action} :
    named? text = some a ↔ a.name = text := by
  constructor
  · intro h
    simpa using List.find?_some h
  · rintro rfl
    exact named?_name a

end Action

end ShardBridge
