/-
  ShardBridge.Checkpoint.RetryPolicy

  How often, and after which pause, a failed checkpoint is tried again.
-/
import ShardBridge.Checkpoint
import ShardBridge.Config

namespace ShardBridge

/-- How a failed checkpoint is tried again. -/
structure RetryPolicy where
  retries : UInt32
  /-- The pause before each further try, in milliseconds. -/
  delay : UInt64
  deriving DecidableEq, Repr

namespace RetryPolicy

def ofConfig (c : Config) : RetryPolicy := ⟨c.retries, c.retryDelay⟩

def handler (p : RetryPolicy) : CheckpointHandler :=
  CheckpointHandler.retrying p.delay.toNat p.retries.toNat

end RetryPolicy

end ShardBridge
