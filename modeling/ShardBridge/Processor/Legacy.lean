/-
  ShardBridge.Processor.Legacy

  Processors of the older manner: one callback for every end of a shard, told
  apart by a reason. A notice that the daemon is going to stop does not reach
  them.
-/
import ShardBridge.Processor

namespace ShardBridge

/-- A processor of the older manner, over states of type `σ`. -/
structure LegacyProcessor (σ : Type) where
  /-- A shard was assigned. -/
  start : σ → ShardStart → Activity .withheld σ
  /-- A batch of records is there. -/
  processRecords : σ → Batch → Activity .granted σ
  /-- The shard is over for this processor, which may or may not checkpoint. -/
  shutdown : σ → ShutdownReason → (access : Access) → Activity access σ

def LegacyProcessor.toProcessor {σ : Type} (p : LegacyProcessor σ) : Processor σ where
  start := p.start
  processRecords := p.processRecords
  leaseLost := fun state => p.shutdown state .zombie .withheld
  shardEnded := fun state => p.shutdown state .terminate .granted
  shutdownRequested := Activity.done

end ShardBridge
