/-
  ShardBridge.Processor

  What a program for one shard has to say to each message. A callback is a
  tree of steps, as a handler's recovery is; it is done with a new state and an
  outcome. Only some callbacks may checkpoint, and the type of a callback tells
  which.

  Callbacks and handlers share no state while a callback runs. This leaves out
  no run that comes to its end. Between callbacks, all that a program remembers
  is in its state. Within a callback, each of its steps in one run follows from
  the steps before it, so there is a finite tree that takes the same steps in
  this run: after every checkpoint it goes on as the program did, and it is done
  with the state that the program came to. What holds for all trees therefore
  holds for every run of every program; where two runs are compared, it holds
  for the programs that are the same trees in both.
-/
import ShardBridge.Checkpoint

namespace ShardBridge

/-! ## Callbacks -/

/-- Whether a callback may checkpoint. -/
inductive Access where
  | withheld
  | granted
  deriving DecidableEq, Repr

/-- What a callback does. -/
inductive Activity (access : Access) (σ : Type) where
  /-- It is done, with a new state and an outcome. -/
  | finish (state : σ) (outcome : Except ProcessorError Unit)
  | remark (r : Remark) (next : Activity access σ)
  /-- It checkpoints, with a handler for the failure of that, and goes on by how it came out. -/
  | checkpoint (allowed : access = .granted) (target : CheckpointTarget)
      (handler : CheckpointHandler) (next : Except SessionError Unit → Activity access σ)

namespace Activity

def done {access : Access} {σ : Type} (state : σ) : Activity access σ := .finish state (.ok ())

/-- What a callback leaves behind. -/
structure Ending (σ : Type) where
  state : σ
  outcome : Except ProcessorError Unit
  transport : Transport

def run {access : Access} {σ : Type} : Activity access σ → Transport → Ending σ
  | .finish state outcome, t => ⟨state, outcome, t⟩
  | .remark r next, t => next.run (t.record r.event)
  | .checkpoint _ target handler next, t =>
    (next (t.checkpoint target handler).1).run (t.checkpoint target handler).2

theorem length_pending_run_le {access : Access} {σ : Type} (a : Activity access σ)
    (t : Transport) : (a.run t).transport.input.pending.length ≤ t.input.pending.length := by
  induction a generalizing t with
  | finish state outcome => exact Nat.le_refl _
  | remark r next ih => rw [run]; exact ih _
  | checkpoint allowed target handler next ih =>
    rw [run]
    exact Nat.le_trans (ih _ _) (t.length_pending_checkpoint_le target handler)

end Activity

/-! ## Processors -/

/-- A callback for each message of a session, over states of type `σ`. -/
structure Processor (σ : Type) where
  /-- A shard was assigned. -/
  start : σ → ShardStart → Activity .withheld σ
  /-- A batch of records is there. -/
  processRecords : σ → Batch → Activity .granted σ
  /-- The lease went to another worker; there is nothing left to checkpoint. -/
  leaseLost : σ → Activity .withheld σ
  /-- The shard is at its end; a checkpoint is due. -/
  shardEnded : σ → Activity .granted σ
  /-- The daemon is going to stop. -/
  shutdownRequested : σ → Activity .granted σ := Activity.done

namespace Processor

/-- The callback for the one notice of older daemons, by its reason. -/
def legacyShutdown {σ : Type} (p : Processor σ) (state : σ) (reason : ShutdownReason)
    (t : Transport) : Activity.Ending σ :=
  let t := t.log .debug .bridge "legacy shutdown" [("reason", .shown reason.name)]
  match reason with
  | .terminate => (p.shardEnded state).run t
  | .zombie => (p.leaseLost state).run t
  | .requested => (p.shutdownRequested state).run t

/-- The callback for a message, as what it does to a transport; none for a message that has no
    place outside a checkpoint. -/
def callback? {σ : Type} (p : Processor σ) (state : σ) :
    Message → Option (Transport → Activity.Ending σ)
  | .start assignment => some (p.start state assignment).run
  | .processRecords batch => some (p.processRecords state batch).run
  | .leaseLost => some (p.leaseLost state).run
  | .shardEnded => some (p.shardEnded state).run
  | .shutdownRequested => some (p.shutdownRequested state).run
  | .shutdown reason => some (p.legacyShutdown state reason)
  | .checkpoint _ => none
  | .status _ => none

theorem length_pending_callback_le {σ : Type} {p : Processor σ} {state : σ} {m : Message}
    {run : Transport → Activity.Ending σ} (h : p.callback? state m = some run) (t : Transport) :
    (run t).transport.input.pending.length ≤ t.input.pending.length := by
  cases m with
  | shutdown reason =>
    simp only [callback?, Option.some.injEq] at h
    subst h
    cases reason <;> exact Activity.length_pending_run_le _ _
  | checkpoint c => simp [callback?] at h
  | status a => simp [callback?] at h
  | _ =>
    simp only [callback?, Option.some.injEq] at h
    subst h
    exact Activity.length_pending_run_le _ _

end Processor

end ShardBridge
