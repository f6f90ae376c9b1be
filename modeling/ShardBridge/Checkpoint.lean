/-
  ShardBridge.Checkpoint

  The exchange by which a processor records its position: a request, and the
  next line as the answer. When the daemon answers with a failure, or with
  another message, a handler decides what to do, and it may itself checkpoint.
  What a handler does is a program: steps that touch the transport only by
  further checkpoints, each step going on by how the checkpoint before it came
  out.

  A handler keeps nothing from one failure to the next, and tells the program
  that checkpoints no more than how the checkpoint came out. For a handler that
  does keep or tell more, see the remark on runs in `Processor`.
-/
import ShardBridge.Checkpoint.FailureKind
import ShardBridge.Checkpoint.Target
import ShardBridge.Message.Decode
import ShardBridge.Transport

namespace ShardBridge

/-! ## One exchange -/

/-- The answer to a request. -/
inductive CheckpointAnswer where
  /-- The position is recorded. -/
  | recorded
  /-- It is not, in these words. -/
  | failed (error : String)
  deriving DecidableEq, Repr

namespace CheckpointAnswer

def ofMessage : Message → CheckpointAnswer
  | .checkpoint c =>
    match c.effectiveError with
    | none => .recorded
    | some error => .failed error
  | m => .failed (CheckpointFailureKind.unexpectedResponseText m.action)

end CheckpointAnswer

namespace Transport

def positionField (target : CheckpointTarget) : String × LogValue :=
  ("position", .shown target.text)

def readAnswer (t : Transport) : Except SessionError CheckpointAnswer × Transport :=
  match t.readLine with
  | (.error e, t') => (.error e, t')
  | (.ok none, t') => (.error .closedDuringCheckpoint, t')
  | (.ok (some line), t') =>
    match Message.decode line with
    | .error m => (.error (.malformed m), t')
    | .ok m => (.ok (.ofMessage m), t')

def logAnswer (target : CheckpointTarget) : CheckpointAnswer → Transport → Transport
  | .recorded, t => t.log .debug .checkpoint "checkpoint recorded" [positionField target]
  | .failed error, t =>
    t.log .warn .checkpoint "checkpoint failed"
      [positionField target, ("error", .shown error),
        ("kind", .shown (CheckpointFailureKind.classify error).name)]

/-- Asks the daemon to record a position, and waits for its answer. -/
def exchange (target : CheckpointTarget) (t : Transport) :
    Except SessionError CheckpointAnswer × Transport :=
  match (t.log .debug .checkpoint "requesting checkpoint" [positionField target]).writeMessage
      target.request with
  | (.error e, t') => (.error e, t')
  | (.ok (), t') =>
    match t'.readAnswer with
    | (.error e, t'') => (.error e, t'')
    | (.ok answer, t'') => (.ok answer, t''.logAnswer target answer)

end Transport

/-! ## Programs -/

/-- A step that does not touch the transport. -/
inductive Remark where
  /-- Says something of the processor's own. -/
  | note (text : String)
  /-- Lets time pass, in milliseconds. -/
  | pause (millis : Nat)
  | log (entry : LogEntry)

def Remark.event : Remark → Event
  | .note text => .noted text
  | .pause millis => .paused millis
  | .log entry => .logged entry

/-- What a handler does about a failed checkpoint. -/
inductive Recovery where
  /-- It is done, and the checkpoint comes out so. -/
  | finish (result : Except SessionError Unit)
  | remark (r : Remark) (next : Recovery)
  /-- It checkpoints, with a handler for the failure of that, and goes on by how it came out. -/
  | checkpoint (target : CheckpointTarget) (handler : CheckpointTarget → String → Recovery)
      (next : Except SessionError Unit → Recovery)

/-- What to do about a failed checkpoint, by its target and the words of the failure. -/
abbrev CheckpointHandler := CheckpointTarget → String → Recovery

namespace CheckpointHandler

/-- Lets every failure be. A checkpoint without a handler comes out so. -/
def ignore : CheckpointHandler := fun _ _ => .finish (.ok ())

def exhaustedEntry (target : CheckpointTarget) (error : String) : LogEntry :=
  ⟨.warn, .checkpoint, "checkpoint retries exhausted",
    [Transport.positionField target, ("error", .shown error)]⟩

def retryEntry (target : CheckpointTarget) (remaining delay : Nat) : LogEntry :=
  ⟨.debug, .checkpoint, "retrying checkpoint",
    [Transport.positionField target, ("remaining", .number remaining),
      ("delay_ms", .number delay)]⟩

/-- Tries again up to so many times, after a pause of so many milliseconds each time, and then lets
    the failure be. -/
def retrying (delay : Nat) : Nat → CheckpointHandler
  | 0, target, error => .remark (.log (exhaustedEntry target error)) (.finish (.ok ()))
  | retries + 1, target, _ =>
    .remark (.log (retryEntry target retries delay))
      (.remark (.pause delay) (.checkpoint target (retrying delay retries) .finish))

end CheckpointHandler

namespace Recovery

/-- Runs what a handler does. -/
def run : Recovery → Transport → Except SessionError Unit × Transport
  | .finish result, t => (result, t)
  | .remark r next, t => next.run (t.record r.event)
  | .checkpoint target handler next, t =>
    match t.exchange target with
    | (.error e, t') => (next (.error e)).run t'
    | (.ok .recorded, t') => (next (.ok ())).run t'
    | (.ok (.failed error), t') =>
      let (result, t'') := (handler target error).run t'
      (next result).run t''

end Recovery

/-- Records a position: asks the daemon, and leaves a failure to the handler. It comes out well
    unless the transport failed, or the handler says so. -/
def Transport.checkpoint (target : CheckpointTarget) (handler : CheckpointHandler)
    (t : Transport) : Except SessionError Unit × Transport :=
  (Recovery.checkpoint target handler .finish).run t

/-! ## What an exchange leaves of the input -/

namespace Transport

theorem length_pending_readAnswer_le (t : Transport) :
    t.readAnswer.2.input.pending.length ≤ t.input.pending.length := by
  have h := t.length_pending_readLine_le
  rw [readAnswer]
  split
  · next heq => rw [heq] at h; exact h
  · next heq => rw [heq] at h; exact h
  · next heq => rw [heq] at h; split <;> exact h

@[simp] theorem input_logAnswer (target : CheckpointTarget) (a : CheckpointAnswer)
    (t : Transport) : (t.logAnswer target a).input = t.input := by
  cases a <;> exact input_log ..

theorem length_pending_exchange_le (target : CheckpointTarget) (t : Transport) :
    (t.exchange target).2.input.pending.length ≤ t.input.pending.length := by
  have hw := input_writeMessage target.request
    (t.log .debug .checkpoint "requesting checkpoint" [positionField target])
  rw [exchange]
  split
  · next heq => rw [heq] at hw; exact Nat.le_of_eq (by rw [hw, input_log])
  · next t' heq =>
    rw [heq] at hw
    have hr := t'.length_pending_readAnswer_le
    rw [hw, input_log] at hr
    split
    · next heq' => rw [heq'] at hr; exact hr
    · next heq' => rw [heq'] at hr; rw [input_logAnswer]; exact hr

end Transport

theorem Recovery.length_pending_run_le (r : Recovery) (t : Transport) :
    (r.run t).2.input.pending.length ≤ t.input.pending.length := by
  induction r generalizing t with
  | finish result => exact Nat.le_refl _
  | remark r next ih => rw [run]; exact ih _
  | checkpoint target handler next ihh ihn =>
    have he := t.length_pending_exchange_le target
    rw [run]
    split
    · next heq => rw [heq] at he; exact Nat.le_trans (ihn _ _) he
    · next heq => rw [heq] at he; exact Nat.le_trans (ihn _ _) he
    · next error t' heq =>
      rw [heq] at he
      exact Nat.le_trans (ihn _ _) (Nat.le_trans (ihh target error t') he)

theorem Transport.length_pending_checkpoint_le (target : CheckpointTarget)
    (handler : CheckpointHandler) (t : Transport) :
    (t.checkpoint target handler).2.input.pending.length ≤ t.input.pending.length := by
  rw [Transport.checkpoint]
  exact Recovery.length_pending_run_le _ t

end ShardBridge
