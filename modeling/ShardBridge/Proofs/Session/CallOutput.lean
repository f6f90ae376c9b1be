/-
  ShardBridge.Proofs.Session.CallOutput

  What a session puts out, call by call.  On a stream that takes everything, a
  call puts out the lines of its requests and then, unless its callback failed,
  its status line (`Call.output`); nothing else goes to the daemon, so the
  output of a session is that of its calls (`Session.outputOf_run`).
-/
import ShardBridge.Proofs.Session.LeaseLoss

namespace ShardBridge

open Session (outputOf outputOf_silent outputOf_took)
open Transport (Silent Took messageBytes)

/-! ## Programs -/

/-- The line of a request. -/
def Request.line (q : Request) : List UInt8 := messageBytes q.target.request

variable {t : Transport}

/-- A message that goes out is a line of the output. -/
theorem outputOf_writeMessage {m : Message} (h : (t.writeMessage m).1 = .ok ()) :
    outputOf (t.writeMessage m).2 = outputOf t ++ messageBytes m := by
  obtain ⟨done, hdone, -, hall⟩ := Transport.writeMessage_bytes m t
  rw [outputOf, outputOf, hdone, hall h]

/-- An exchange puts out its request. -/
theorem outputOf_exchange (target : CheckpointTarget) (h : t.output.policy.Healthy) :
    outputOf (t.exchange target).2 = outputOf t ++ messageBytes target.request := by
  have hsent : (t.send target).1 = .ok () := Transport.send_ok target h
  have htook : Took (t.send target).2 (t.exchange target).2 :=
    (Transport.exchange_of_sent hsent).2
  have hlog : Silent t (t.log .debug .checkpoint "requesting checkpoint"
      [Transport.positionField target]) := Transport.silent_log _ _ _ _
  rw [Transport.send] at hsent htook
  rw [outputOf_took htook, outputOf_writeMessage hsent, outputOf_silent hlog]

/-- A handler puts out its requests. -/
theorem Recovery.outputOf_run (r : Recovery) (h : t.output.policy.Healthy) :
    outputOf (r.run t).2 = outputOf t ++ (r.requests t).flatMap Request.line := by
  induction r generalizing t with
  | finish result => exact (List.append_nil _).symm
  | remark r next ih =>
    have hr : Silent t (t.record r.event) := Transport.silent_record r.isAside
    rw [run, requests, ih (hr.output ▸ h), outputOf_silent hr]
  | checkpoint target handler next ihh ihn =>
    have hexchange := outputOf_exchange target h
    have hhealthy := Transport.frame_healthy.exchange target t h
    rw [run, requests]
    generalize t.exchange target = x at hexchange hhealthy ⊢
    obtain ⟨result, t₁⟩ := x
    -- By the answer: only a refusal calls the handler.
    rcases result with e | _ | error <;> dsimp only at hexchange hhealthy ⊢
    · rw [ihn _ hhealthy, hexchange, List.flatMap_cons, ← List.append_assoc]
      rfl
    · rw [ihn _ hhealthy, hexchange, List.flatMap_cons, ← List.append_assoc]
      rfl
    · have hhealthy' := Transport.frame_healthy.recovery (handler target error) t₁ hhealthy
      rw [ihn _ hhealthy', ihh target error hhealthy, hexchange, List.flatMap_cons,
        List.flatMap_append]
      simp only [List.append_assoc]
      rfl

/-- A callback puts out its requests. -/
theorem Activity.outputOf_run {access : Access} {σ : Type} (a : Activity access σ)
    (h : t.output.policy.Healthy) :
    outputOf (a.run t).transport = outputOf t ++ (a.requests t).flatMap Request.line := by
  induction a generalizing t with
  | finish state outcome => exact (List.append_nil _).symm
  | remark r next ih =>
    have hr : Silent t (t.record r.event) := Transport.silent_record r.isAside
    rw [run, requests, ih (hr.output ▸ h), outputOf_silent hr]
  | checkpoint allowed target handler next ih =>
    have hcheckpoint : outputOf (t.checkpoint target handler).2 = _ :=
      (Recovery.checkpoint target handler .finish).outputOf_run h
    have hhealthy := Transport.frame_healthy.checkpoint target handler t h
    rw [run, requests, ih _ hhealthy, hcheckpoint, List.flatMap_append, List.append_assoc]

/-! ## Sessions -/

namespace Session

variable {σ : Type}

/-- The lines of the requests of a call. -/
def Call.asked (c : Call σ) : List UInt8 := c.requests.flatMap Request.line

/-- The status line of a call, if its callback did not fail. -/
def Call.acknowledged (c : Call σ) : List UInt8 :=
  match c.ending.outcome with
  | .ok () => c.status
  | .error _ => []

/-- What a call puts out. -/
def Call.output (c : Call σ) : List UInt8 := c.asked ++ c.acknowledged

variable {p : Processor σ} {state : σ} {c : Call σ}

/-- A session is over after a call whose callback fails. -/
theorem round_of_failed {source : ProcessorError} (hcalled : called? p state t = some c)
    (hfailed : c.ending.outcome = .error source) :
    round p state t = .over ⟨c.ending.state, .error (.ofProcessor c.message.action source),
      c.ending.transport⟩ := by
  rw [round_of_called hcalled]
  exact Round.ofCallback_eq_over hfailed

/-- The error of a callback ends the session at its call: no further one is made, and nothing passes
    any more. -/
theorem run_of_failed {source : ProcessorError} (hc : c ∈ calls p state t)
    (hfailed : c.ending.outcome = .error source) :
    (run p state t).outcome = .error (.ofProcessor c.message.action source) ∧
      (run p state t).state = c.ending.state ∧
      Silent c.ending.transport (run p state t).transport ∧
      ∃ before, calls p state t = before ++ [c] := by
  obtain ⟨before, state₁, t₁, hcomes, hcalled⟩ := exists_called hc
  have hround := round_of_failed hcalled hfailed
  have hloop := hcomes.loop.trans (loop_of_over hround)
  have hsilent := silent_run p state t
  rw [hloop] at hsilent
  refine ⟨?_, ?_, hsilent, before, ?_⟩
  · rw [outcome_run, hloop]
  · rw [state_run, hloop]
  · rw [hcomes.calls, calls_of_over hround, hcalled]
    rfl

/-- A callback that does not fail is acknowledged: right after it, its status line goes out, unless
    the stream fails, and then the session ends with that failure. -/
theorem acknowledged_of_ok (hc : c ∈ calls p state t) (hok : c.ending.outcome = .ok ()) :
    outputOf c.ending.transport ++ c.status <+: outputOf (run p state t).transport ∨
      ∃ failure, (c.ending.transport.writeMessage (.status c.message.action)).1 = .error failure ∧
        (run p state t).outcome = .error failure := by
  obtain ⟨before, state₁, t₁, hcomes, hcalled⟩ := exists_called hc
  have hround := round_of_called hcalled
  cases hwrite : (c.ending.transport.writeMessage (.status c.message.action)).1 with
  | error failure =>
    rw [Round.ofCallback_of_unwritten hok hwrite] at hround
    refine .inr ⟨failure, rfl, ?_⟩
    rw [outcome_run, hcomes.loop, loop_of_over hround]
  | ok _ =>
    rw [Round.ofCallback_eq_goOn hok hwrite] at hround
    refine .inl ?_
    -- What is out once the session goes on is not taken back.
    have hlater := outputOf_later (keeps_loop Transport.frame_later p c.ending.state
      (c.ending.transport.writeMessage (.status c.message.action)).2)
    rw [outputOf_writeMessage hwrite] at hlater
    rw [outputOf_silent (silent_run p state t), hcomes.loop, loop_of_goOn hround]
    exact hlater

theorem Call.healthy (h : t.output.policy.Healthy) (hcalled : called? p state t = some c) :
    c.ending.transport.output.policy.Healthy :=
  Transport.frame_healthy.activity c.callback.activity c.handle
    (keeps_called Transport.frame_healthy hcalled h)

/-- On a healthy output, a session goes on after every call whose callback does not fail. -/
theorem round_of_healthy (h : t.output.policy.Healthy) (hcalled : called? p state t = some c)
    (hok : c.ending.outcome = .ok ()) :
    round p state t = .goOn c.ending.state
      (c.ending.transport.writeMessage (.status c.message.action)).2 := by
  rw [round_of_called hcalled]
  exact Round.ofCallback_eq_goOn hok (Transport.writeMessage_ok _ (Call.healthy h hcalled))

/-- What a session has put out after a call. -/
theorem outputOf_round (h : t.output.policy.Healthy) (hcalled : called? p state t = some c) :
    outputOf (round p state t).transport = outputOf t ++ c.output := by
  obtain ⟨-, -, -, htook⟩ := of_called hcalled
  have hending : outputOf c.ending.transport = outputOf t ++ c.asked := by
    rw [← outputOf_took htook]
    exact c.callback.activity.outputOf_run (keeps_called Transport.frame_healthy hcalled h)
  rw [Call.output, Call.acknowledged]
  cases houtcome : c.ending.outcome with
  | error source =>
    rw [round_of_failed hcalled houtcome, List.append_nil]
    exact hending
  | ok _ =>
    have hwrite := Transport.writeMessage_ok (.status c.message.action) (Call.healthy h hcalled)
    rw [round_of_healthy h hcalled houtcome, ← List.append_assoc, ← hending]
    exact outputOf_writeMessage hwrite

theorem outputOf_loop (p : Processor σ) (state : σ) (h : t.output.policy.Healthy) :
    outputOf (loop p state t).transport = outputOf t ++ (calls p state t).flatMap Call.output := by
  fun_induction loop p state t with
  | case1 state t e hround =>
    rw [calls_of_over hround]
    cases hcalled : called? p state t with
    | none =>
      obtain ⟨e', hround', htook⟩ := round_of_not_called hcalled
      obtain rfl := Round.over.inj (hround.symm.trans hround')
      rw [outputOf_took htook]
      exact (List.append_nil _).symm
    | some c =>
      have houtput := outputOf_round h hcalled
      rw [hround] at houtput
      rw [Option.toList_some, List.flatMap_singleton]
      exact houtput
  | case2 state t state' t' hround _ ih =>
    obtain ⟨c, hcalled⟩ := called_of_goOn hround
    have houtput := outputOf_round h hcalled
    have hkeeps := keeps_round Transport.frame_healthy p state t
    rw [hround] at houtput hkeeps
    have hrest := ih (hkeeps h)
    rw [hrest, calls_of_goOn hcalled hround, List.flatMap_cons, ← List.append_assoc, ← houtput]
    rfl

/-- A session puts out what its calls put out. -/
theorem outputOf_run (p : Processor σ) (state : σ) (h : t.output.policy.Healthy) :
    outputOf (run p state t).transport = outputOf t ++ (calls p state t).flatMap Call.output := by
  rw [outputOf_silent (silent_run p state t)]
  exact outputOf_loop p state h

end Session

end ShardBridge
