/-
  ShardBridge.Proofs.Session.Calls

  The callbacks of a session, whatever the streams do.  A call is a callback
  with the state and the message it is called with, and the handle on which it
  starts; the requests that are made in it can be read off it.  Each round of
  the loop makes at most one call (`called?`), and a round without a call is
  the last one.
-/
import ShardBridge.Proofs.Session.Ending
import ShardBridge.Proofs.Session.Request

namespace ShardBridge

open Transport (Frame Silent Took textOf)

/-! ## Callbacks as programs -/

/-- A callback, whatever it may do. -/
structure Callback (σ : Type) where
  access : Access
  activity : Activity access σ

namespace Callback

variable {σ : Type}

def run (a : Callback σ) (t : Transport) : Activity.Ending σ := a.activity.run t

def requests (a : Callback σ) (t : Transport) : List Request := a.activity.requests t

end Callback

/-- The handle on which the callback for a message starts: the one notice of older daemons is
    logged before it. -/
def Message.announce : Message → Transport → Transport
  | .shutdown reason, t => t.log .debug .bridge "legacy shutdown" [("reason", .shown reason.name)]
  | _, t => t

theorem Message.silent_announce (m : Message) (t : Transport) : Silent t (m.announce t) := by
  cases m with
  | shutdown reason => exact Transport.silent_log _ _ _ _
  | _ => exact .refl t

namespace Processor

variable {σ : Type}

/-- The callback for a message; none for a message that has no place outside a checkpoint. -/
def callbackFor? (p : Processor σ) (state : σ) : Message → Option (Callback σ)
  | .start assignment => some ⟨_, p.start state assignment⟩
  | .processRecords batch => some ⟨_, p.processRecords state batch⟩
  | .leaseLost => some ⟨_, p.leaseLost state⟩
  | .shardEnded => some ⟨_, p.shardEnded state⟩
  | .shutdownRequested => some ⟨_, p.shutdownRequested state⟩
  | .shutdown .terminate => some ⟨_, p.shardEnded state⟩
  | .shutdown .zombie => some ⟨_, p.leaseLost state⟩
  | .shutdown .requested => some ⟨_, p.shutdownRequested state⟩
  | .checkpoint _ => none
  | .status _ => none

theorem callback_eq (p : Processor σ) (state : σ) (m : Message) :
    p.callback? state m = (p.callbackFor? state m).map fun a t => a.run (m.announce t) := by
  cases m with
  | shutdown reason => cases reason <;> rfl
  | _ => rfl

end Processor

namespace Session

variable {σ : Type}

/-! ## Turns

What the session does next, by the feed that is left. -/

/-- How a session ends that finds no line any more. -/
def closing? : Option StreamFailure → Except SessionError Unit
  | none => .ok ()
  | some e => if e.kind.isClosing then .ok () else .error (.read e)

variable {t t' : Transport} {line : Line} {rest : List Line} {m : Message}

theorem nextTurn_of_no_line (h : t.input.feed.lines = []) :
    ∃ t', nextTurn t = .stop (closing? t.input.feed.failure) t' ∧ Took t t' := by
  obtain ⟨hread, htook⟩ := t.readLine_took
  rcases hfeed : t.input.feed with ⟨lines, _ | e⟩ <;> rw [hfeed] at hread h <;> subst h
  · have hline : t.readLine = (.ok none, t.readLine.2) := Prod.ext hread rfl
    refine ⟨_, ?_, htook.silent (Transport.silent_log .info .bridge "input closed, stopping" [])⟩
    rw [nextTurn, hline]
    rfl
  · have hline : t.readLine = (.error (.read e), t.readLine.2) := Prod.ext hread rfl
    -- A failure that closes the stream is logged.
    by_cases hclosing : e.kind.isClosing
    · refine ⟨_, ?_, htook.silent (Transport.silent_log .warn .bridge
        "input closed abruptly, stopping" [("error", .shown e.text)])⟩
      rw [nextTurn, hline, closing?, if_pos hclosing]
      exact if_pos hclosing
    · refine ⟨_, ?_, htook⟩
      rw [nextTurn, hline, closing?, if_neg hclosing]
      exact if_neg hclosing

theorem readLine_of_line (h : t.input.feed.lines = line :: rest) :
    t.readLine.1 = Transport.readOf [line] := by
  rw [t.readLine_took.1, Feed.read_of_line h]

theorem nextTurn_of_bad_line {m : MalformedLine} (h : t.input.feed.lines = line :: rest)
    (hm : Message.ofLine line = .error m) :
    ∃ t', nextTurn t = .stop (.error (.malformed m)) t' ∧ Took t t' := by
  have hread := readLine_of_line h
  refine ⟨t.readLine.2, ?_, t.readLine_took.2⟩
  rw [Transport.readOf] at hread
  -- Either the bytes are no text, or the text is no message.
  cases htext : textOf line with
  | error m' =>
    rw [htext] at hread
    rw [Message.ofLine_of_error htext] at hm
    obtain rfl := Except.error.inj hm
    have hline : t.readLine = (.error (.malformed m'), t.readLine.2) := Prod.ext hread rfl
    rw [nextTurn, hline]
  | ok text =>
    rw [htext] at hread
    rw [Message.ofLine_of_text htext] at hm
    have hline : t.readLine = (.ok (some text), t.readLine.2) := Prod.ext hread rfl
    rw [nextTurn_of_line hline, Turn.ofLine, hm]

theorem nextTurn_of_good_line (h : t.input.feed.lines = line :: rest)
    (hm : Message.ofLine line = .ok m) :
    ∃ text t', textOf line = .ok text ∧ nextTurn t = .handle text m t' ∧ Took t t' := by
  have hread := readLine_of_line h
  rw [Transport.readOf] at hread
  cases htext : textOf line with
  | error m' =>
    rw [Message.ofLine_of_error htext] at hm
    cases hm
  | ok text =>
    rw [htext] at hread
    rw [Message.ofLine_of_text htext] at hm
    have hline : t.readLine = (.ok (some text), t.readLine.2) := Prod.ext hread rfl
    refine ⟨text, _, rfl, ?_, t.readLine_took.2.silent (Transport.silent_log .debug .bridge
      "dispatching" [("action", .shown m.action.name)])⟩
    rw [nextTurn_of_line hline, Turn.ofLine, hm]

/-! ## Calls -/

/-- A call of a callback. -/
structure Call (σ : Type) where
  state : σ
  message : Message
  callback : Callback σ
  /-- The handle on which the callback starts. -/
  handle : Transport

namespace Call

/-- What the callback is called with. -/
def view (c : Call σ) : σ × Message := (c.state, c.message)

/-- What the callback leaves behind. -/
def ending (c : Call σ) : Activity.Ending σ := c.callback.run c.handle

/-- The requests that are made while the callback runs. -/
def requests (c : Call σ) : List Request := c.callback.requests c.handle

end Call

/-- The call that a session makes next; none when it makes no further one. -/
def called? (p : Processor σ) (state : σ) (t : Transport) : Option (Call σ) :=
  match nextTurn t with
  | .stop _ _ => none
  | .handle _ m t' => (p.callbackFor? state m).map fun a => ⟨state, m, a, m.announce t'⟩

/-- The calls of a session. -/
def calls (p : Processor σ) (state : σ) (t : Transport) : List (Call σ) :=
  match h : round p state t with
  | .over _ => (called? p state t).toList
  | .goOn state' t' =>
    have := length_pending_of_round h
    (called? p state t).toList ++ calls p state' t'
  termination_by t.input.pending.length

/-- The requests of a session. -/
def requests (p : Processor σ) (state : σ) (t : Transport) : List Request :=
  (calls p state t).flatMap Call.requests

variable {p : Processor σ} {state state' : σ} {c : Call σ}

/-! ### Single rounds -/

theorem round_of_called (h : called? p state t = some c) :
    round p state t = .ofCallback c.message.action c.ending := by
  rw [called?] at h
  split at h
  · cases h
  · next line m t₁ hturn =>
    obtain ⟨a, ha, rfl⟩ := Option.map_eq_some_iff.1 h
    rw [round, hturn]
    dsimp only
    rw [p.callback_eq, ha]
    rfl

theorem called_of_stop {outcome : Except SessionError Unit} (h : nextTurn t = .stop outcome t') :
    called? p state t = none ∧ round p state t = .over ⟨state, outcome, t'⟩ := by
  rw [called?, round, h]
  exact ⟨rfl, rfl⟩

/-- A message that has no place outside a checkpoint ends the session. -/
theorem called_of_misplaced {text : String} (h : nextTurn t = .handle text m t')
    (ha : p.callbackFor? state m = none) :
    called? p state t = none ∧ round p state t =
      .over ⟨state, .error (.malformed ⟨text, .unexpectedAction m.action⟩), t'⟩ := by
  have hnone : p.callback? state m = none := by
    rw [p.callback_eq, ha]
    rfl
  rw [called?, round, h]
  dsimp only
  rw [ha, hnone]
  exact ⟨rfl, rfl⟩

/-- A round without a call only reads, and is the last one. -/
theorem round_of_not_called (h : called? p state t = none) :
    ∃ e, round p state t = .over e ∧ Took t e.transport := by
  cases hlines : t.input.feed.lines with
  | nil =>
    obtain ⟨t₁, hturn, htook⟩ := nextTurn_of_no_line hlines
    exact ⟨_, (called_of_stop hturn).2, htook⟩
  | cons line rest =>
    cases hm : Message.ofLine line with
    | error m =>
      obtain ⟨t₁, hturn, htook⟩ := nextTurn_of_bad_line hlines hm
      exact ⟨_, (called_of_stop hturn).2, htook⟩
    | ok m =>
      obtain ⟨text, t₁, -, hturn, htook⟩ := nextTurn_of_good_line hlines hm
      rw [called?, hturn] at h
      exact ⟨_, (called_of_misplaced hturn (Option.map_eq_none_iff.1 h)).2, htook⟩

/-- A call is opened by a line that is its message. -/
theorem of_called (h : called? p state t = some c) :
    c.state = state ∧ p.callbackFor? state c.message = some c.callback ∧
      (∃ line rest, t.input.feed.lines = line :: rest ∧ Message.ofLine line = .ok c.message) ∧
      Took t c.handle := by
  cases hlines : t.input.feed.lines with
  | nil =>
    obtain ⟨t₁, hturn, -⟩ := nextTurn_of_no_line hlines
    rw [(@called_of_stop _ _ _ p state _ hturn).1] at h
    cases h
  | cons line rest =>
    cases hm : Message.ofLine line with
    | error m =>
      obtain ⟨t₁, hturn, -⟩ := nextTurn_of_bad_line hlines hm
      rw [(@called_of_stop _ _ _ p state _ hturn).1] at h
      cases h
    | ok m =>
      obtain ⟨text, t₁, -, hturn, htook⟩ := nextTurn_of_good_line hlines hm
      rw [called?, hturn] at h
      obtain ⟨a, ha, rfl⟩ := Option.map_eq_some_iff.1 h
      exact ⟨rfl, ha, ⟨line, rest, rfl, hm⟩, htook.silent (m.silent_announce t₁)⟩

/-- A line that is a message with a callback opens a call. -/
theorem called_of_line (p : Processor σ) (state : σ) {a : Callback σ}
    (h : t.input.feed.lines = line :: rest) (hm : Message.ofLine line = .ok m)
    (ha : p.callbackFor? state m = some a) :
    ∃ handle, called? p state t = some ⟨state, m, a, handle⟩ ∧ Took t handle := by
  obtain ⟨text, t₁, -, hturn, htook⟩ := nextTurn_of_good_line h hm
  refine ⟨m.announce t₁, ?_, htook.silent (m.silent_announce t₁)⟩
  rw [called?, hturn]
  dsimp only
  rw [ha]
  rfl

/-! ### The loop -/

theorem loop_of_goOn (h : round p state t = .goOn state' t') :
    loop p state t = loop p state' t' := by
  rw [loop]
  split
  · next heq =>
    rw [h] at heq
    cases heq
  · next heq =>
    rw [h] at heq
    obtain ⟨rfl, rfl⟩ := Round.goOn.inj heq
    rfl

theorem calls_of_over {e : Ending σ} (h : round p state t = .over e) :
    calls p state t = (called? p state t).toList := by
  rw [calls]
  split
  · rfl
  · next heq =>
    rw [h] at heq
    cases heq

theorem calls_of_goOn (hcalled : called? p state t = some c)
    (h : round p state t = .goOn state' t') : calls p state t = c :: calls p state' t' := by
  rw [calls]
  split
  · next heq =>
    rw [h] at heq
    cases heq
  · next heq =>
    rw [h] at heq
    obtain ⟨rfl, rfl⟩ := Round.goOn.inj heq
    rw [hcalled]
    rfl

/-- A session goes on only after a call. -/
theorem called_of_goOn (h : round p state t = .goOn state' t') :
    ∃ c, called? p state t = some c := by
  cases hcalled : called? p state t with
  | some c => exact ⟨c, rfl⟩
  | none =>
    obtain ⟨e, hover, -⟩ := round_of_not_called hcalled
    rw [h] at hover
    cases hover

theorem mem_calls_of_called (h : called? p state t = some c) : c ∈ calls p state t := by
  rcases hround : round p state t with e | ⟨state', t'⟩
  · rw [calls_of_over hround, h]
    exact List.mem_singleton_self c
  · rw [calls_of_goOn h hround]
    exact List.mem_cons_self ..

/-- A callback that checkpoints first of all sends a request, and finds the line after its message
    in place of the answer. -/
theorem request_of_line (p : Processor σ) (state : σ) {access : Access}
    {allowed : access = .granted} {target : CheckpointTarget} {handler : CheckpointHandler}
    {next : Except SessionError Unit → Activity access σ} {failure : Option StreamFailure}
    (hfeed : t.input.feed = ⟨line :: rest, failure⟩) (hm : Message.ofLine line = .ok m)
    (ha : p.callbackFor? state m = some ⟨access, .checkpoint allowed target handler next⟩)
    (hhealthy : t.output.policy.Healthy) :
    ∃ q ∈ requests p state t, (q.handle.send q.target).1 = .ok () ∧
      q.handle.input.feed = ⟨rest, failure⟩ := by
  obtain ⟨handle, hcalled, htook⟩ := called_of_line p state (congrArg Feed.lines hfeed) hm ha
  refine ⟨⟨target, handle⟩, ?_, ?_, ?_⟩
  · refine List.mem_flatMap.2 ⟨_, mem_calls_of_called hcalled, ?_⟩
    exact Activity.mem_requests_checkpoint allowed target handler next handle
  · apply Transport.send_ok
    rw [htook.output]
    exact hhealthy
  · rw [htook.feed, hfeed]
    rfl

/-- From the first place, the session comes to the second one, and makes these calls on the way. -/
structure Comes (p : Processor σ) (state : σ) (t : Transport) (before : List (Call σ))
    (state' : σ) (t' : Transport) : Prop where
  calls : calls p state t = before ++ calls p state' t'
  loop : loop p state t = loop p state' t'
  keeps : ∀ {R : Transport → Transport → Prop}, Frame R → R t t'

theorem Comes.refl (p : Processor σ) (state : σ) (t : Transport) : Comes p state t [] state t :=
  ⟨rfl, rfl, fun F => F.refl t⟩

/-- The session goes on after a call, and comes to where it comes from there. -/
theorem Comes.head {before : List (Call σ)} {state₁ : σ} {t₁ : Transport}
    (hcalled : called? p state t = some c) (hround : round p state t = .goOn state₁ t₁)
    (h : Comes p state₁ t₁ before state' t') : Comes p state t (c :: before) state' t' := by
  refine ⟨?_, ?_, ?_⟩
  · rw [calls_of_goOn hcalled hround, h.calls]
    rfl
  · rw [loop_of_goOn hround, h.loop]
  · intro R F
    have hfirst := keeps_round F p state t
    rw [hround] at hfirst
    exact F.trans hfirst (h.keeps F)

/-- The calls after the first ones are those of a place that is reached. -/
theorem calls_split {before after : List (Call σ)} (h : calls p state t = before ++ after)
    (hafter : after ≠ []) :
    ∃ state₁ t₁, Comes p state t before state₁ t₁ ∧ calls p state₁ t₁ = after := by
  induction before generalizing state t with
  | nil => exact ⟨state, t, .refl p state t, h⟩
  | cons c before ih =>
    rcases hround : round p state t with e | ⟨state', t'⟩
    · -- There would be one call at most.
      rw [calls_of_over hround] at h
      cases hcalled : called? p state t with
      | none => rw [hcalled] at h; cases h
      | some c' =>
        rw [hcalled] at h
        have hnil : before ++ after = [] := (List.cons.inj h).2.symm
        exact absurd (List.append_eq_nil_iff.1 hnil).2 hafter
    · obtain ⟨c', hcalled⟩ := called_of_goOn hround
      rw [calls_of_goOn hcalled hround] at h
      obtain ⟨rfl, hrest⟩ := List.cons.inj h
      obtain ⟨state₁, t₁, hcomes, hcalls⟩ := ih hrest
      exact ⟨state₁, t₁, hcomes.head hcalled hround, hcalls⟩

/-- The first of the calls is the next one. -/
theorem called_of_calls {after : List (Call σ)} (h : calls p state t = c :: after) :
    called? p state t = some c := by
  rcases hround : round p state t with e | ⟨state', t'⟩
  · rw [calls_of_over hround] at h
    cases hcalled : called? p state t with
    | none => rw [hcalled] at h; cases h
    | some c' =>
      rw [hcalled] at h
      rw [(List.cons.inj h).1]
  · obtain ⟨c', hcalled⟩ := called_of_goOn hround
    rw [calls_of_goOn hcalled hround] at h
    rw [hcalled, (List.cons.inj h).1]

/-- Every call is the next one at some place that is reached. -/
theorem exists_called (h : c ∈ calls p state t) :
    ∃ before state₁ t₁, Comes p state t before state₁ t₁ ∧ called? p state₁ t₁ = some c := by
  obtain ⟨before, after, hsplit⟩ := List.append_of_mem h
  obtain ⟨state₁, t₁, hcomes, hcalls⟩ := calls_split hsplit (List.cons_ne_nil _ _)
  exact ⟨before, state₁, t₁, hcomes, called_of_calls hcalls⟩

/-- A session that finds no line any more reads once, and is over. -/
theorem loop_of_no_line (p : Processor σ) (state : σ) (h : t.input.feed.lines = []) :
    ∃ u, loop p state t = ⟨state, closing? t.input.feed.failure, u⟩ ∧ calls p state t = [] ∧
      Took t u := by
  obtain ⟨u, hturn, htook⟩ := nextTurn_of_no_line h
  obtain ⟨hcalled, hround⟩ := @called_of_stop _ _ _ p state _ hturn
  refine ⟨u, loop_of_over hround, ?_, htook⟩
  rw [calls_of_over hround, hcalled]
  rfl

/-- A session that reads a line that is no message is over. -/
theorem loop_of_bad_line (p : Processor σ) (state : σ) {m : MalformedLine}
    (h : t.input.feed.lines = line :: rest) (hm : Message.ofLine line = .error m) :
    ∃ u, loop p state t = ⟨state, .error (.malformed m), u⟩ ∧ calls p state t = [] ∧ Took t u := by
  obtain ⟨u, hturn, htook⟩ := nextTurn_of_bad_line h hm
  obtain ⟨hcalled, hround⟩ := @called_of_stop _ _ _ p state _ hturn
  refine ⟨u, loop_of_over hround, ?_, htook⟩
  rw [calls_of_over hround, hcalled]
  rfl

/-! ### Calls within a run -/

variable {R : Transport → Transport → Prop}

theorem keeps_called (F : Frame R) (h : called? p state t = some c) : R t c.handle := by
  have hturn := keeps_nextTurn F t
  rw [called?] at h
  split at h
  · cases h
  · next line m t₁ heq =>
    rw [heq] at hturn
    obtain ⟨a, -, rfl⟩ := Option.map_eq_some_iff.1 h
    refine F.trans hturn ?_
    cases m with
    | shutdown reason => exact F.log _ _ _ _ _
    | _ => exact F.refl _

theorem Call.keeps_request (F : Frame R) {q : Request} (hq : q ∈ c.requests) :
    R c.handle q.handle ∧ R q.after c.ending.transport :=
  F.activity_request hq

theorem keeps_after_called (F : Frame R) (h : called? p state t = some c) :
    R c.ending.transport (loop p state t).transport := by
  have hstatus := Round.keeps_ofCallback F c.message.action c.ending
  rw [← round_of_called h] at hstatus
  rcases hround : round p state t with e | ⟨state', t'⟩
  · rw [hround] at hstatus
    rw [loop_of_over hround]
    exact hstatus
  · rw [hround] at hstatus
    rw [loop_of_goOn hround]
    exact F.trans hstatus (keeps_loop F p state' t')

/-- Every call lies between the two ends of the loop. -/
theorem keeps_call (F : Frame R) (h : c ∈ calls p state t) :
    R t c.handle ∧ R c.ending.transport (loop p state t).transport := by
  obtain ⟨before, state₁, t₁, hcomes, hcalled⟩ := exists_called h
  rw [hcomes.loop]
  exact ⟨F.trans (hcomes.keeps F) (keeps_called F hcalled), keeps_after_called F hcalled⟩

/-- Every request lies between the two ends of the loop. -/
theorem keeps_of_mem_requests (F : Frame R) {q : Request} (h : q ∈ requests p state t) :
    R t q.handle ∧ R q.after (loop p state t).transport := by
  obtain ⟨c, hc, hq⟩ := List.mem_flatMap.1 h
  obtain ⟨hbefore, hafter⟩ := keeps_call F hc
  obtain ⟨hbefore', hafter'⟩ := Call.keeps_request F hq
  exact ⟨F.trans hbefore hbefore', F.trans hafter' hafter⟩

/-! ### Output -/

/-- The output so far. -/
def outputOf (t : Transport) : List UInt8 := Journal.bytes .output t.journal.toList

theorem outputOf_silent {t t' : Transport} (h : Silent t t') : outputOf t' = outputOf t := by
  rw [outputOf, outputOf, Journal.bytes_output, Journal.bytes_output, h.signals]

theorem outputOf_took {t t' : Transport} (h : Took t t') : outputOf t' = outputOf t := by
  rw [outputOf, outputOf, Journal.bytes_output, Journal.bytes_output, h.signals,
    List.filterMap_append]
  exact List.append_nil _

/-- What was put out is not taken back. -/
theorem outputOf_later {t t' : Transport} (h : Transport.Later t t') : outputOf t <+: outputOf t' :=
  h.output

/-! ### Reporting -/

/-- Reporting an error passes nothing. -/
theorem silent_terminate (e : SessionError) (t : Transport) : Silent t (terminate e t) :=
  keeps_terminate (R := Silent) Silent.trans (fun _ _ _ _ _ => Transport.silent_log ..)
    Transport.Wrote.silent e t

/-- After the loop, nothing passes any more. -/
theorem silent_run (p : Processor σ) (state : σ) (t : Transport) :
    Silent (loop p state t).transport (run p state t).transport := by
  rw [run]
  split
  · exact .refl _
  · exact silent_terminate _ _

/-- A session ends as it ends from any place that it comes to. -/
theorem run_of_comes {before : List (Call σ)} (h : Comes p state t before state' t') :
    (run p state t).outcome = (loop p state' t').outcome ∧
      Silent (loop p state' t').transport (run p state t).transport := by
  have hsilent := silent_run p state t
  rw [h.loop] at hsilent
  refine ⟨?_, hsilent⟩
  rw [outcome_run, h.loop]

end Session

end ShardBridge
