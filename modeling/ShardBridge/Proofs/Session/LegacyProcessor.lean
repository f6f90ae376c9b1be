/-
  ShardBridge.Proofs.Session.LegacyProcessor

  Processors of the older manner in a whole session.  Such a processor is called
  once for each message, in the order of the messages, but for the notice that
  the daemon is going to stop: that one is acknowledged without it.  A processor
  that takes down its own calls does what it did before, and has in the end
  taken down just these (`LegacyProcessor.run_traced`).

    * `LegacyCall.ofMessage? m` -- the call that a message leads to;
    * `LegacyProcessor.traced p` -- `p`, taking down its calls;
    * `Activity.map f a` -- `a`, leaving other states behind.
-/
import ShardBridge.Processor.Legacy
import ShardBridge.Proofs.Session.CallOutput
import ShardBridge.Proofs.Session.PassingOn

namespace ShardBridge

open Transport (Silent)

/-! ## Calls -/

/-- A call of a processor of the older manner. -/
inductive LegacyCall where
  | start (assignment : ShardStart)
  | processRecords (batch : Batch)
  | shutdown (reason : ShutdownReason) (access : Access)
  deriving DecidableEq, Repr

/-- The call that a message leads to: each message leads to one, unless it says that the daemon is
    going to stop, or has no place outside a checkpoint. -/
def LegacyCall.ofMessage? : Message → Option LegacyCall
  | .start assignment => some (.start assignment)
  | .processRecords batch => some (.processRecords batch)
  | .shardEnded | .shutdown .terminate => some (.shutdown .terminate .granted)
  | .leaseLost | .shutdown .zombie => some (.shutdown .zombie .withheld)
  | .shutdownRequested | .shutdown .requested => none
  | .checkpoint _ | .status _ => none

/-- No message leads to the call with the reason that the daemon is going to stop. -/
theorem LegacyCall.ofMessage?_ne_requested (m : Message) (access : Access) :
    ofMessage? m ≠ some (.shutdown .requested access) := by
  cases m with
  | shutdown reason => cases reason <;> simp [ofMessage?]
  | _ => simp [ofMessage?]

/-! ## Other states -/

section Map

variable {σ τ : Type} {access : Access}

/-- The same program, which leaves other states behind. -/
def Activity.map (f : σ → τ) : Activity access σ → Activity access τ
  | .finish state outcome => .finish (f state) outcome
  | .remark r next => .remark r (next.map f)
  | .checkpoint allowed target handler next =>
    .checkpoint allowed target handler fun result => (next result).map f

theorem Activity.run_map (f : σ → τ) (a : Activity access σ) (t : Transport) :
    (a.map f).run t = ⟨f (a.run t).state, (a.run t).outcome, (a.run t).transport⟩ := by
  induction a generalizing t with
  | finish state outcome => rfl
  | remark r next ih =>
    rw [map, run, run]
    exact ih _
  | checkpoint allowed target handler next ih =>
    rw [map, run, run]
    exact ih _ _

def Callback.map (f : σ → τ) (a : Callback σ) : Callback τ := ⟨a.access, a.activity.map f⟩

namespace Session

def Ending.map (f : σ → τ) (e : Ending σ) : Ending τ := ⟨f e.state, e.outcome, e.transport⟩

def Round.map (f : σ → τ) : Round σ → Round τ
  | .over e => .over (e.map f)
  | .goOn state t => .goOn (f state) t

theorem Round.ofCallback_map (f : σ → τ) (action : Action) (e : Activity.Ending σ) :
    ofCallback action ⟨f e.state, e.outcome, e.transport⟩ = (ofCallback action e).map f := by
  obtain ⟨state, outcome, t⟩ := e
  rw [ofCallback, ofCallback]
  cases outcome with
  | error source => rfl
  | ok _ =>
    dsimp only
    split <;> rfl

end Session

end Map

/-! ## Taking down the calls -/

namespace LegacyProcessor

variable {σ : Type}

/-- The callback for a call. -/
def answer (p : LegacyProcessor σ) (state : σ) : LegacyCall → Callback σ
  | .start assignment => ⟨_, p.start state assignment⟩
  | .processRecords batch => ⟨_, p.processRecords state batch⟩
  | .shutdown reason access => ⟨access, p.shutdown state reason access⟩

/-- The same processor, which takes down every call of it. -/
def traced (p : LegacyProcessor σ) : LegacyProcessor (σ × List LegacyCall) where
  start := fun (state, trace) assignment =>
    (p.start state assignment).map fun state' => (state', trace ++ [.start assignment])
  processRecords := fun (state, trace) batch =>
    (p.processRecords state batch).map fun state' => (state', trace ++ [.processRecords batch])
  shutdown := fun (state, trace) reason access =>
    (p.shutdown state reason access).map fun state' => (state', trace ++ [.shutdown reason access])

/-- The callback for a message is the one for the call that it leads to; if it leads to none, the
    callback is done at once. -/
theorem callbackFor?_toProcessor {p : LegacyProcessor σ} {state : σ} {m : Message} {a : Callback σ}
    (h : p.toProcessor.callbackFor? state m = some a) :
    (∃ call, LegacyCall.ofMessage? m = some call ∧ a = p.answer state call) ∨
      (m = .shutdownRequested ∨ m = .shutdown .requested) ∧ LegacyCall.ofMessage? m = none ∧
        a = ⟨.granted, .done state⟩ := by
  cases m with
  | start assignment => exact .inl ⟨_, rfl, (Option.some.inj h).symm⟩
  | processRecords batch => exact .inl ⟨_, rfl, (Option.some.inj h).symm⟩
  | leaseLost => exact .inl ⟨_, rfl, (Option.some.inj h).symm⟩
  | shardEnded => exact .inl ⟨_, rfl, (Option.some.inj h).symm⟩
  | shutdownRequested => exact .inr ⟨.inl rfl, rfl, (Option.some.inj h).symm⟩
  | shutdown reason =>
    cases reason with
    | terminate => exact .inl ⟨_, rfl, (Option.some.inj h).symm⟩
    | zombie => exact .inl ⟨_, rfl, (Option.some.inj h).symm⟩
    | requested => exact .inr ⟨.inr rfl, rfl, (Option.some.inj h).symm⟩
  | checkpoint c => cases h
  | status a => cases h

theorem callbackFor?_traced (p : LegacyProcessor σ) (state : σ) (trace : List LegacyCall)
    (m : Message) :
    p.traced.toProcessor.callbackFor? (state, trace) m =
      (p.toProcessor.callbackFor? state m).map
        (Callback.map fun state' => (state', trace ++ (LegacyCall.ofMessage? m).toList)) := by
  have hdone : (⟨.granted, .done (state, trace)⟩ : Callback (σ × List LegacyCall)) =
      Callback.map (fun state' => (state', trace ++ [])) ⟨.granted, .done state⟩ := by
    rw [List.append_nil]
    rfl
  cases m with
  | shutdownRequested => exact congrArg some hdone
  | shutdown reason =>
    cases reason with
    | requested => exact congrArg some hdone
    | _ => rfl
  | _ => rfl

end LegacyProcessor

namespace Session

variable {σ : Type}

/-- The calls of a processor of the older manner that a session's calls amount to. -/
def legacyCalls (cs : List (Call σ)) : List LegacyCall :=
  cs.filterMap fun c => LegacyCall.ofMessage? c.message

theorem round_traced (p : LegacyProcessor σ) (state : σ) (trace : List LegacyCall)
    (t : Transport) :
    round p.traced.toProcessor (state, trace) t =
      (round p.toProcessor state t).map fun state' =>
        (state', trace ++ legacyCalls (called? p.toProcessor state t).toList) := by
  rw [round, round, called?]
  cases nextTurn t with
  | stop outcome u =>
    dsimp only
    rw [Option.toList_none, legacyCalls, List.filterMap_nil, List.append_nil]
    rfl
  | handle line m u =>
    dsimp only
    rw [Processor.callback_eq, Processor.callback_eq, p.callbackFor?_traced]
    cases ha : p.toProcessor.callbackFor? state m with
    | none =>
      dsimp only [Option.map_none]
      rw [Option.toList_none, legacyCalls, List.filterMap_nil, List.append_nil]
      rfl
    | some a =>
      have htrace : legacyCalls [(⟨state, m, a, m.announce u⟩ : Call σ)] =
          (LegacyCall.ofMessage? m).toList := by
        rw [legacyCalls, List.filterMap_cons]
        cases LegacyCall.ofMessage? m <;> rfl
      dsimp only [Option.map_some]
      rw [Option.toList_some, htrace, ← Round.ofCallback_map]
      congr 1
      exact a.activity.run_map _ _

theorem loop_traced (p : LegacyProcessor σ) (state : σ) (trace : List LegacyCall) (t : Transport) :
    loop p.traced.toProcessor (state, trace) t =
      (loop p.toProcessor state t).map fun state' =>
        (state', trace ++ legacyCalls (calls p.toProcessor state t)) := by
  fun_induction loop p.toProcessor state t generalizing trace with
  | case1 state t e hround =>
    have htraced := round_traced p state trace t
    rw [hround] at htraced
    rw [loop_of_over htraced, calls_of_over hround]
  | case2 state t state' t' hround _ ih =>
    have htraced := round_traced p state trace t
    obtain ⟨c, hcalled⟩ := called_of_goOn hround
    rw [hround, hcalled] at htraced
    rw [loop_of_goOn htraced, ih, calls_of_goOn hcalled hround]
    have happend : legacyCalls (c :: calls p.toProcessor state' t') =
        legacyCalls [c] ++ legacyCalls (calls p.toProcessor state' t') := by
      rw [legacyCalls, legacyCalls, legacyCalls, ← List.filterMap_append]
      rfl
    rw [happend, ← List.append_assoc]
    rfl

/-- Taking down the calls changes nothing else, and what is taken down is what the session's calls
    amount to. -/
theorem run_traced (p : LegacyProcessor σ) (state : σ) (t : Transport) :
    run p.traced.toProcessor (state, []) t =
      (run p.toProcessor state t).map fun state' =>
        (state', legacyCalls (calls p.toProcessor state t)) := by
  rw [run, run, loop_traced, List.nil_append]
  generalize loop p.toProcessor state t = e
  obtain ⟨state', outcome, u⟩ := e
  cases outcome with
  | error failure => rfl
  | ok _ => rfl

theorem shutdown_requested_not_mem (cs : List (Call σ)) (access : Access) :
    .shutdown .requested access ∉ legacyCalls cs := by
  intro hmem
  obtain ⟨c, -, hc⟩ := List.mem_filterMap.1 hmem
  exact LegacyCall.ofMessage?_ne_requested c.message access hc

/-- A processor of the older manner in a session of any kind.

    It is called once for each message for which the session calls a callback, in their order, with
    what the message says: that the shard is at its end, by either kind of notice, comes with leave
    to checkpoint, and that the lease is lost comes without.  Only the notice that the daemon is
    going to stop, of either kind, does not reach it: then nothing changes and nothing is requested,
    and the notice is acknowledged as what it is.  An error that the processor reports ends the
    session as it does with a processor of the newer manner. -/
theorem run_legacy (p : LegacyProcessor σ) (state : σ) (t : Transport) :
    let e := run p.toProcessor state t
    let cs := calls p.toProcessor state t
    run p.traced.toProcessor (state, []) t = e.map (fun state' => (state', legacyCalls cs)) ∧
      (∀ access, .shutdown .requested access ∉ legacyCalls cs) ∧
      (∀ c ∈ cs,
        (∃ call, LegacyCall.ofMessage? c.message = some call ∧
          c.callback = p.answer c.state call) ∨
        (c.message = .shutdownRequested ∨ c.message = .shutdown .requested) ∧
          LegacyCall.ofMessage? c.message = none ∧ c.requests = [] ∧
          c.ending = ⟨c.state, .ok (), c.handle⟩ ∧
          (outputOf c.handle ++ c.status <+: outputOf e.transport ∨
            ∃ failure, (c.handle.writeMessage (.status c.message.action)).1 = .error failure ∧
              e.outcome = .error failure)) ∧
      ∀ c ∈ cs, ∀ source, c.ending.outcome = .error source →
        e.outcome = .error (.ofProcessor c.message.action source) ∧ e.state = c.ending.state ∧
          Silent c.ending.transport e.transport ∧ ∃ before, cs = before ++ [c] := by
  intro e cs
  refine ⟨run_traced p state t, shutdown_requested_not_mem cs, ?_, ?_⟩
  · intro c hc
    obtain ⟨-, state₁, t₁, -, hcalled⟩ := exists_called hc
    obtain ⟨hstate, hcallback, -, -⟩ := of_called hcalled
    rw [← hstate] at hcallback
    rcases LegacyProcessor.callbackFor?_toProcessor hcallback with hcall | ⟨hm, hnone, ha⟩
    · exact .inl hcall
    · have hrequests : c.requests = [] := by
        rw [Call.requests, ha]
        rfl
      have hending : c.ending = ⟨c.state, .ok (), c.handle⟩ := by
        rw [Call.ending, ha]
        rfl
      have hacknowledged := acknowledged_of_ok hc (by rw [hending])
      rw [hending] at hacknowledged
      exact .inr ⟨hm, hnone, hrequests, hending, hacknowledged⟩
  · intro c hc source hfailed
    exact run_of_failed hc hfailed

/-- A processor of the older manner that does not put up with the end of its shard. -/
def unwilling : LegacyProcessor Unit where
  start := fun _ _ => .done ()
  processRecords := fun _ _ => .done ()
  shutdown := fun _ _ _ => .finish () (.error (.own "not yet"))

/-- The notice of older daemons that they are going to stop. -/
def requestedText : String := "\x7b\"action\":\"shutdown\",\"reason\":\"REQUESTED\"\x7d"

theorem ofLine_requested :
    Message.ofLine (Text.Utf8.bytesOf requestedText) = .ok (.shutdown .requested) :=
  (Message.ofLine_of_text (by cbv)).trans (by cbv : Message.decode requestedText = _)

/-- Streams that bring this notice, and then that the shard is at its end. -/
def stopping : Transport :=
  { shardAtEnd with
    input := .ofBytes ([requestedText, shardEndedText].flatMap Transport.lineBytes) }

theorem feed_stopping : stopping.input.feed =
    ⟨[Text.Utf8.bytesOf requestedText, Text.Utf8.bytesOf shardEndedText], none⟩ := by cbv

/-- Both messages have a callback in the session, and the second one fails. -/
theorem calls_stopping : ∃ c₁ c₂, calls unwilling.toProcessor () stopping = [c₁, c₂] ∧
    c₁.message = .shutdown .requested ∧ c₂.message = .shardEnded ∧
    c₂.ending.outcome = .error (.own "not yet") := by
  obtain ⟨handle, hcalled, htook⟩ := called_of_line (a := ⟨.granted, .done ()⟩)
    unwilling.toProcessor () (congrArg Feed.lines feed_stopping) ofLine_requested rfl
  obtain ⟨c₁, hc₁⟩ : ∃ c₁ : Call Unit,
      c₁ = ⟨(), .shutdown .requested, ⟨.granted, .done ()⟩, handle⟩ := ⟨_, rfl⟩
  rw [← hc₁] at hcalled
  have hm₁ : c₁.message = .shutdown .requested := by rw [hc₁]
  have hending : c₁.ending = ⟨(), .ok (), handle⟩ := by
    rw [hc₁]
    rfl
  have hround := round_of_healthy Sink.healthy_healthy hcalled (by rw [hending])
  rw [hending] at hround
  -- After the first message the second one is left.
  have hlines : (handle.writeMessage (.status c₁.message.action)).2.input.feed.lines =
      [Text.Utf8.bytesOf shardEndedText] := by
    rw [Transport.input_writeMessage, htook.feed, feed_stopping]
    rfl
  obtain ⟨handle', hcalled', -⟩ := called_of_line unwilling.toProcessor () hlines
    ofLine_shardEnded rfl
  have hround' := round_of_failed hcalled' rfl
  have hcalls := calls_of_goOn hcalled hround
  rw [calls_of_over hround', hcalled'] at hcalls
  exact ⟨_, _, hcalls, hm₁, rfl, rfl⟩

/-- The processor hears of the second message only, and the session ends with its error. -/
theorem run_legacy_stopping :
    (run unwilling.traced.toProcessor ((), []) stopping).state =
        ((), [.shutdown .terminate .granted]) ∧
      (run unwilling.toProcessor () stopping).outcome =
        .error (.processor .shardEnded (.own "not yet")) ∧
      ∀ c ∈ calls unwilling.toProcessor () stopping, c.message = .shutdown .requested →
        c.requests = [] := by
  obtain ⟨c₁, c₂, hcalls, hm₁, hm₂, hfailed⟩ := calls_stopping
  obtain ⟨htraced, -, heach, herror⟩ := run_legacy unwilling () stopping
  have hmem : c₂ ∈ calls unwilling.toProcessor () stopping := by
    rw [hcalls]
    exact List.mem_cons_of_mem _ (List.mem_singleton_self c₂)
  refine ⟨?_, ?_, ?_⟩
  · rw [htraced, hcalls, legacyCalls, List.filterMap_cons, List.filterMap_cons, hm₁, hm₂]
    rfl
  · rw [(herror c₂ hmem _ hfailed).1, hm₂]
    rfl
  · intro c hc hm
    rcases heach c hc with ⟨call, hcall, -⟩ | ⟨-, -, hnone, -⟩
    · rw [hm] at hcall
      cases hcall
    · exact hnone

end Session

end ShardBridge
