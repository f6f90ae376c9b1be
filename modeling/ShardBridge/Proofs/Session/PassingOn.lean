/-
  ShardBridge.Proofs.Session.PassingOn

  Processors that pass errors on.  A checkpoint can fail because of the streams:
  the request cannot be written, or no answer can be read.  A program that
  passes on every such error makes no request after it, and comes out with it
  (`Recovery.run_of_error`, `Activity.run_of_error`), so the session ends with
  just this error and nothing passes any more (`Session.run_of_broken_request`).
  A callback that keeps the error to itself carries on as if nothing had
  happened (`Session.run_closing_unanswered`).
-/
import ShardBridge.Proofs.Session.Calls
import ShardBridge.Proofs.Session.Transcript

namespace ShardBridge

open Transport (Silent)

/-! ## Handlers -/

namespace Recovery

/-- After some remarks, the handler comes out with this error. -/
inductive Returns (e : SessionError) : Recovery → Prop
  | finish : Returns e (.finish (.error e))
  | remark {r : Remark} {next : Recovery} (h : Returns e next) : Returns e (.remark r next)

/-- The handler passes on the error of every checkpoint it makes, and so do the handlers that it
    makes use of. -/
def PassesOn : Recovery → Prop
  | .finish _ => True
  | .remark _ next => next.PassesOn
  | .checkpoint _ handler next =>
    (∀ target error, (handler target error).PassesOn) ∧ (∀ result, (next result).PassesOn) ∧
      ∀ e, (next (.error e)).Returns e

variable {e : SessionError} {r : Recovery} {t : Transport} {q : Request}

theorem Returns.run (h : r.Returns e) (t : Transport) :
    (r.run t).1 = .error e ∧ Silent t (r.run t).2 ∧ r.requests t = [] := by
  induction h generalizing t with
  | finish => exact ⟨rfl, .refl t, rfl⟩
  | @remark r next h ih =>
    obtain ⟨hresult, hsilent, hnone⟩ := ih (t.record r.event)
    have hfirst : Silent t (t.record r.event) := Transport.silent_record r.isAside
    rw [Recovery.run, requests]
    exact ⟨hresult, hfirst.trans hsilent, hnone⟩

/-- What a handler passes on is what it comes out with, and its last request is the one that
    failed. -/
theorem run_of_error (hr : r.PassesOn) (hq : q ∈ r.requests t) (he : q.outcome = .error e) :
    (r.run t).1 = .error e ∧ Silent q.after (r.run t).2 ∧
      ∃ earlier, r.requests t = earlier ++ [q] := by
  induction r generalizing t with
  | finish result => cases hq
  | remark r next ih =>
    rw [requests] at hq
    rw [Recovery.run, requests]
    exact ih hr hq
  | checkpoint target handler next ihh ihn =>
    obtain ⟨hhandler, hnext, hreturns⟩ := hr
    rw [requests] at hq ⊢
    rw [Recovery.run]
    rcases List.mem_cons.1 hq with rfl | hq
    · -- The failed request is the first one.
      have hexchange : t.exchange target = (.error e, (t.exchange target).2) := by
        rw [← show (t.exchange target).1 = .error e from he]
      obtain ⟨hresult, hsilent, hnone⟩ := (hreturns e).run (t.exchange target).2
      rw [hexchange]
      dsimp only
      rw [hnone]
      exact ⟨hresult, hsilent, [], rfl⟩
    · generalize t.exchange target = x at hq ⊢
      obtain ⟨e' | (_ | error), t₁⟩ := x <;> dsimp only at hq ⊢
      · -- After an error there is no further request.
        obtain ⟨-, -, hnone⟩ := (hreturns e').run t₁
        rw [hnone] at hq
        cases hq
      · obtain ⟨hresult, hsilent, earlier, hlast⟩ := ihn _ (hnext _) hq
        exact ⟨hresult, hsilent, ⟨target, t⟩ :: earlier, congrArg (⟨target, t⟩ :: ·) hlast⟩
      · rcases List.mem_append.1 hq with hq | hq
        · -- The handler comes out with the error, and that is passed on.
          obtain ⟨hresult, hsilent, earlier, hlast⟩ := ihh _ _ (hhandler _ _) hq
          obtain ⟨hresult', hsilent', hnone⟩ :=
            (hreturns e).run ((handler target error).run t₁).2
          rw [hresult, hnone, hlast, List.append_nil]
          exact ⟨hresult', hsilent.trans hsilent', ⟨target, t⟩ :: earlier, rfl⟩
        · obtain ⟨hresult, hsilent, earlier, hlast⟩ := ihn _ (hnext _) hq
          refine ⟨hresult, hsilent,
            ⟨target, t⟩ :: ((handler target error).requests t₁ ++ earlier), ?_⟩
          rw [hlast, List.cons_append, List.append_assoc]

end Recovery

namespace CheckpointHandler

/-- What the handler does about any failure passes errors on. -/
def PassesOn (h : CheckpointHandler) : Prop := ∀ target error, (h target error).PassesOn

theorem passesOn_ignore : ignore.PassesOn := fun _ _ => trivial

end CheckpointHandler

/-! ## Callbacks -/

namespace Activity

variable {access : Access} {σ : Type}

/-- After some remarks, the callback comes out with this error. -/
inductive Returns (e : SessionError) : Activity access σ → Prop
  | finish {state : σ} : Returns e (.finish state (.error (.session e)))
  | remark {r : Remark} {next : Activity access σ} (h : Returns e next) :
      Returns e (.remark r next)

/-- The callback passes on the error of every checkpoint it makes, and so do its handlers. -/
def PassesOn : Activity access σ → Prop
  | .finish _ _ => True
  | .remark _ next => next.PassesOn
  | .checkpoint _ _ handler next =>
    CheckpointHandler.PassesOn handler ∧ (∀ result, (next result).PassesOn) ∧
      ∀ e, (next (.error e)).Returns e

variable {e : SessionError} {a : Activity access σ} {t : Transport} {q : Request}

theorem Returns.run (h : a.Returns e) (t : Transport) :
    (a.run t).outcome = .error (.session e) ∧ Silent t (a.run t).transport ∧
      a.requests t = [] := by
  induction h generalizing t with
  | finish => exact ⟨rfl, .refl t, rfl⟩
  | @remark r next h ih =>
    obtain ⟨hresult, hsilent, hnone⟩ := ih (t.record r.event)
    have hfirst : Silent t (t.record r.event) := Transport.silent_record r.isAside
    rw [Activity.run, requests]
    exact ⟨hresult, hfirst.trans hsilent, hnone⟩

/-- What a callback passes on is what it comes out with, and its last request is the one that
    failed. -/
theorem run_of_error (ha : a.PassesOn) (hq : q ∈ a.requests t) (he : q.outcome = .error e) :
    (a.run t).outcome = .error (.session e) ∧ Silent q.after (a.run t).transport ∧
      ∃ earlier, a.requests t = earlier ++ [q] := by
  induction a generalizing t with
  | finish state outcome => cases hq
  | remark r next ih =>
    rw [requests] at hq
    rw [Activity.run, requests]
    exact ih ha hq
  | checkpoint allowed target handler next ih =>
    obtain ⟨hhandler, hnext, hreturns⟩ := ha
    rw [requests] at hq ⊢
    rw [Activity.run]
    rcases List.mem_append.1 hq with hq | hq
    · -- The checkpoint itself failed: it has the error for its result.
      have hcheckpoint : (Recovery.checkpoint target handler .finish).PassesOn :=
        ⟨hhandler, fun _ => trivial, fun _ => .finish⟩
      obtain ⟨hresult, hsilent, earlier, hlast⟩ := Recovery.run_of_error hcheckpoint hq he
      have hfailed : (t.checkpoint target handler).1 = .error e := hresult
      obtain ⟨hresult', hsilent', hnone⟩ := (hreturns e).run (t.checkpoint target handler).2
      rw [hfailed, hnone, hlast, List.append_nil]
      exact ⟨hresult', hsilent.trans hsilent', earlier, rfl⟩
    · obtain ⟨hresult, hsilent, earlier, hlast⟩ := ih _ (hnext _) hq
      refine ⟨hresult, hsilent,
        (Recovery.checkpoint target handler .finish).requests t ++ earlier, ?_⟩
      rw [hlast, List.append_assoc]

theorem passesOn_of_withheld (a : Activity .withheld σ) : a.PassesOn := by
  induction a with
  | finish state outcome => exact trivial
  | remark r next ih => exact ih
  | checkpoint allowed target handler next ih => cases allowed

end Activity

/-- Every callback that may checkpoint passes errors on. -/
structure Processor.PassesOn {σ : Type} (p : Processor σ) : Prop where
  processRecords : ∀ state batch, (p.processRecords state batch).PassesOn
  shardEnded : ∀ state, (p.shardEnded state).PassesOn
  shutdownRequested : ∀ state, (p.shutdownRequested state).PassesOn

theorem Processor.PassesOn.callback {σ : Type} {p : Processor σ} (hp : p.PassesOn) {state : σ}
    {m : Message} {a : Callback σ} (h : p.callbackFor? state m = some a) : a.activity.PassesOn := by
  cases m with
  | start assignment =>
    obtain rfl := Option.some.inj h
    exact Activity.passesOn_of_withheld _
  | processRecords batch =>
    obtain rfl := Option.some.inj h
    exact hp.processRecords _ _
  | leaseLost =>
    obtain rfl := Option.some.inj h
    exact Activity.passesOn_of_withheld _
  | shardEnded =>
    obtain rfl := Option.some.inj h
    exact hp.shardEnded _
  | shutdownRequested =>
    obtain rfl := Option.some.inj h
    exact hp.shutdownRequested _
  | shutdown reason =>
    cases reason with
    | terminate =>
      obtain rfl := Option.some.inj h
      exact hp.shardEnded _
    | zombie =>
      obtain rfl := Option.some.inj h
      exact Activity.passesOn_of_withheld _
    | requested =>
      obtain rfl := Option.some.inj h
      exact hp.shutdownRequested _
  | checkpoint c => cases h
  | status a => cases h

/-! ## Sessions -/

namespace Session

variable {σ : Type} {p : Processor σ} {state : σ} {t : Transport} {c : Call σ} {q : Request}
  {e : SessionError}

/-- A failed request ends the call in which it is made, and with it the session. -/
theorem loop_of_error (hp : p.PassesOn) (hcalled : called? p state t = some c)
    (hq : q ∈ c.requests) (he : q.outcome = .error e) :
    loop p state t = ⟨c.ending.state, .error e, c.ending.transport⟩ ∧
      Silent q.after c.ending.transport ∧ calls p state t = [c] ∧
      ∃ earlier, c.requests = earlier ++ [q] := by
  obtain ⟨-, hcallback, -⟩ := of_called hcalled
  obtain ⟨hresult, hsilent, hlast⟩ := Activity.run_of_error (hp.callback hcallback) hq he
  have hround : round p state t = .over ⟨c.ending.state, .error e, c.ending.transport⟩ := by
    rw [round_of_called hcalled]
    exact Round.ofCallback_eq_over hresult
  refine ⟨loop_of_over hround, hsilent, ?_, hlast⟩
  rw [calls_of_over hround, hcalled]
  rfl

/-- So it ends the run, and nothing passes after it. -/
theorem run_of_error (hp : p.PassesOn) (hq : q ∈ requests p state t) (he : q.outcome = .error e) :
    (run p state t).outcome = .error e ∧ Silent q.after (run p state t).transport ∧
      ∃ before c earlier, calls p state t = before ++ [c] ∧ c.requests = earlier ++ [q] := by
  obtain ⟨c, hc, hq⟩ := List.mem_flatMap.1 hq
  obtain ⟨before, state₁, t₁, hcomes, hcalled⟩ := exists_called hc
  obtain ⟨hend, hsilent, hlast, earlier, hrequests⟩ := loop_of_error hp hcalled hq he
  obtain ⟨houtcome, hrun⟩ := run_of_comes hcomes
  rw [hend] at houtcome hrun
  refine ⟨houtcome, hsilent.trans hrun, before, c, earlier, ?_, hrequests⟩
  rw [hcomes.calls, hlast]

/-- When every callback passes errors on, a request that the streams break ends the session, and
    the session ends with just this error: the call in which the request is made is the last one,
    the request is the last one in it, and from then on nothing is read, and nothing goes to the
    daemon. -/
theorem run_of_broken_request (p : Processor σ) (hp : p.PassesOn) (state : σ) (t : Transport)
    {q : Request} {e : SessionError} (hq : q ∈ requests p state t) (hbreaks : q.Breaks e) :
    (run p state t).outcome = .error e ∧ Silent q.after (run p state t).transport ∧
      ∃ before c earlier, calls p state t = before ++ [c] ∧ c.requests = earlier ++ [q] := by
  have houtcome : q.outcome = .error e := Request.outcome_of_breaks hbreaks
  exact run_of_error hp hq houtcome

/-- Streams of which the input is the announcement that the shard is at its end, and nothing
    after it. -/
def unanswered : Transport :=
  ⟨.ofBytes (Transport.lineBytes shardEndedText), .healthy, .healthy, #[], .silent⟩

/-- A processor that records its position when its shard is at the end, and passes on what comes of
    it. -/
def careful : Processor Unit :=
  { closing with
    shardEnded := fun _ =>
      .checkpoint rfl .lastDelivered .ignore fun result => .finish () (result.mapError .session) }

theorem careful_passesOn : careful.PassesOn where
  processRecords := fun _ _ => trivial
  shardEnded := fun _ => ⟨CheckpointHandler.passesOn_ignore, fun _ => trivial, fun _ => .finish⟩
  shutdownRequested := fun _ => trivial

/-- On these streams, a processor that records its position at the end of the shard makes a request
    that gets no answer. -/
theorem exists_broken_unanswered {p : Processor Unit} {handler : CheckpointHandler}
    {next : Except SessionError Unit → Activity .granted Unit}
    (h : p.shardEnded () = .checkpoint rfl .lastDelivered handler next) :
    ∃ q ∈ requests p () unanswered, q.Breaks .closedDuringCheckpoint := by
  have hfeed : unanswered.input.feed = ⟨[Text.Utf8.bytesOf shardEndedText], none⟩ := by cbv
  have hcallback : p.callbackFor? () .shardEnded =
      some ⟨_, .checkpoint rfl .lastDelivered handler next⟩ := by
    rw [Processor.callbackFor?, h]
  obtain ⟨q, hq, hsent, hrest⟩ :=
    request_of_line p () hfeed ofLine_shardEnded hcallback Sink.healthy_healthy
  refine ⟨q, hq, .ended hsent ?_⟩
  rw [q.handle.input.nextLine_feed.1, hrest]
  rfl

/-- The session ends with the error of the request that got no answer. -/
theorem run_careful_unanswered :
    (run careful () unanswered).outcome = .error .closedDuringCheckpoint := by
  obtain ⟨q, hq, hbreaks⟩ := exists_broken_unanswered (p := careful) rfl
  exact (run_of_broken_request careful careful_passesOn () unanswered hq hbreaks).1

/-- A callback that keeps the error to itself: its request got no answer, and yet the status line
    goes out, and the session ends well. -/
theorem run_closing_unanswered :
    (∃ q ∈ requests closing () unanswered, q.Breaks .closedDuringCheckpoint) ∧
      (run closing () unanswered).outcome = .ok () ∧
      Journal.bytes .output (run closing () unanswered).transport.journal.toList =
        ["\x7b\"action\":\"checkpoint\",\"sequenceNumber\":null\x7d",
          "\x7b\"action\":\"status\",\"responseFor\":\"shardEnded\"\x7d"].flatMap
            Transport.lineBytes := by
  obtain ⟨s, hcourse, hout, hpasses⟩ :=
    run_course closing () (⟨rfl, Sink.healthy_healthy⟩ : unanswered.Reliable)
  have hlines : unanswered.input.lines = [Text.Utf8.bytesOf shardEndedText] := by cbv
  have htalk : (closing.shardEnded ()).talk [] =
      ⟨((), .ok ()), [⟨.lastDelivered, none⟩], []⟩ := by
    simp only [closing, Activity.done, Activity.talk, Recovery.talk, Dialogue.andThen,
      Dialogue.ask, CheckpointAnswer.ofLines]
    rfl
  have hopens : Opens closing () [Text.Utf8.bytesOf shardEndedText] _ _ _ :=
    .intro ofLine_shardEnded rfl
  rw [htalk] at hopens
  have hcourse' := hcourse
  rw [hlines] at hcourse'
  obtain rfl := Course.unique (.handled hopens rfl (.ended ())) hcourse'
  refine ⟨exists_broken_unanswered rfl, hout, ?_⟩
  rw [(hcourse.transcribes hpasses).output]
  cbv

end Session

end ShardBridge
