/-
  ShardBridge.Proofs.Session.FailingRead

  An input that fails, against the same input that ends after its last whole
  line.  The line that the failure breaks off is lost, so both give the same
  lines, and a session does the same on both until it reads past them
  (`Session.abreast_of_failing`).  Between two messages the end is a good end,
  and so is a failure that closes the stream; where an answer should be, both
  are errors, whatever the failure is (`Session.run_of_failing`).
-/
import ShardBridge.Proofs.Session.Abreast

namespace ShardBridge.Session

open Input (whole linesOf)

variable {σ : Type} {t : Transport} {i : Input} {e : StreamFailure}

/-- After the same lines, the first input fails and the second one ends. -/
def severed (e : StreamFailure) : Parting where
  same l l' := l' = l
  parted f f' := f = ⟨[], some e⟩ ∧ f' = ⟨[], none⟩
  ofLine_eq := fun h => by rw [h]

theorem agree_severed (e : StreamFailure) (lines : List Line) :
    (severed e).Agree lines.length ⟨lines, some e⟩ ⟨lines, none⟩ := by
  induction lines with
  | nil => exact ⟨rfl, rfl⟩
  | cons line lines ih => exact ⟨line, line, rfl, rfl, rfl, ih⟩

/-- The input that fails gives the lines of the one that ends in its place. -/
theorem abreast_of_failing (hfails : t.input.failure = some e) (hends : i.failure = none)
    (hwhole : i.pending = whole t.input.pending) :
    Abreast (severed e) (t.reads + i.lines.length) t { t with input := i } := by
  refine ⟨⟨rfl, rfl⟩, i.lines.length, rfl, ?_⟩
  have hfeed : t.input.feed = ⟨i.lines, some e⟩ := by
    rw [Input.feed_of_fails hfails, ← hwhole, Input.lines]
  show (severed e).Agree i.lines.length t.input.feed i.feed
  rw [hfeed, Input.feed_of_ends hends]
  exact agree_severed e i.lines

/-- Where the inputs part, the first request finds the failure, and the second one the end. -/
theorem outcome_of_parts {N : Nat} {q q' : Request} (h : Parts (severed e) N q q') :
    q.outcome = .error (.read e) ∧ q'.outcome = .error .closedDuringCheckpoint := by
  obtain ⟨hfailed, hended⟩ := h.parted
  rw [Request.outcome, Request.outcome, (Transport.exchange_of_sent h.sent).1,
    (Transport.exchange_of_sent h.sent').1, hfailed, hended]
  exact ⟨rfl, rfl⟩

/-- From where the sessions stop going together, both put out the same and make the same calls, and
    the failure stands in the place of the end. -/
theorem loop_of_severed {p : Processor σ} {state : σ} {N : Nat} {t' : Transport} (hp : p.PassesOn)
    (h : Stops (severed e) N p state t t') :
    outputOf (loop p state t).transport = outputOf (loop p state t').transport ∧
      (calls p state t).map Call.view = (calls p state t').map Call.view ∧
      ((loop p state t').outcome = .ok () →
        (loop p state t).outcome = if e.kind ∈ closingKinds then .ok () else .error (.read e)) ∧
      ((∃ q ∈ requests p state t', q.outcome = .error .closedDuringCheckpoint) →
        (loop p state t').outcome = .error .closedDuringCheckpoint ∧
          (loop p state t).outcome = .error (.read e)) ∧
      ((¬ ∃ q ∈ requests p state t', q.outcome = .error .closedDuringCheckpoint) →
        (loop p state t').outcome ≠ .ok () →
          (loop p state t).outcome = (loop p state t').outcome) := by
  cases h with
  | parted hlevel hreads hparted =>
    -- Between two messages: the verdict depends on the kind of the failure.
    obtain ⟨hfailed, hended⟩ := hparted
    obtain ⟨u, hloop, hcalls, htook⟩ := loop_of_no_line p state (congrArg Feed.lines hfailed)
    obtain ⟨u', hloop', hcalls', htook'⟩ := loop_of_no_line p state (congrArg Feed.lines hended)
    rw [hfailed] at hloop
    rw [hended] at hloop'
    rw [hloop, hloop', hcalls, hcalls', requests, hcalls']
    refine ⟨?_, rfl, ?_, ?_, ?_⟩
    · rw [outputOf_took htook, outputOf_took htook', outputOf_level hlevel]
    · intro _
      simp only [closing?, isClosing_iff]
    · rintro ⟨q, hq, -⟩
      cases hq
    · intro _ hnot
      exact absurd rfl hnot
  | parts hcalled hcalled' hview hab hq hq' hparts =>
    -- In place of an answer: the callback passes on what its request finds.
    obtain ⟨hfailed, hended⟩ := outcome_of_parts hparts
    obtain ⟨hloop, hsilent, hcalls, -⟩ := loop_of_error hp hcalled hq hfailed
    obtain ⟨hloop', hsilent', hcalls', -⟩ := loop_of_error hp hcalled' hq' hended
    rw [hloop, hloop', hcalls, hcalls']
    refine ⟨?_, ?_, ?_, ?_, ?_⟩
    · rw [outputOf_silent hsilent, outputOf_silent hsilent', outputOf_level hparts.after]
    · rw [List.map_singleton, List.map_singleton, hview]
    · intro hok
      cases hok
    · intro _
      exact ⟨rfl, rfl⟩
    · intro hnot
      refine absurd ⟨_, ?_, hended⟩ hnot
      rw [requests, hcalls', List.flatMap_singleton]
      exact hq'
  | fails hround hround' hcalls hab hexact =>
    -- Both fail before the inputs part, and the lines are equal, so with the same error.
    rw [loop_of_over hround, loop_of_over hround', calls_of_over hround, calls_of_over hround',
      requests, calls_of_over hround', view_of_alike hcalls]
    refine ⟨?_, rfl, ?_, ?_, ?_⟩
    · exact (outputOf_level hab.level).symm
    · intro hok
      cases hok
    · rintro ⟨q, hq, hclosed⟩
      exact absurd hclosed (answered_of_alike hcalls q hq)
    · intro _ _
      rw [hexact fun h => h]

/-- The failure of a read, against the end of the stream after the last whole line.

    When every callback passes errors on, both sessions put out the same and make the same calls.
    Where the end is a good end of the session, the failure is one too if its kind closes the
    stream, and otherwise the session ends with it.  Where the end leaves a request without an
    answer, the session ends with the failure, of whatever kind.  Any other error is the error of
    both sessions.  Both streams stay as they are at their last read: the one fails at every later
    read as well, and the other is at its end. -/
theorem run_of_failing (p : Processor σ) (hp : p.PassesOn) (state : σ) (t : Transport) (i : Input)
    {e : StreamFailure} (hfails : t.input.failure = some e) (hends : i.failure = none)
    (hwhole : i.pending = whole t.input.pending) :
    let failing := run p state t
    let ended := run p state { t with input := i }
    let unanswered := ∃ q ∈ requests p state { t with input := i },
      q.outcome = .error .closedDuringCheckpoint
    outputOf failing.transport = outputOf ended.transport ∧
      (calls p state t).map Call.view = (calls p state { t with input := i }).map Call.view ∧
      (ended.outcome = .ok () →
        failing.outcome = if e.kind ∈ closingKinds then .ok () else .error (.read e)) ∧
      (unanswered → ended.outcome = .error .closedDuringCheckpoint ∧
        failing.outcome = .error (.read e)) ∧
      (¬ unanswered → ended.outcome ≠ .ok () → failing.outcome = ended.outcome) := by
  intro failing ended unanswered
  obtain ⟨cs, cs', state₁, t₁, t₁', hcomes, hcomes', halike, hstops⟩ :=
    exists_stops p state (abreast_of_failing hfails hends hwhole)
  obtain ⟨houtcome, hsilent⟩ := run_of_comes hcomes
  obtain ⟨houtcome', hsilent'⟩ := run_of_comes hcomes'
  -- All requests before the place where the sessions stop going together were answered.
  have hunanswered : unanswered ↔
      ∃ q ∈ requests p state₁ t₁', q.outcome = .error .closedDuringCheckpoint := by
    show (∃ q ∈ requests p state { t with input := i }, _) ↔ _
    rw [requests, hcomes'.calls, List.flatMap_append]
    constructor
    · rintro ⟨q, hq, hclosed⟩
      rcases List.mem_append.1 hq with hq | hq
      · exact absurd hclosed (answered_of_alike halike q hq)
      · exact ⟨q, hq, hclosed⟩
    · rintro ⟨q, hq, hclosed⟩
      exact ⟨q, List.mem_append_right _ hq, hclosed⟩
  obtain ⟨houtput, hviews, hstop⟩ := loop_of_severed hp hstops
  rw [outputOf_silent hsilent, outputOf_silent hsilent', houtcome, houtcome', hunanswered]
  refine ⟨houtput, ?_, hstop⟩
  rw [hcomes.calls, hcomes'.calls, List.map_append, List.map_append, view_of_alike halike, hviews]

/-- The announcement that the shard is at its end, the beginning of another line, and then a
    failure that closes the stream. -/
def brokenOff : Transport :=
  { unanswered with input := ⟨[Transport.lineBytes shardEndedText ++ [0x7B]],
      some ⟨.connectionReset, "connection reset", .root⟩⟩ }

/-- The request waits for its answer when the stream fails, so the failure is an error, although its
    kind closes the stream. -/
theorem run_of_failing_brokenOff :
    (run careful () brokenOff).outcome =
        .error (.read ⟨.connectionReset, "connection reset", .root⟩) ∧
      outputOf (run careful () brokenOff).transport =
        outputOf (run careful () unanswered).transport := by
  obtain ⟨q, hq, hbreaks⟩ := exists_broken_unanswered (p := careful) rfl
  have hwhole : unanswered.input.pending = whole brokenOff.input.pending := by cbv
  obtain ⟨houtput, -, -, hpending, -⟩ := run_of_failing careful careful_passesOn () brokenOff
    unanswered.input rfl rfl hwhole
  exact ⟨(hpending ⟨q, hq, Request.outcome_of_breaks hbreaks⟩).2, houtput⟩

end ShardBridge.Session
