/-
  ShardBridge.Proofs.Session.Ending

  How a session ends.  The events that stop the loop are named one by one, at
  the place where they happen: `Closes` for the two that are a good end, and
  `Fails` for all others, each with the error that it gives.  A session ends
  with what stops it at the first place that is reached and does stop it
  (`Session.run_ends`).
-/
import ShardBridge.Proofs.Transport.Quiet
import ShardBridge.Session

namespace ShardBridge.Session

open Text (Utf8.decode Utf8.decodeLenient)

variable {σ : Type}

/-! ## Events -/

/-- The kinds of failure with which a stream closes. -/
def closingKinds : List StreamFailureKind :=
  [.unexpectedEof, .brokenPipe, .connectionReset, .connectionAborted]

/-- The next read finds the end of the input, or a failure that closes it. -/
def Closes (t : Transport) : Prop :=
  t.input.nextLine.1 = .ended ∨ ∃ e, t.input.nextLine.1 = .failed e ∧ e.kind ∈ closingKinds

/-- The next line is this message, and its callback ends so. -/
inductive Calls (p : Processor σ) (state : σ) (t : Transport) :
    Message → Activity.Ending σ → Prop
  | intro {line : String} {m : Message} {t₁ : Transport} {run : Transport → Activity.Ending σ}
      (hread : t.readLine = (.ok (some line), t₁)) (hm : Message.decode line = .ok m)
      (hrun : p.callback? state m = some run) :
      Calls p state t m
        (run (t₁.log .debug .bridge "dispatching" [("action", .shown m.action.name)]))

/-- The next line is handled: its callback ends well, and the status line is written. -/
inductive Handles (p : Processor σ) (state : σ) (t : Transport) : σ → Transport → Prop
  | intro {m : Message} {e : Activity.Ending σ} {t' : Transport} (hcall : Calls p state t m e)
      (hok : e.outcome = .ok ())
      (hwrite : e.transport.writeMessage (.status m.action) = (.ok (), t')) :
      Handles p state t e.state t'

/-- Where a session stands after it handled some lines. -/
inductive Reaches (p : Processor σ) : σ → Transport → σ → Transport → Prop
  | refl (state : σ) (t : Transport) : Reaches p state t state t
  | head {state state₁ state' : σ} {t t₁ t' : Transport} (h : Handles p state t state₁ t₁)
      (h' : Reaches p state₁ t₁ state' t') : Reaches p state t state' t'

/-- What stops a session with an error. -/
inductive Fails (p : Processor σ) (state : σ) (t : Transport) : SessionError → Prop
  /-- The next read fails otherwise than by closing. -/
  | read {e : StreamFailure} (h : t.input.nextLine.1 = .failed e) (hkind : e.kind ∉ closingKinds) :
      Fails p state t (.read e)
  /-- The next line is not text. -/
  | notText {bytes : List UInt8} {m : Text.Utf8.Malformation}
      (h : t.input.nextLine.1 = .line bytes) (hm : Utf8.decode bytes = .error m) :
      Fails p state t
        (.malformed ⟨String.ofList (Utf8.decodeLenient bytes), .invalidUtf8 m⟩)
  /-- The next line is no message. -/
  | undecodable {line : String} {t₁ : Transport} {m : MalformedLine}
      (hread : t.readLine = (.ok (some line), t₁)) (hm : Message.decode line = .error m) :
      Fails p state t (.malformed m)
  /-- The next line belongs into a checkpoint. -/
  | misplaced {line : String} {t₁ : Transport} {m : Message}
      (hread : t.readLine = (.ok (some line), t₁)) (hm : Message.decode line = .ok m)
      (haction : m.action = .checkpoint ∨ m.action = .status) :
      Fails p state t (.malformed ⟨line, .unexpectedAction m.action⟩)
  /-- The callback passes on what ended a handshake. -/
  | passedOn {m : Message} {e : Activity.Ending σ} {source : SessionError}
      (hcall : Calls p state t m e) (h : e.outcome = .error (.session source)) :
      Fails p state t source
  /-- The callback reports anything else. -/
  | callback {m : Message} {e : Activity.Ending σ} {source : ProcessorError}
      (hcall : Calls p state t m e) (h : e.outcome = .error source)
      (hsource : ∀ passed, source ≠ .session passed) :
      Fails p state t (.processor m.action source)
  /-- The status line cannot be written. -/
  | status {m : Message} {e : Activity.Ending σ} {t' : Transport} {failure : StreamFailure}
      (hcall : Calls p state t m e) (hok : e.outcome = .ok ())
      (hwrite : e.transport.writeMessage (.status m.action) = (.error (.write failure), t')) :
      Fails p state t (.write failure)

theorem isClosing_iff {k : StreamFailureKind} : k.isClosing = true ↔ k ∈ closingKinds := by
  cases k <;> decide

theorem callback_eq_none {p : Processor σ} {state : σ} {m : Message} :
    p.callback? state m = none ↔ m.action = .checkpoint ∨ m.action = .status := by
  cases m <;> simp [Processor.callback?, Message.action]

/-! ## One message -/

theorem nextTurn_of_line {t t₁ : Transport} {line : String}
    (h : t.readLine = (.ok (some line), t₁)) : nextTurn t = .ofLine line t₁ := by
  rw [nextTurn, h]

theorem nextTurn_of_ended {t : Transport} (h : t.input.nextLine.1 = .ended) :
    ∃ t', nextTurn t = .stop (.ok ()) t' := by
  rw [nextTurn, Transport.readLine, Transport.fetchLine, h]
  exact ⟨_, rfl⟩

theorem nextTurn_of_failed {t : Transport} {e : StreamFailure}
    (h : t.input.nextLine.1 = .failed e) :
    ∃ t', nextTurn t = .stop (if e.kind.isClosing then .ok () else .error (.read e)) t' := by
  rw [nextTurn, Transport.readLine, Transport.fetchLine, h]
  dsimp only
  split <;> exact ⟨_, rfl⟩

theorem nextTurn_of_notText {t : Transport} {bytes : List UInt8} {m : Text.Utf8.Malformation}
    (h : t.input.nextLine.1 = .line bytes) (hm : Utf8.decode bytes = .error m) :
    ∃ t', nextTurn t = .stop (.error
      (.malformed ⟨String.ofList (Utf8.decodeLenient bytes), .invalidUtf8 m⟩)) t' := by
  rw [nextTurn, Transport.readLine, Transport.fetchLine, h]
  dsimp only
  rw [Transport.receive, hm]
  exact ⟨_, rfl⟩

/-- A read finds the end, a failure, a line that is not text, or a line. -/
theorem read_cases (t : Transport) :
    t.input.nextLine.1 = .ended ∨ (∃ e, t.input.nextLine.1 = .failed e) ∨
      (∃ bytes m, t.input.nextLine.1 = .line bytes ∧ Utf8.decode bytes = .error m) ∨
      ∃ line t₁, t.readLine = (.ok (some line), t₁) := by
  cases h : t.input.nextLine.1 with
  | ended => exact .inl rfl
  | failed e => exact .inr (.inl ⟨e, rfl⟩)
  | line bytes =>
    cases hm : Utf8.decode bytes with
    | error m => exact .inr (.inr (.inl ⟨bytes, m, rfl, hm⟩))
    | ok text =>
      refine .inr (.inr (.inr ⟨String.ofList text, ?_⟩))
      rw [Transport.readLine, Transport.fetchLine, h]
      dsimp only
      rw [Transport.receive, hm]
      exact ⟨_, rfl⟩

variable {p : Processor σ} {state state' : σ} {t t' : Transport}

theorem round_of_calls {m : Message} {e : Activity.Ending σ} (h : Calls p state t m e) :
    round p state t = .ofCallback m.action e := by
  obtain ⟨hread, hm, hrun⟩ := h
  rw [round, nextTurn_of_line hread, Turn.ofLine, hm]
  dsimp only
  rw [hrun]

theorem round_of_handles (h : Handles p state t state' t') :
    round p state t = .goOn state' t' := by
  obtain ⟨hcall, hok, hwrite⟩ := h
  rw [round_of_calls hcall, Round.ofCallback, hok]
  dsimp only
  rw [hwrite]

theorem round_of_closes (h : Closes t) : ∃ t', round p state t = .over ⟨state, .ok (), t'⟩ := by
  rw [round]
  rcases h with h | ⟨e, h, hkind⟩
  · obtain ⟨t', ht'⟩ := nextTurn_of_ended h
    exact ⟨t', by rw [ht']⟩
  · obtain ⟨t', ht'⟩ := nextTurn_of_failed h
    rw [if_pos (isClosing_iff.2 hkind)] at ht'
    exact ⟨t', by rw [ht']⟩

theorem round_of_fails {e : SessionError} (h : Fails p state t e) :
    ∃ state' t', round p state t = .over ⟨state', .error e, t'⟩ := by
  cases h with
  | read h hkind =>
    obtain ⟨t', ht'⟩ := nextTurn_of_failed h
    rw [if_neg (fun hclosing => hkind (isClosing_iff.1 hclosing))] at ht'
    exact ⟨state, t', by rw [round, ht']⟩
  | notText h hm =>
    obtain ⟨t', ht'⟩ := nextTurn_of_notText h hm
    exact ⟨state, t', by rw [round, ht']⟩
  | @undecodable _ t₁ _ hread hm =>
    refine ⟨state, t₁, ?_⟩
    rw [round, nextTurn_of_line hread, Turn.ofLine, hm]
  | @misplaced _ t₁ m hread hm haction =>
    refine ⟨state, t₁.log .debug .bridge "dispatching" [("action", .shown m.action.name)], ?_⟩
    rw [round, nextTurn_of_line hread, Turn.ofLine, hm]
    dsimp only
    rw [callback_eq_none.2 haction]
  | @passedOn _ ending _ hcall h =>
    refine ⟨ending.state, ending.transport, ?_⟩
    rw [round_of_calls hcall, Round.ofCallback, h]
    rfl
  | @callback _ ending _ hcall h hsource =>
    refine ⟨ending.state, ending.transport, ?_⟩
    rw [round_of_calls hcall, Round.ofCallback, h]
    dsimp only
    rw [SessionError.ofProcessor]
    · exact hsource
  | @status _ ending t' _ hcall hok hwrite =>
    refine ⟨ending.state, t', ?_⟩
    rw [round_of_calls hcall, Round.ofCallback, hok]
    dsimp only
    rw [hwrite]

/-- Something always happens: the session closes, fails, or handles a line. -/
theorem round_cases (p : Processor σ) (state : σ) (t : Transport) :
    Closes t ∨ (∃ e, Fails p state t e) ∨ ∃ state' t', Handles p state t state' t' := by
  rcases read_cases t with h | ⟨e, h⟩ | ⟨bytes, m, h, hm⟩ | ⟨line, t₁, hread⟩
  · exact .inl (.inl h)
  · by_cases hkind : e.kind ∈ closingKinds
    · exact .inl (.inr ⟨e, h, hkind⟩)
    · exact .inr (.inl ⟨_, .read h hkind⟩)
  · exact .inr (.inl ⟨_, .notText h hm⟩)
  · cases hm : Message.decode line with
    | error m => exact .inr (.inl ⟨_, .undecodable hread hm⟩)
    | ok m =>
      -- Only a checkpoint and a status have no callback.
      cases hrun : p.callback? state m with
      | none => exact .inr (.inl ⟨_, .misplaced hread hm (callback_eq_none.1 hrun)⟩)
      | some run =>
        have hcall := Calls.intro hread hm hrun
        -- What follows goes by how the callback ended.
        generalize run (t₁.log .debug .bridge "dispatching"
          [("action", .shown m.action.name)]) = e at hcall
        cases hout : e.outcome with
        | error source =>
          -- What ended a handshake comes out as it is, everything else with the kind.
          by_cases hsource : ∃ passed, source = .session passed
          · obtain ⟨passed, rfl⟩ := hsource
            exact .inr (.inl ⟨_, .passedOn hcall hout⟩)
          · refine .inr (.inl ⟨_, .callback hcall hout fun passed heq => ?_⟩)
            exact hsource ⟨passed, heq⟩
        | ok _ =>
          rcases hwrite : e.transport.writeMessage (.status m.action) with ⟨_ | _, t'⟩
          · obtain ⟨failure, rfl⟩ := Transport.writeMessage_error hwrite
            exact .inr (.inl ⟨_, .status hcall hout hwrite⟩)
          · exact .inr (.inr ⟨_, _, .intro hcall hout hwrite⟩)

/-! ## The loop -/

theorem loop_of_handles (h : Handles p state t state' t') : loop p state t = loop p state' t' := by
  rw [loop]
  split
  · next heq =>
    rw [round_of_handles h] at heq
    cases heq
  · next heq =>
    rw [round_of_handles h] at heq
    obtain ⟨rfl, rfl⟩ := Round.goOn.inj heq
    rfl

theorem loop_of_over {e : Ending σ} (h : round p state t = .over e) : loop p state t = e := by
  rw [loop]
  split
  · next heq =>
    rw [h] at heq
    exact (Round.over.inj heq).symm
  · next heq =>
    rw [h] at heq
    cases heq

theorem loop_of_reaches (h : Reaches p state t state' t') :
    loop p state t = loop p state' t' := by
  induction h with
  | refl state t => rfl
  | head h _ ih => exact (loop_of_handles h).trans ih

/-- Some place is reached at which the session stops. -/
theorem exists_stop (p : Processor σ) (state : σ) (t : Transport) :
    ∃ state' t', Reaches p state t state' t' ∧ (Closes t' ∨ ∃ e, Fails p state' t' e) := by
  -- Every line that is handled takes bytes from the input.
  induction hn : t.input.pending.length using Nat.strongRecOn generalizing state t with
  | _ n ih =>
    rcases round_cases p state t with h | h | ⟨state₁, t₁, h⟩
    · exact ⟨state, t, .refl state t, .inl h⟩
    · exact ⟨state, t, .refl state t, .inr h⟩
    · have hlt := length_pending_of_round (round_of_handles h)
      obtain ⟨state', t', hreach, hstop⟩ := ih _ (hn ▸ hlt) state₁ t₁ rfl
      exact ⟨state', t', .head h hreach, hstop⟩

theorem loop_outcome_of_closes (h : Reaches p state t state' t') (hcloses : Closes t') :
    (loop p state t).outcome = .ok () := by
  obtain ⟨t'', hround⟩ := @round_of_closes _ p state' _ hcloses
  rw [loop_of_reaches h, loop_of_over hround]

theorem loop_outcome_of_fails {e : SessionError} (h : Reaches p state t state' t')
    (hfails : Fails p state' t' e) : (loop p state t).outcome = .error e := by
  obtain ⟨state'', t'', hround⟩ := round_of_fails hfails
  rw [loop_of_reaches h, loop_of_over hround]

theorem loop_outcome_ok_iff : (loop p state t).outcome = .ok () ↔
    ∃ state' t', Reaches p state t state' t' ∧ Closes t' := by
  constructor
  · intro hok
    obtain ⟨state', t', hreach, hcloses | ⟨e, hfails⟩⟩ := exists_stop p state t
    · exact ⟨state', t', hreach, hcloses⟩
    · rw [loop_outcome_of_fails hreach hfails] at hok
      cases hok
  · rintro ⟨state', t', hreach, hcloses⟩
    exact loop_outcome_of_closes hreach hcloses

theorem loop_outcome_error_iff {e : SessionError} : (loop p state t).outcome = .error e ↔
    ∃ state' t', Reaches p state t state' t' ∧ Fails p state' t' e := by
  constructor
  · intro herror
    obtain ⟨state', t', hreach, hcloses | ⟨e', hfails⟩⟩ := exists_stop p state t
    · rw [loop_outcome_of_closes hreach hcloses] at herror
      cases herror
    · rw [loop_outcome_of_fails hreach hfails] at herror
      obtain rfl := Except.error.inj herror
      exact ⟨state', t', hreach, hfails⟩
  · rintro ⟨state', t', hreach, hfails⟩
    exact loop_outcome_of_fails hreach hfails

/-! ## What every step keeps -/

open Transport (Frame Quiet Wrote)

/-- The handle after a turn. -/
def Turn.transport : Turn → Transport
  | .stop _ t => t
  | .handle _ _ t => t

/-- The handle after a round. -/
def Round.transport : Round σ → Transport
  | .over e => e.transport
  | .goOn _ t => t

section Keeps

variable {R : Transport → Transport → Prop}

theorem keeps_nextTurn (F : Frame R) (t : Transport) : R t (nextTurn t).transport := by
  have hread := F.readLine t
  rw [nextTurn]
  split
  · next heq =>
    rw [heq] at hread
    exact F.trans hread (F.log _ _ _ _ _)
  · next heq =>
    rw [heq] at hread
    split
    · exact F.trans hread (F.log _ _ _ _ _)
    · exact hread
  · next heq =>
    rw [heq] at hread
    exact hread
  · next heq =>
    rw [heq] at hread
    rw [Turn.ofLine]
    split
    · exact hread
    · exact F.trans hread (F.log _ _ _ _ _)

theorem Round.keeps_ofCallback (F : Frame R) (action : Action) (e : Activity.Ending σ) :
    R e.transport (ofCallback action e).transport := by
  have hwrite := F.writeMessage (.status action) e.transport
  rw [ofCallback]
  split
  · exact F.refl _
  · split <;> next heq => rw [heq] at hwrite; exact hwrite

theorem keeps_round (F : Frame R) (p : Processor σ) (state : σ) (t : Transport) :
    R t (round p state t).transport := by
  have hturn := keeps_nextTurn F t
  rw [round]
  split
  · next heq =>
    rw [heq] at hturn
    exact hturn
  · next line m t₁ heq =>
    rw [heq] at hturn
    split
    · exact hturn
    · next run hrun =>
      exact F.trans (F.trans hturn (F.callback hrun t₁)) (Round.keeps_ofCallback F _ _)

theorem keeps_loop (F : Frame R) (p : Processor σ) (state : σ) (t : Transport) :
    R t (loop p state t).transport := by
  fun_induction loop p state t with
  | case1 state t e h =>
    have hround := keeps_round F p state t
    rw [h] at hround
    exact hround
  | case2 state t state' t' h _ ih =>
    have hround := keeps_round F p state t
    rw [h] at hround
    exact F.trans hround ih

/-- What remarks and bytes to the diagnostics keep, the report on an error keeps. -/
theorem keeps_terminate (htrans : ∀ {t t' t''}, R t t' → R t' t'' → R t t'')
    (hlog : ∀ level subject message fields t, R t (Transport.log t level subject message fields))
    (hwrote : ∀ {t t' bytes}, Wrote .diagnostics t t' bytes → R t t') (e : SessionError)
    (t : Transport) : R t (terminate e t) := by
  have hsaid := hlog .error .bridge "bridge terminated" [("error", .shown (e.message t.locate))] t
  obtain ⟨done, hdone, -, -⟩ := Transport.writeDiagnostics_wrote (e.report t.locate)
    (t.log .error .bridge "bridge terminated" [("error", .shown (e.message t.locate))])
  have hreport : R t ((t.log .error .bridge "bridge terminated"
      [("error", .shown (e.message t.locate))]).report e).2 :=
    htrans hsaid (hwrote hdone)
  -- A report that breaks off leaves one more remark in the log.
  rw [terminate]
  split
  · next heq =>
    rw [heq] at hreport
    exact hreport
  · next heq =>
    rw [heq] at hreport
    exact htrans hreport (hlog _ _ _ _ _)

end Keeps

/-! ## Diagnostics -/

/-- The loop says nothing on the diagnostics. -/
theorem quiet_loop (p : Processor σ) (state : σ) (t : Transport) :
    Quiet t (loop p state t).transport :=
  keeps_loop Transport.frame_quiet p state t

/-- The bytes of the report on an outcome; there is none on a good one. -/
def reportBytes (locate : Locator) : Except SessionError Unit → List UInt8
  | .ok () => []
  | .error e => Transport.diagnosticBytes (e.report locate)

theorem terminate_wrote (e : SessionError) (t : Transport) :
    ∃ done, Journal.bytes .diagnostics (terminate e t).journal.toList =
        Journal.bytes .diagnostics t.journal.toList ++ done ∧
      done <+: Transport.diagnosticBytes (e.report t.locate) ∧
      (t.diagnostics.policy.Healthy → done = Transport.diagnosticBytes (e.report t.locate)) := by
  have hlog := @Transport.quiet_log t .error .bridge "bridge terminated"
    [("error", .shown (e.message t.locate))]
  obtain ⟨done, hdone, hprefix, hall⟩ := Transport.writeDiagnostics_wrote (e.report t.locate)
    (t.log .error .bridge "bridge terminated" [("error", .shown (e.message t.locate))])
  obtain ⟨es, hes, -, hbytes⟩ := hdone.journal
  rw [hlog.sink] at hall
  refine ⟨done, ?_, hprefix, hall⟩
  have hjournal : Journal.bytes .diagnostics ((t.log .error .bridge "bridge terminated"
      [("error", .shown (e.message t.locate))]).writeDiagnostics
        (e.report t.locate)).2.journal.toList =
      Journal.bytes .diagnostics t.journal.toList ++ done := by
    rw [hes, Journal.bytes_append, hlog.bytes, hbytes]
  -- A report that breaks off is only logged.
  rw [terminate, Transport.report, hlog.locate]
  split
  · next heq =>
    rw [heq] at hjournal
    exact hjournal
  · next heq =>
    rw [heq] at hjournal
    exact (Transport.quiet_log _ _ _ _).bytes.trans hjournal

theorem outcome_run : (run p state t).outcome = (loop p state t).outcome := by
  rw [run]
  split <;> rfl

theorem state_run : (run p state t).state = (loop p state t).state := by
  rw [run]
  split <;> rfl

/-- A session ends well exactly when, between messages, the input ends or closes.  Otherwise it
    ends with the error of what stopped it: of the read, of the line, of the callback or of the
    status line.  A good end leaves nothing on the diagnostics, and an error its report: as far as
    the stream takes it, and all of it if the stream is healthy.

    The input may deliver its bytes and stop as it likes; once it failed it goes on to fail, also
    for a callback that reads again, and so for its end. -/
theorem run_ends (p : Processor σ) (state : σ) (t : Transport) :
    ((run p state t).outcome = .ok () ↔
      ∃ state' t', Reaches p state t state' t' ∧ Closes t') ∧
    (∀ e, (run p state t).outcome = .error e ↔
      ∃ state' t', Reaches p state t state' t' ∧ Fails p state' t' e) ∧
    ∃ done, Journal.bytes .diagnostics (run p state t).transport.journal.toList =
        Journal.bytes .diagnostics t.journal.toList ++ done ∧
      done <+: reportBytes t.locate (run p state t).outcome ∧
      (t.diagnostics.policy.Healthy → done = reportBytes t.locate (run p state t).outcome) := by
  refine ⟨?_, fun e => ?_, ?_⟩
  · rw [outcome_run]
    exact loop_outcome_ok_iff
  · rw [outcome_run]
    exact loop_outcome_error_iff
  · have hloop := quiet_loop p state t
    rw [outcome_run, run]
    split
    · next h =>
      refine ⟨[], ?_, List.nil_prefix, fun _ => ?_⟩
      · rw [hloop.bytes, List.append_nil]
      · rw [h]
        rfl
    · next e h =>
      obtain ⟨done, hjournal, hprefix, hall⟩ := terminate_wrote e (loop p state t).transport
      rw [hloop.bytes] at hjournal
      rw [hloop.sink, hloop.locate] at hall
      rw [hloop.locate] at hprefix
      rw [h]
      exact ⟨done, hjournal, hprefix, hall⟩

/-- A processor that has nothing to say to any message. -/
def idle : Processor Unit where
  start := fun _ _ => .done ()
  processRecords := fun _ _ => .done ()
  leaseLost := fun _ => .done ()
  shardEnded := fun _ => .done ()

/-- Streams of which the input is a single line that is no message, from its first character on. -/
def garbled : Transport where
  input := .ofBytes [0x78, 0x0A]
  output := .healthy
  diagnostics := .healthy
  locate := fun _ => some ⟨1, 1⟩

/-- The line ends the session with an error, and the report on it is all that is diagnosed. -/
theorem run_ends_garbled :
    (run idle () garbled).outcome =
        .error (.malformed ⟨"x", .invalidJson (.fault .expectedValue)⟩) ∧
      Journal.bytes .diagnostics (run idle () garbled).transport.journal.toList =
        reportBytes (fun _ => some ⟨1, 1⟩) (run idle () garbled).outcome := by
  obtain ⟨-, herror, done, hjournal, -, hall⟩ := run_ends idle () garbled
  have hread : garbled.readLine = (.ok (some "x"), garbled.readLine.2) := Prod.ext (by cbv) rfl
  have hline : Message.decode "x" = .error ⟨"x", .invalidJson (.fault .expectedValue)⟩ := by cbv
  refine ⟨(herror _).2 ⟨(), garbled, .refl () garbled, .undecodable hread hline⟩, ?_⟩
  rw [hjournal, hall Sink.healthy_healthy]
  exact List.nil_append _

end ShardBridge.Session
