/-
  ShardBridge.Proofs.Session.Transcript

  The transcript of a session.  Over streams that do not fail, a session is a
  row of blocks, one for each message that is handled: the line of the message,
  the handshakes of its callback, and the status line.  The lines of the input
  alone say which blocks there are (`Course`), and what passes between session
  and daemon are the signals of these blocks (`run_transcript`).
-/
import ShardBridge.Proofs.Session.Dialogue
import ShardBridge.Proofs.Session.Ending

namespace ShardBridge

open Transport (Passes Reliable textOf readOf messageBytes)

/-! ## Blocks -/

/-- A message that was handled. -/
structure Block where
  /-- The line of the message. -/
  line : Line
  message : Message
  /-- What its callback asked for, in the order of the calls. -/
  handshakes : List Handshake
  /-- How its callback came out. -/
  outcome : Except ProcessorError Unit

namespace Block

/-- The callback came out well. -/
def isAnswered (b : Block) : Bool :=
  match b.outcome with
  | .ok () => true
  | .error _ => false

/-- The status line, which names the kind of the message itself. -/
def status (b : Block) : List UInt8 :=
  if b.isAnswered then messageBytes (.status b.message.action) else []

/-- The output of a block: its requests, and then its status line. -/
def output (b : Block) : List UInt8 := b.handshakes.flatMap Handshake.output ++ b.status

/-- What passes in a block. Each answer is read right after its request. -/
def signals (b : Block) : List Signal :=
  .read :: b.handshakes.flatMap Handshake.signals ++ b.status.map .byte

/-- The lines that a block takes. -/
def lines (b : Block) : List Line := b.line :: b.handshakes.flatMap fun h => h.answer.toList

end Block

theorem Handshake.output_eq (h : Handshake) : h.signals.filterMap Signal.byte? = h.output := by
  rw [signals, List.filterMap_append, Signal.filterMap_byte]
  exact List.append_nil _

theorem Block.output_eq (b : Block) : b.signals.filterMap Signal.byte? = b.output := by
  have hrequests : (b.handshakes.flatMap Handshake.signals).filterMap Signal.byte? =
      b.handshakes.flatMap Handshake.output := by
    rw [List.filterMap_flatMap]
    exact List.flatMap_congr fun h _ => h.output_eq
  show (Signal.read :: (b.handshakes.flatMap Handshake.signals ++ _)).filterMap _ = _
  rw [List.filterMap_cons_none rfl, List.filterMap_append, hrequests, Signal.filterMap_byte]
  rfl

theorem Block.signals_of_error {b : Block} {source : ProcessorError}
    (h : b.outcome = .error source) :
    b.signals = .read :: b.handshakes.flatMap Handshake.signals := by
  have hno : b.isAnswered = false := by rw [isAnswered, h]
  rw [signals, status, hno]
  exact List.append_nil _

theorem Block.signals_of_ok {b : Block} (h : b.outcome = .ok ()) :
    b.signals = .read :: b.handshakes.flatMap Handshake.signals ++
      (messageBytes (.status b.message.action)).map .byte := by
  have hyes : b.isAnswered = true := by rw [isAnswered, h]
  rw [signals, status, if_pos hyes]

/-- What became of the lines of an input. -/
structure Transcript where
  blocks : List Block
  /-- The line that ended the session, if a line did. -/
  offending : Option Line
  /-- The lines that were never read. -/
  unread : List Line
  outcome : Except SessionError Unit

namespace Transcript

/-- The output of a session. -/
def output (s : Transcript) : List UInt8 := s.blocks.flatMap Block.output

/-- What passes in a session. If every message was answered, one more read follows: the one that
    finds the end of the input, or the line that ends the session. -/
def signals (s : Transcript) : List Signal :=
  s.blocks.flatMap Block.signals ++ if s.blocks.all Block.isAnswered then [.read] else []

/-- Every line, in the order in which it was read, and those that were not. -/
def lines (s : Transcript) : List Line :=
  s.blocks.flatMap Block.lines ++ s.offending.toList ++ s.unread

theorem output_eq (s : Transcript) : s.signals.filterMap Signal.byte? = s.output := by
  have hlast : (if s.blocks.all Block.isAnswered then [Signal.read] else []).filterMap
      Signal.byte? = [] := by
    split <;> rfl
  rw [signals, List.filterMap_append, hlast, List.append_nil, List.filterMap_flatMap]
  exact List.flatMap_congr fun b _ => b.output_eq

/-- The transcript with a block before it. -/
def after (b : Block) (s : Transcript) : Transcript := { s with blocks := b :: s.blocks }

theorem signals_after {b : Block} (h : b.outcome = .ok ()) (s : Transcript) :
    (s.after b).signals = b.signals ++ s.signals := by
  have hyes : b.isAnswered = true := by rw [Block.isAnswered, h]
  rw [signals, signals, after, List.flatMap_cons, List.all_cons, hyes, Bool.true_and,
    List.append_assoc]

theorem signals_of_failed {b : Block} {unread : List Line} {source : ProcessorError}
    {outcome : Except SessionError Unit} (h : b.outcome = .error source) :
    signals ⟨[b], none, unread, outcome⟩ = b.signals := by
  have hno : b.isAnswered = false := by rw [Block.isAnswered, h]
  rw [signals, List.flatMap_singleton, List.all_cons, hno]
  exact List.append_nil _

end Transcript

/-! ## The course of a session -/

namespace Session

variable {σ : Type}

/-- The first of the lines is a message for the processor; the block is what its callback makes of
    the lines after it, and the state and the lines are what the callback leaves. -/
inductive Opens (p : Processor σ) (state : σ) : List Line → Block → σ → List Line → Prop
  | intro {line : Line} {rest : List Line} {m : Message}
      {talk : List Line → Dialogue (σ × Except ProcessorError Unit)}
      (hm : Message.ofLine line = .ok m) (htalk : p.talk? state m = some talk) :
      Opens p state (line :: rest)
        ⟨line, m, (talk rest).handshakes, (talk rest).result.2⟩ (talk rest).result.1
        (talk rest).unread

/-- What a session makes of lines. -/
inductive Course (p : Processor σ) : σ → List Line → Transcript → Prop
  /-- There are none left. -/
  | ended (state : σ) : Course p state [] ⟨[], none, [], .ok ()⟩
  | undecodable {state : σ} {line : Line} {rest : List Line} {m : MalformedLine}
      (hm : Message.ofLine line = .error m) :
      Course p state (line :: rest) ⟨[], some line, rest, .error (.malformed m)⟩
  /-- A checkpoint or a status has no place between messages. -/
  | misplaced {state : σ} {line : Line} {rest : List Line} {text : String} {m : Message}
      (htext : textOf line = .ok text) (hm : Message.decode text = .ok m)
      (haction : m.action = .checkpoint ∨ m.action = .status) :
      Course p state (line :: rest)
        ⟨[], some line, rest, .error (.malformed ⟨text, .unexpectedAction m.action⟩)⟩
  /-- The callback fails, and its message is not answered. -/
  | failed {state state' : σ} {lines unread : List Line} {b : Block} {source : ProcessorError}
      (h : Opens p state lines b state' unread) (hsource : b.outcome = .error source) :
      Course p state lines
        ⟨[b], none, unread, .error (.ofProcessor b.message.action source)⟩
  /-- The message is handled, and the session goes on with what its callback left. -/
  | handled {state state' : σ} {lines unread : List Line} {b : Block} {s : Transcript}
      (h : Opens p state lines b state' unread) (hok : b.outcome = .ok ())
      (hrest : Course p state' unread s) : Course p state lines (s.after b)

variable {p : Processor σ} {state state' : σ} {lines unread : List Line} {b : Block}
  {s : Transcript}

theorem Opens.lines_eq (h : Opens p state lines b state' unread) : lines = b.lines ++ unread := by
  obtain ⟨-, htalk⟩ := h
  exact congrArg (_ :: ·) (Processor.conserves_talk htalk _)

theorem Opens.message_eq (h : Opens p state lines b state' unread) :
    Message.ofLine b.line = .ok b.message := by
  obtain ⟨hm, -⟩ := h
  exact hm

theorem Opens.handshakes_of_withheld (h : Opens p state lines b state' unread)
    (hm : b.message.Withheld) : b.handshakes = [] := by
  obtain ⟨-, htalk⟩ := h
  exact Processor.handshakes_of_withheld htalk hm _

theorem Opens.unique {b' : Block} {state'' : σ} {unread' : List Line}
    (h : Opens p state lines b state' unread) (h' : Opens p state lines b' state'' unread') :
    b' = b ∧ state'' = state' ∧ unread' = unread := by
  obtain ⟨hm, htalk⟩ := h
  obtain ⟨hm', htalk'⟩ := h'
  obtain rfl := Except.ok.inj (hm'.symm.trans hm)
  obtain rfl := Option.some.inj (htalk'.symm.trans htalk)
  exact ⟨rfl, rfl, rfl⟩

/-- The line is no message for the processor. -/
def Offends (line : Line) : Prop :=
  (∃ m, Message.ofLine line = .error m) ∨
    ∃ m, Message.ofLine line = .ok m ∧ (m.action = .checkpoint ∨ m.action = .status)

theorem Opens.not_offends {line : Line} {rest : List Line}
    (h : Opens p state (line :: rest) b state' unread) : ¬Offends line := by
  obtain ⟨hm, htalk⟩ := h
  rintro (⟨m, herror⟩ | ⟨m, hok, haction⟩)
  · rw [hm] at herror
    cases herror
  · obtain rfl := Except.ok.inj (hok.symm.trans hm)
    rw [Processor.callback_none_iff.1 (callback_eq_none.2 haction)] at htalk
    cases htalk

/-- The lines leave no choice. -/
theorem Course.unique {s' : Transcript} (h : Course p state lines s)
    (h' : Course p state lines s') : s' = s := by
  -- No line is a message for the processor and offends as well, so both take the same way.
  induction h generalizing s' with
  | ended state =>
    cases h' with
    | ended state => rfl
    | failed h hsource => cases h
    | handled h hok hrest => cases h
  | undecodable hm =>
    cases h' with
    | undecodable hm' =>
      obtain rfl := Except.error.inj (hm'.symm.trans hm)
      rfl
    | misplaced htext hm' haction =>
      rw [Message.ofLine_of_text htext, hm'] at hm
      cases hm
    | failed h hsource => exact absurd (.inl ⟨_, hm⟩) h.not_offends
    | handled h hok hrest => exact absurd (.inl ⟨_, hm⟩) h.not_offends
  | misplaced htext hm haction =>
    cases h' with
    | undecodable hm' =>
      rw [Message.ofLine_of_text htext, hm] at hm'
      cases hm'
    | misplaced htext' hm' haction' =>
      obtain rfl := Except.ok.inj (htext'.symm.trans htext)
      obtain rfl := Except.ok.inj (hm'.symm.trans hm)
      rfl
    | failed h hsource =>
      exact absurd (.inr ⟨_, (Message.ofLine_of_text htext).trans hm, haction⟩) h.not_offends
    | handled h hok hrest =>
      exact absurd (.inr ⟨_, (Message.ofLine_of_text htext).trans hm, haction⟩) h.not_offends
  | failed h hsource =>
    cases h' with
    | ended state => cases h
    | undecodable hm => exact absurd (.inl ⟨_, hm⟩) h.not_offends
    | misplaced htext hm haction =>
      exact absurd (.inr ⟨_, (Message.ofLine_of_text htext).trans hm, haction⟩) h.not_offends
    | failed h' hsource' =>
      obtain ⟨rfl, -, rfl⟩ := h.unique h'
      rw [hsource] at hsource'
      obtain rfl := Except.error.inj hsource'
      rfl
    | handled h' hok hrest =>
      obtain ⟨rfl, -, -⟩ := h.unique h'
      rw [hsource] at hok
      cases hok
  | handled h hok hrest ih =>
    cases h' with
    | ended state => cases h
    | undecodable hm => exact absurd (.inl ⟨_, hm⟩) h.not_offends
    | misplaced htext hm haction =>
      exact absurd (.inr ⟨_, (Message.ofLine_of_text htext).trans hm, haction⟩) h.not_offends
    | failed h' hsource =>
      obtain ⟨rfl, -, -⟩ := h.unique h'
      rw [hsource] at hok
      cases hok
    | handled h' hok' hrest' =>
      obtain ⟨rfl, rfl, rfl⟩ := h.unique h'
      rw [ih hrest']

/-- Every line is used once and in its order, or left. -/
theorem Course.lines_eq (h : Course p state lines s) : lines = s.lines := by
  induction h with
  | ended state => rfl
  | undecodable hm => rfl
  | misplaced htext hm haction => rfl
  | @failed _ _ _ unread b _ h hsource =>
    rw [h.lines_eq]
    simp [Transcript.lines]
  | @handled _ _ _ unread b s h hok hrest ih =>
    rw [h.lines_eq, ih]
    simp [Transcript.lines, Transcript.after]

theorem Course.opens_of_mem (h : Course p state lines s) (hb : b ∈ s.blocks) :
    ∃ state lines state' unread, Opens p state lines b state' unread := by
  induction h with
  | ended state => cases hb
  | undecodable hm => cases hb
  | misplaced htext hm haction => cases hb
  | failed h hsource =>
    obtain rfl := List.mem_singleton.1 hb
    exact ⟨_, _, _, _, h⟩
  | handled h hok hrest ih =>
    rcases List.mem_cons.1 hb with rfl | hb
    · exact ⟨_, _, _, _, h⟩
    · exact ih hb

theorem Course.outcome_of_mem_dropLast (h : Course p state lines s)
    (hb : b ∈ s.blocks.dropLast) : b.outcome = .ok () := by
  induction h with
  | ended state => cases hb
  | undecodable hm => cases hb
  | misplaced htext hm haction => cases hb
  | failed h hsource => cases hb
  | @handled _ _ _ _ b' s h hok hrest ih =>
    have hb : b ∈ (b' :: s.blocks).dropLast := hb
    -- The first block is the last one too when no other follows.
    by_cases hne : s.blocks = []
    · rw [hne] at hb
      cases hb
    · rw [List.dropLast_cons_of_ne_nil hne] at hb
      rcases List.mem_cons.1 hb with rfl | hb
      · exact hok
      · exact ih hb

theorem Course.offending_eq (h : Course p state lines s) {line : Line}
    (hline : s.offending = some line) :
    Offends line ∧ (∀ b ∈ s.blocks, b.outcome = .ok ()) ∧ ∃ e, s.outcome = .error e := by
  induction h with
  | ended state => cases hline
  | undecodable hm =>
    obtain rfl := Option.some.inj hline
    exact ⟨.inl ⟨_, hm⟩, List.forall_mem_nil _, _, rfl⟩
  | @misplaced _ _ _ text m htext hm haction =>
    obtain rfl := Option.some.inj hline
    exact ⟨.inr ⟨m, (Message.ofLine_of_text htext).trans hm, haction⟩, List.forall_mem_nil _, _,
      rfl⟩
  | failed h hsource => cases hline
  | handled h hok hrest ih =>
    obtain ⟨hoffends, hall, he⟩ := ih hline
    refine ⟨hoffends, fun b hb => ?_, he⟩
    rcases List.mem_cons.1 hb with rfl | hb
    · exact hok
    · exact hall b hb

/-! ## One message -/

variable {t t' : Transport}

/-- At the end of the input there is nothing to handle. -/
theorem nextTurn_of_no_lines (h : t.Reliable) (hlines : t.input.lines = []) :
    ∃ t', nextTurn t = .stop (.ok ()) t' ∧ Passes t t' [.read] [] := by
  obtain ⟨hresult, hpasses⟩ := Transport.readLine_passes h
  rw [hlines] at hresult hpasses
  have hread : t.readLine = (.ok none, t.readLine.2) := Prod.ext hresult rfl
  have hlog := Transport.passes_log .info .bridge "input closed, stopping" [] hpasses.reliable
  rw [hpasses.unread] at hlog
  refine ⟨_, ?_, hpasses.trans hlog⟩
  rw [nextTurn, hread]

theorem nextTurn_of_undecodable {line : Line} {rest : List Line} {m : MalformedLine}
    (h : t.Reliable) (hlines : t.input.lines = line :: rest) (hm : Message.ofLine line = .error m) :
    ∃ t', nextTurn t = .stop (.error (.malformed m)) t' ∧ Passes t t' [.read] rest := by
  obtain ⟨hresult, hpasses⟩ := Transport.readLine_passes h
  rw [hlines] at hresult hpasses
  refine ⟨t.readLine.2, ?_, hpasses⟩
  rw [readOf] at hresult
  -- Either the bytes are no text, or the text is no message.
  cases htext : textOf line with
  | error m' =>
    rw [htext] at hresult
    rw [Message.ofLine_of_error htext] at hm
    obtain rfl := Except.error.inj hm
    have hread : t.readLine = (.error (.malformed m'), t.readLine.2) := Prod.ext hresult rfl
    rw [nextTurn, hread]
  | ok text =>
    rw [htext] at hresult
    rw [Message.ofLine_of_text htext] at hm
    have hread : t.readLine = (.ok (some text), t.readLine.2) := Prod.ext hresult rfl
    rw [nextTurn_of_line hread, Turn.ofLine, hm]

theorem nextTurn_of_message {line : Line} {rest : List Line} {m : Message} (h : t.Reliable)
    (hlines : t.input.lines = line :: rest) (hm : Message.ofLine line = .ok m) :
    ∃ text t', nextTurn t = .handle text m t' ∧ textOf line = .ok text ∧
      Message.decode text = .ok m ∧ Passes t t' [.read] rest := by
  obtain ⟨hresult, hpasses⟩ := Transport.readLine_passes h
  rw [hlines] at hresult hpasses
  rw [readOf] at hresult
  cases htext : textOf line with
  | error m' =>
    rw [Message.ofLine_of_error htext] at hm
    cases hm
  | ok text =>
    rw [htext] at hresult
    rw [Message.ofLine_of_text htext] at hm
    have hread : t.readLine = (.ok (some text), t.readLine.2) := Prod.ext hresult rfl
    have hlog := Transport.passes_log .debug .bridge "dispatching"
      [("action", .shown m.action.name)] hpasses.reliable
    rw [hpasses.unread] at hlog
    refine ⟨text, _, ?_, rfl, hm, hpasses.trans hlog⟩
    rw [nextTurn_of_line hread, Turn.ofLine, hm]

theorem Round.ofCallback_eq_over {action : Action} {e : Activity.Ending σ}
    {source : ProcessorError} (h : e.outcome = .error source) :
    ofCallback action e = .over ⟨e.state, .error (.ofProcessor action source), e.transport⟩ := by
  rw [ofCallback, h]

theorem Round.ofCallback_eq_goOn {action : Action} {e : Activity.Ending σ}
    (h : e.outcome = .ok ()) (hwrite : (e.transport.writeMessage (.status action)).1 = .ok ()) :
    ofCallback action e = .goOn e.state (e.transport.writeMessage (.status action)).2 := by
  rw [ofCallback, h]
  dsimp only
  split
  · next heq => rw [heq] at hwrite; cases hwrite
  · next heq => rw [heq]

theorem Round.ofCallback_of_unwritten {action : Action} {e : Activity.Ending σ}
    {failure : SessionError} (h : e.outcome = .ok ())
    (hwrite : (e.transport.writeMessage (.status action)).1 = .error failure) :
    ofCallback action e =
      .over ⟨e.state, .error failure, (e.transport.writeMessage (.status action)).2⟩ := by
  rw [ofCallback, h]
  dsimp only
  split
  · next heq =>
    rw [heq] at hwrite
    obtain rfl := Except.error.inj hwrite
    rw [heq]
  · next heq => rw [heq] at hwrite; cases hwrite

/-- Either a message is handled, and its block is what passes, or the session is over, and what
    passes is its last block or the last read. -/
theorem round_course (p : Processor σ) (state : σ) (h : t.Reliable) :
    (∃ b state' t' unread, round p state t = .goOn state' t' ∧
        Opens p state t.input.lines b state' unread ∧ b.outcome = .ok () ∧
        Passes t t' b.signals unread) ∨
      ∃ s state' t', round p state t = .over ⟨state', s.outcome, t'⟩ ∧
        Course p state t.input.lines s ∧ Passes t t' s.signals s.unread := by
  cases hlines : t.input.lines with
  | nil =>
    obtain ⟨t', hturn, hpasses⟩ := nextTurn_of_no_lines h hlines
    refine .inr ⟨_, state, t', ?_, .ended state, hpasses⟩
    rw [round, hturn]
  | cons line rest =>
    cases hm : Message.ofLine line with
    | error m =>
      obtain ⟨t', hturn, hpasses⟩ := nextTurn_of_undecodable h hlines hm
      refine .inr ⟨_, state, t', ?_, .undecodable hm, hpasses⟩
      rw [round, hturn]
    | ok m =>
      obtain ⟨text, t₁, hturn, htext, hdecode, hpasses⟩ := nextTurn_of_message h hlines hm
      cases hrun : p.callback? state m with
      | none =>
        refine .inr ⟨_, state, t₁, ?_, .misplaced htext hdecode (callback_eq_none.1 hrun), hpasses⟩
        rw [round, hturn]
        dsimp only
        rw [hrun]
      | some run =>
        have hround : round p state t = .ofCallback m.action (run t₁) := by
          rw [round, hturn]
          dsimp only
          rw [hrun]
        -- The callback finds the lines after its own, and follows its dialogue over them.
        obtain ⟨talk, htalk, htold⟩ := Processor.callback_describes hrun hpasses.reliable
        rw [hpasses.unread] at htold
        have hcalled := hpasses.trans htold.passes
        have hopens : Opens p state (line :: rest) _ _ _ := .intro hm htalk
        rw [← htold.result] at hopens
        rw [hround]
        cases hout : (run t₁).outcome with
        | error source =>
          rw [hout] at hopens
          refine .inr ⟨_, _, _, Round.ofCallback_eq_over hout, .failed hopens rfl, ?_⟩
          rw [Transcript.signals_of_failed rfl, Block.signals_of_error rfl]
          exact hcalled
        | ok _ =>
          rw [hout] at hopens
          obtain ⟨hwrite, hstatus⟩ :=
            Transport.writeMessage_passes (.status m.action) hcalled.reliable
          rw [hcalled.unread] at hstatus
          refine .inl ⟨_, _, _, _, Round.ofCallback_eq_goOn hout hwrite, hopens, rfl, ?_⟩
          rw [Block.signals_of_ok rfl]
          exact hcalled.trans hstatus

/-! ## The whole session -/

/-- The loop takes the course that the lines prescribe. -/
theorem loop_course (p : Processor σ) (state : σ) (h : t.Reliable) :
    ∃ s, Course p state t.input.lines s ∧ (loop p state t).outcome = s.outcome ∧
      Passes t (loop p state t).transport s.signals s.unread := by
  -- Each round adds its block in front, and the rest of the session finds the lines it left.
  fun_induction loop p state t with
  | case1 state t e hround =>
    rcases round_course p state h with
      ⟨b, state', t', unread, hround', -⟩ | ⟨s, state', t', hround', hcourse, hpasses⟩
    · rw [hround'] at hround
      cases hround
    · rw [hround'] at hround
      obtain rfl := Round.over.inj hround
      exact ⟨s, hcourse, rfl, hpasses⟩
  | case2 state t state' t' hround _ ih =>
    rcases round_course p state h with
      ⟨b, state₁, t₁, unread, hround', hopens, hok, hpasses⟩ | ⟨s, state₁, t₁, hround', -⟩
    · rw [hround'] at hround
      obtain ⟨rfl, rfl⟩ := Round.goOn.inj hround
      obtain ⟨s, hcourse, hout, hrest⟩ := ih hpasses.reliable
      rw [hpasses.unread] at hcourse
      refine ⟨s.after b, .handled hopens hok hcourse, hout, ?_⟩
      rw [Transcript.signals_after hok]
      exact hpasses.trans hrest
    · rw [hround'] at hround
      cases hround

/-- Reporting an error passes nothing. -/
theorem terminate_passes (e : SessionError) (h : t.Reliable) :
    Passes t (terminate e t) [] t.input.lines := by
  refine keeps_terminate (R := fun t t' => t.Reliable → Passes t t' [] t.input.lines) ?_ ?_ ?_ e t h
  · intro t t' t'' hfirst hnext ht
    have hpasses := hfirst ht
    have hrest := hnext hpasses.reliable
    rw [hpasses.unread] at hrest
    exact hpasses.trans hrest
  · exact fun _ _ _ _ _ ht => Transport.passes_log _ _ _ _ ht
  · exact fun hwrote ht => hwrote.passes_diagnostics ht

theorem run_course (p : Processor σ) (state : σ) (h : t.Reliable) :
    ∃ s, Course p state t.input.lines s ∧ (run p state t).outcome = s.outcome ∧
      Passes t (run p state t).transport s.signals s.unread := by
  obtain ⟨s, hcourse, hout, hpasses⟩ := loop_course p state h
  refine ⟨s, hcourse, outcome_run.trans hout, ?_⟩
  rw [run]
  split
  · exact hpasses
  · next e _ =>
    have hreport := hpasses.trans (terminate_passes e hpasses.reliable)
    rw [hpasses.unread, List.append_nil] at hreport
    exact hreport

/-- The transcript tells of all that passed between the two handles, and of every line. -/
structure Transcribes (s : Transcript) (t t' : Transport) : Prop where
  signals : Journal.signals t'.journal.toList = Journal.signals t.journal.toList ++ s.signals
  output : Journal.bytes .output t'.journal.toList =
    Journal.bytes .output t.journal.toList ++ s.output
  lines : t.input.lines = s.lines
  unread : t'.input.lines = s.unread

theorem Course.transcribes (h : Course p state t.input.lines s)
    (hpasses : Passes t t' s.signals s.unread) : Transcribes s t t' := by
  refine ⟨hpasses.signals, ?_, h.lines_eq, hpasses.unread⟩
  rw [Journal.bytes_output, Journal.bytes_output, hpasses.signals, List.filterMap_append,
    s.output_eq]

/-- Over streams that do not fail, a session is a row of blocks, one for each message that is
    handled, in the order of the input.  Every block was opened by a line that is this message; all
    but the last were answered; a callback that may not checkpoint made no handshake; and a line
    that ended the session was no message for the processor.  What passed between session and
    daemon are the signals of the blocks, and every line of the input was read once and in its
    order, or is left. -/
theorem run_transcript (p : Processor σ) (state : σ) (t : Transport) (h : t.Reliable) :
    ∃ s, Course p state t.input.lines s ∧ (run p state t).outcome = s.outcome ∧
      Transcribes s t (run p state t).transport ∧
      (∀ b ∈ s.blocks, Message.ofLine b.line = .ok b.message) ∧
      (∀ b ∈ s.blocks.dropLast, b.outcome = .ok ()) ∧
      (∀ b ∈ s.blocks, b.message.Withheld → b.handshakes = []) ∧
      ∀ line, s.offending = some line →
        Offends line ∧ (∀ b ∈ s.blocks, b.outcome = .ok ()) ∧ ∃ e, s.outcome = .error e := by
  obtain ⟨s, hcourse, hout, hpasses⟩ := run_course p state h
  refine ⟨s, hcourse, hout, hcourse.transcribes hpasses, ?_, ?_, ?_, ?_⟩
  · intro b hb
    obtain ⟨_, _, _, _, hopens⟩ := hcourse.opens_of_mem hb
    exact hopens.message_eq
  · intro b hb
    exact hcourse.outcome_of_mem_dropLast hb
  · intro b hb hm
    obtain ⟨_, _, _, _, hopens⟩ := hcourse.opens_of_mem hb
    exact hopens.handshakes_of_withheld hm
  · intro line hline
    exact hcourse.offending_eq hline

/-- A processor that records its position when its shard is at the end. -/
def closing : Processor Unit where
  start := fun _ _ => .done ()
  processRecords := fun _ _ => .done ()
  leaseLost := fun _ => .done ()
  shardEnded := fun _ => .checkpoint rfl .lastDelivered .ignore fun _ => .done ()

/-- The announcement that the shard is at its end. -/
def shardEndedText : String := "\x7b\"action\":\"shardEnded\"\x7d"

/-- The answer that the position is recorded. -/
def recordedText : String := "\x7b\"action\":\"checkpoint\"\x7d"

theorem ofLine_shardEnded :
    Message.ofLine (Text.Utf8.bytesOf shardEndedText) = .ok .shardEnded :=
  (Message.ofLine_of_text (by cbv)).trans (by cbv : Message.decode shardEndedText = _)

theorem ofLine_recorded :
    Message.ofLine (Text.Utf8.bytesOf recordedText) = .ok (.checkpoint ⟨none, none, none⟩) :=
  (Message.ofLine_of_text (by cbv)).trans (by cbv : Message.decode recordedText = _)

/-- Streams that bring these lines, and a blank one between them. -/
def shardAtEnd : Transport :=
  ⟨.ofBytes ([shardEndedText, "", recordedText].flatMap Transport.lineBytes), .healthy, .healthy,
    #[], .silent⟩

/-- The request goes out, its answer is read, and then the status line goes out. -/
theorem run_transcript_closing :
    (run closing () shardAtEnd).outcome = .ok () ∧
      Journal.bytes .output (run closing () shardAtEnd).transport.journal.toList =
        ["\x7b\"action\":\"checkpoint\",\"sequenceNumber\":null\x7d",
          "\x7b\"action\":\"status\",\"responseFor\":\"shardEnded\"\x7d"].flatMap
            Transport.lineBytes := by
  obtain ⟨s, hcourse, hout, htranscribes, -⟩ :=
    run_transcript closing () shardAtEnd ⟨rfl, Sink.healthy_healthy⟩
  have hlines : shardAtEnd.input.lines =
      [Text.Utf8.bytesOf shardEndedText, Text.Utf8.bytesOf recordedText] := by cbv
  have htalk : (closing.shardEnded ()).talk [Text.Utf8.bytesOf recordedText] =
      ⟨((), .ok ()), [⟨.lastDelivered, some (Text.Utf8.bytesOf recordedText)⟩], []⟩ := by
    simp only [closing, Activity.done, Activity.talk, Recovery.talk, Dialogue.andThen,
      Dialogue.ask, CheckpointAnswer.ofLines, ofLine_recorded]
    rfl
  have hopens : Opens closing ()
      [Text.Utf8.bytesOf shardEndedText, Text.Utf8.bytesOf recordedText] _ _ _ :=
    .intro ofLine_shardEnded rfl
  rw [htalk] at hopens
  rw [hlines] at hcourse
  obtain rfl := Course.unique (.handled hopens rfl (.ended ())) hcourse
  refine ⟨hout, ?_⟩
  rw [htranscribes.output]
  cbv

end Session

end ShardBridge
