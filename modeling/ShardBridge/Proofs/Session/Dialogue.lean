/-
  ShardBridge.Proofs.Session.Dialogue

  Callbacks over lines alone.  What a callback does to a handle that is
  reliable depends on nothing but the lines that are yet to be read: the
  handshakes it makes, in the order it makes them, each with the line that
  answers it, and how it comes out.  The dialogue of a program is defined by
  recursion on the program (`Recovery.talk`, `Activity.talk`), and running the
  program on a handle follows it signal by signal (`Recovery.run_passes`,
  `Activity.run_passes`).
-/
import ShardBridge.Processor
import ShardBridge.Proofs.Transport.Traffic

namespace ShardBridge

open Transport (Passes Reliable textOf readOf messageBytes)

/-! ## Lines as messages -/

/-- The message of a line, or why it is none. -/
def Message.ofLine (line : Line) : Except MalformedLine Message :=
  match textOf line with
  | .ok text => decode text
  | .error m => .error m

theorem Message.ofLine_of_text {line : Line} {text : String} (h : textOf line = .ok text) :
    ofLine line = decode text := by
  rw [ofLine, h]

theorem Message.ofLine_of_error {line : Line} {m : MalformedLine} (h : textOf line = .error m) :
    ofLine line = .error m := by
  rw [ofLine, h]

/-- The answer that the next of these lines gives to a request. -/
def CheckpointAnswer.ofLines : List Line → Except SessionError CheckpointAnswer
  | [] => .error .closedDuringCheckpoint
  | line :: _ =>
    match Message.ofLine line with
    | .ok m => .ok (.ofMessage m)
    | .error m => .error (.malformed m)

/-! ## Handshakes -/

/-- A request, and the line that was read for an answer; none at the end of the input. -/
structure Handshake where
  target : CheckpointTarget
  answer : Option Line
  deriving DecidableEq, Repr

namespace Handshake

/-- The bytes of the request. -/
def output (h : Handshake) : List UInt8 := messageBytes h.target.request

/-- What passes in a handshake: all of the request, and then one read. -/
def signals (h : Handshake) : List Signal := h.output.map .byte ++ [.read]

end Handshake

/-- What a program makes of lines: its result, its handshakes in their order, and the lines it
    leaves. -/
structure Dialogue (α : Type) where
  result : α
  handshakes : List Handshake
  unread : List Line

namespace Dialogue

variable {α β : Type}

/-- The signals of a dialogue. -/
def signals (d : Dialogue α) : List Signal := d.handshakes.flatMap Handshake.signals

/-- The lines that the handshakes took. -/
def answers (d : Dialogue α) : List Line := d.handshakes.flatMap fun h => h.answer.toList

/-- A dialogue that goes on by the result, with the lines that are left. -/
def andThen (d : Dialogue α) (next : α → List Line → Dialogue β) : Dialogue β :=
  ⟨(next d.result d.unread).result, d.handshakes ++ (next d.result d.unread).handshakes,
    (next d.result d.unread).unread⟩

theorem signals_andThen (d : Dialogue α) (next : α → List Line → Dialogue β) :
    (d.andThen next).signals = d.signals ++ (next d.result d.unread).signals :=
  List.flatMap_append

theorem answers_andThen (d : Dialogue α) (next : α → List Line → Dialogue β) :
    (d.andThen next).answers = d.answers ++ (next d.result d.unread).answers :=
  List.flatMap_append

/-- One handshake. -/
def ask (target : CheckpointTarget) (lines : List Line) :
    Dialogue (Except SessionError CheckpointAnswer) :=
  ⟨CheckpointAnswer.ofLines lines, [⟨target, lines.head?⟩], lines.tail⟩

theorem signals_ask (target : CheckpointTarget) (lines : List Line) :
    (ask target lines).signals = (messageBytes target.request).map .byte ++ [.read] :=
  List.flatMap_singleton ..

/-- The lines are those that the handshakes took, and after them those that are left. -/
def Conserves (lines : List Line) (d : Dialogue α) : Prop := lines = d.answers ++ d.unread

theorem conserves_ask (target : CheckpointTarget) (lines : List Line) :
    Conserves lines (ask target lines) := by
  cases lines <;> rfl

theorem Conserves.andThen {lines : List Line} {d : Dialogue α}
    {next : α → List Line → Dialogue β} (h : Conserves lines d)
    (h' : Conserves d.unread (next d.result d.unread)) : Conserves lines (d.andThen next) := by
  show lines = (d.andThen next).answers ++ _
  rw [answers_andThen, List.append_assoc]
  exact h.trans (congrArg (d.answers ++ ·) h')

end Dialogue

/-! ## Programs -/

/-- What a handler makes of lines. -/
def Recovery.talk : Recovery → List Line → Dialogue (Except SessionError Unit)
  | .finish result, lines => ⟨result, [], lines⟩
  | .remark _ next, lines => next.talk lines
  | .checkpoint target handler next, lines =>
    (Dialogue.ask target lines).andThen fun
      | .error e, rest => (next (.error e)).talk rest
      | .ok .recorded, rest => (next (.ok ())).talk rest
      | .ok (.failed error), rest =>
        ((handler target error).talk rest).andThen fun result rest' => (next result).talk rest'

/-- What a callback makes of lines. -/
def Activity.talk {access : Access} {σ : Type} :
    Activity access σ → List Line → Dialogue (σ × Except ProcessorError Unit)
  | .finish state outcome, lines => ⟨(state, outcome), [], lines⟩
  | .remark _ next, lines => next.talk lines
  | .checkpoint _ target handler next, lines =>
    ((Recovery.checkpoint target handler .finish).talk lines).andThen fun result rest =>
      (next result).talk rest

/-- What the callback for a message makes of lines; none for a message that has no place outside a
    checkpoint. -/
def Processor.talk? {σ : Type} (p : Processor σ) (state : σ) :
    Message → Option (List Line → Dialogue (σ × Except ProcessorError Unit))
  | .start assignment => some (p.start state assignment).talk
  | .processRecords batch => some (p.processRecords state batch).talk
  | .leaseLost => some (p.leaseLost state).talk
  | .shardEnded => some (p.shardEnded state).talk
  | .shutdownRequested => some (p.shutdownRequested state).talk
  | .shutdown .terminate => some (p.shardEnded state).talk
  | .shutdown .zombie => some (p.leaseLost state).talk
  | .shutdown .requested => some (p.shutdownRequested state).talk
  | .checkpoint _ => none
  | .status _ => none

/-! ## No line is lost -/

open Dialogue (Conserves)

theorem Recovery.conserves_talk (r : Recovery) (lines : List Line) :
    Conserves lines (r.talk lines) := by
  induction r generalizing lines with
  | finish result => exact (rfl : lines = [] ++ lines)
  | remark r next ih =>
    rw [talk]
    exact ih lines
  | checkpoint target handler next ihh ihn =>
    rw [talk]
    apply (Dialogue.conserves_ask target lines).andThen
    -- The exchange failed, the position is recorded, or the handler goes on.
    split
    · exact ihn _ _
    · exact ihn _ _
    · exact (ihh _ _ _).andThen (ihn _ _)

theorem Activity.conserves_talk {access : Access} {σ : Type} (a : Activity access σ)
    (lines : List Line) : Conserves lines (a.talk lines) := by
  induction a generalizing lines with
  | finish state outcome => exact (rfl : lines = [] ++ lines)
  | remark r next ih =>
    rw [talk]
    exact ih lines
  | checkpoint allowed target handler next ih =>
    rw [talk]
    exact (Recovery.conserves_talk _ lines).andThen (ih _ _)

/-- A callback that may not checkpoint makes no handshake. -/
theorem Activity.handshakes_of_withheld {σ : Type} (a : Activity .withheld σ) (lines : List Line) :
    (a.talk lines).handshakes = [] := by
  induction a generalizing lines with
  | finish state outcome => rfl
  | remark r next ih =>
    rw [talk]
    exact ih lines
  | checkpoint allowed target handler next ih => cases allowed

variable {σ : Type} {p : Processor σ} {state : σ} {m : Message}
  {talk : List Line → Dialogue (σ × Except ProcessorError Unit)}

theorem Processor.conserves_talk (h : p.talk? state m = some talk) (lines : List Line) :
    Conserves lines (talk lines) := by
  cases m with
  | shutdown reason =>
    cases reason <;> obtain rfl := Option.some.inj h <;> exact Activity.conserves_talk _ _
  | checkpoint c => cases h
  | status a => cases h
  | _ =>
    obtain rfl := Option.some.inj h
    exact Activity.conserves_talk _ _

/-- The messages whose callbacks may not checkpoint. -/
def Message.Withheld : Message → Prop
  | .start _ => True
  | .leaseLost => True
  | .shutdown .zombie => True
  | _ => False

theorem Processor.handshakes_of_withheld (h : p.talk? state m = some talk) (hm : m.Withheld)
    (lines : List Line) : (talk lines).handshakes = [] := by
  cases m with
  | start assignment =>
    obtain rfl := Option.some.inj h
    exact Activity.handshakes_of_withheld _ _
  | leaseLost =>
    obtain rfl := Option.some.inj h
    exact Activity.handshakes_of_withheld _ _
  | shutdown reason =>
    cases reason with
    | zombie =>
      obtain rfl := Option.some.inj h
      exact Activity.handshakes_of_withheld _ _
    | _ => exact hm.elim
  | _ => exact hm.elim

/-! ## Running a program -/

/-- From the first handle to the second, a run with this result followed the dialogue. -/
structure Dialogue.Describes {α : Type} (d : Dialogue α) (t : Transport) (result : α)
    (t' : Transport) : Prop where
  result : result = d.result
  passes : Passes t t' d.signals d.unread

variable {α β : Type} {t t' t'' : Transport}

theorem Dialogue.Describes.andThen {d : Dialogue α} {next : α → List Line → Dialogue β} {a : α}
    {b : β} (h : d.Describes t a t') (h' : (next d.result d.unread).Describes t' b t'') :
    (d.andThen next).Describes t b t'' := by
  refine ⟨h'.result, ?_⟩
  rw [Dialogue.signals_andThen]
  exact h.passes.trans h'.passes

/-- What is no signal may come before. -/
theorem Dialogue.Describes.after {d : Dialogue α} {a : α} {unread : List Line}
    (h : Passes t t' [] unread) (h' : d.Describes t' a t'') : d.Describes t a t'' :=
  ⟨h'.result, h.trans h'.passes⟩

namespace Transport

/-- The answer by what the read for it gave. -/
def answerOf : Except SessionError (Option String) → Except SessionError CheckpointAnswer
  | .error e => .error e
  | .ok none => .error .closedDuringCheckpoint
  | .ok (some line) =>
    match Message.decode line with
    | .error m => .error (.malformed m)
    | .ok m => .ok (.ofMessage m)

theorem readAnswer_eq (t : Transport) : t.readAnswer = (answerOf t.readLine.1, t.readLine.2) := by
  rw [readAnswer]
  rcases t.readLine with ⟨_ | _ | line, t'⟩
  · rfl
  · rfl
  · dsimp only [answerOf]
    cases Message.decode line <;> rfl

theorem answerOf_readOf (lines : List Line) :
    answerOf (readOf lines) = CheckpointAnswer.ofLines lines := by
  cases lines with
  | nil => rfl
  | cons line rest =>
    rw [readOf, CheckpointAnswer.ofLines]
    cases htext : textOf line with
    | error m => rw [Message.ofLine_of_error htext]; rfl
    | ok text =>
      rw [Message.ofLine_of_text htext]
      show answerOf (.ok (some text)) = _
      rw [answerOf]
      cases Message.decode text <;> rfl

theorem readAnswer_passes (h : t.Reliable) :
    t.readAnswer.1 = CheckpointAnswer.ofLines t.input.lines ∧
      Passes t t.readAnswer.2 [.read] t.input.lines.tail := by
  obtain ⟨hresult, hpasses⟩ := readLine_passes h
  rw [readAnswer_eq, hresult, answerOf_readOf]
  exact ⟨rfl, hpasses⟩

theorem logAnswer_passes (target : CheckpointTarget) (answer : CheckpointAnswer)
    (h : t.Reliable) : Passes t (t.logAnswer target answer) [] t.input.lines := by
  cases answer <;> exact passes_log _ _ _ _ h

/-- An exchange is one handshake. -/
theorem exchange_describes (target : CheckpointTarget) (h : t.Reliable) :
    (Dialogue.ask target t.input.lines).Describes t (t.exchange target).1
      (t.exchange target).2 := by
  have hlog := passes_log .debug .checkpoint "requesting checkpoint" [positionField target] h
  obtain ⟨hwrite, hpasses⟩ := writeMessage_passes target.request hlog.reliable
  have hpasses := hlog.trans hpasses
  rw [List.nil_append] at hpasses
  rw [exchange]
  split
  · next heq => rw [heq] at hwrite; cases hwrite
  · next t₁ heq =>
    -- All of the request went out before anything is read.
    rw [heq] at hpasses
    obtain ⟨hanswer, hread⟩ := readAnswer_passes hpasses.reliable
    rw [hpasses.unread] at hanswer hread
    have hpasses := hpasses.trans hread
    split
    · next heq' =>
      rw [heq'] at hanswer hpasses
      refine ⟨hanswer, ?_⟩
      rw [Dialogue.signals_ask]
      exact hpasses
    · next answer t₂ heq' =>
      rw [heq'] at hanswer hpasses
      have hall := hpasses.trans (logAnswer_passes target answer hpasses.reliable)
      rw [hpasses.unread, List.append_nil] at hall
      refine ⟨hanswer, ?_⟩
      rw [Dialogue.signals_ask]
      exact hall

end Transport

theorem Remark.passes (r : Remark) (h : t.Reliable) :
    Passes t (t.record r.event) [] t.input.lines := by
  cases r <;> exact Transport.passes_record rfl h

/-- A handler does what its dialogue says. -/
theorem Recovery.run_describes (r : Recovery) (h : t.Reliable) :
    (r.talk t.input.lines).Describes t (r.run t).1 (r.run t).2 := by
  induction r generalizing t with
  | finish result => exact ⟨rfl, .refl h⟩
  | remark r next ih =>
    have hr := r.passes h
    rw [run, talk]
    exact .after hr (hr.unread ▸ ih hr.reliable)
  | checkpoint target handler next ihh ihn =>
    have hask := Transport.exchange_describes target h
    rw [run, talk]
    -- What the run knows of the answer, and the lines it leaves, are those of the dialogue.
    split
    · next e t₁ heq =>
      rw [heq] at hask
      refine hask.andThen ?_
      rw [← hask.result, ← hask.passes.unread]
      exact ihn _ hask.passes.reliable
    · next t₁ heq =>
      rw [heq] at hask
      refine hask.andThen ?_
      rw [← hask.result, ← hask.passes.unread]
      exact ihn _ hask.passes.reliable
    · next error t₁ heq =>
      rw [heq] at hask
      refine hask.andThen ?_
      rw [← hask.result, ← hask.passes.unread]
      have hhandler := ihh target error hask.passes.reliable
      refine hhandler.andThen ?_
      rw [← hhandler.result, ← hhandler.passes.unread]
      exact ihn _ hhandler.passes.reliable

theorem Transport.checkpoint_describes (target : CheckpointTarget) (handler : CheckpointHandler)
    (h : t.Reliable) :
    ((Recovery.checkpoint target handler .finish).talk t.input.lines).Describes t
      (t.checkpoint target handler).1 (t.checkpoint target handler).2 :=
  Recovery.run_describes _ h

/-- A callback does what its dialogue says. -/
theorem Activity.run_describes {access : Access} (a : Activity access σ) (h : t.Reliable) :
    (a.talk t.input.lines).Describes t ((a.run t).state, (a.run t).outcome)
      (a.run t).transport := by
  induction a generalizing t with
  | finish state outcome => exact ⟨rfl, .refl h⟩
  | remark r next ih =>
    have hr := r.passes h
    rw [run, talk]
    exact .after hr (hr.unread ▸ ih hr.reliable)
  | checkpoint allowed target handler next ih =>
    have hcheckpoint := t.checkpoint_describes target handler h
    rw [run, talk]
    refine hcheckpoint.andThen ?_
    rw [← hcheckpoint.result, ← hcheckpoint.passes.unread]
    exact ih _ hcheckpoint.passes.reliable

theorem Processor.callback_none_iff : p.callback? state m = none ↔ p.talk? state m = none := by
  cases m with
  | shutdown reason => cases reason <;> simp [callback?, talk?]
  | _ => simp [callback?, talk?]

/-- The callback for a message does what its dialogue says. -/
theorem Processor.callback_describes {run : Transport → Activity.Ending σ}
    (hrun : p.callback? state m = some run) (h : t.Reliable) :
    ∃ talk, p.talk? state m = some talk ∧
      (talk t.input.lines).Describes t ((run t).state, (run t).outcome) (run t).transport := by
  cases m with
  | shutdown reason =>
    obtain rfl := Option.some.inj hrun
    -- The notice is logged, and then it is one of three other messages.
    have hlog := Transport.passes_log .debug .bridge "legacy shutdown"
      [("reason", .shown reason.name)] h
    cases reason with
    | terminate => exact ⟨_, rfl, .after hlog (Activity.run_describes _ hlog.reliable)⟩
    | zombie => exact ⟨_, rfl, .after hlog (Activity.run_describes _ hlog.reliable)⟩
    | requested => exact ⟨_, rfl, .after hlog (Activity.run_describes _ hlog.reliable)⟩
  | checkpoint c => cases hrun
  | status a => cases hrun
  | _ =>
    obtain rfl := Option.some.inj hrun
    exact ⟨_, rfl, Activity.run_describes _ h⟩

end ShardBridge
