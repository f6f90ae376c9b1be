/-
  ShardBridge.Proofs.Checkpoint.Handshake

  One handshake with any handler that makes no checkpoint of its own.  The
  request carries the position of its target (`CheckpointTarget.Asks`), the
  next item of the feed is the answer (`Feed.Answers`), and by the answer the
  checkpoint comes out (`Concludes`).  Only what is refused calls the handler,
  and it is called once; the transport and the handler alone can make a
  checkpoint fail (`Transport.checkpoint_handshake`).
-/
import ShardBridge.Proofs.Checkpoint.Pace
import ShardBridge.Proofs.Session.CallOutput

namespace ShardBridge

open Session (outputOf outputOf_silent)
open Transport (Silent)

/-! ## Requests -/

namespace CheckpointTarget

def subSequenceNumber? : CheckpointTarget → Option Int64
  | .lastDelivered => none
  | .position _ n => n

/-- The line asks for the position of the target.  The last delivered record has no sequence number,
    which the line says by a null, never by an empty text. -/
structure Asks (target : CheckpointTarget) (line : String) : Prop where
  message : Message.decode line =
    .ok (.checkpoint ⟨target.sequenceNumber?, target.subSequenceNumber?, none⟩)
  position : ∃ members, Json.Value.ofText line = .ok (.object members) ∧
    Json.Value.under "sequenceNumber" members =
      [match target with
        | .lastDelivered => .null
        | .position s _ => .string s]

theorem asks_request (target : CheckpointTarget) : target.Asks target.request.encode := by
  have hparse := Json.Value.ofText_text target.request.printable_toJson
  refine ⟨?_, _, hparse, ?_⟩
  · rw [Message.decode_encode]
    cases target <;> rfl
  · cases target with
    | lastDelivered => rfl
    | position s n => cases n <;> rfl

end CheckpointTarget

/-! ## Answers -/

namespace Message

/-- As the answer to a request, the message says that the position is recorded. -/
inductive Records : Message → Prop
  | intro {c : CheckpointNotice} (h : c.error = none ∨ c.error = some "") : Records (.checkpoint c)

/-- As the answer to a request, the message says that it is not, in these words: those of the
    daemon, or, when it is about something else, words that name what it is about. -/
inductive Refuses : Message → String → Prop
  | error {c : CheckpointNotice} {text : String} (h : c.error = some text) (hne : text ≠ "") :
    Refuses (.checkpoint c) text
  | other {m : Message} (h : m.action ≠ .checkpoint) :
    Refuses m ("unexpected response to checkpoint: " ++ m.action.name)

theorem records_or_refuses (m : Message) : m.Records ∨ ∃ error, m.Refuses error := by
  by_cases hm : m.action = .checkpoint
  · cases m with
    | checkpoint c =>
      obtain ⟨s, n, _ | text⟩ := c
      · exact .inl (.intro (.inl rfl))
      · by_cases hempty : text = ""
        · subst hempty
          exact .inl (.intro (.inr rfl))
        · exact .inr ⟨text, .error rfl hempty⟩
    | _ => cases hm
  · exact .inr ⟨_, .other hm⟩

theorem Records.answer {m : Message} (h : m.Records) :
    CheckpointAnswer.ofMessage m = .recorded := by
  cases h with
  | intro h =>
    rw [CheckpointAnswer.ofMessage, CheckpointNotice.effectiveError]
    rcases h with h | h <;> rw [h] <;> rfl

theorem Refuses.answer {m : Message} {error : String} (h : m.Refuses error) :
    CheckpointAnswer.ofMessage m = .failed error := by
  cases h with
  | error h hne =>
    rw [CheckpointAnswer.ofMessage, CheckpointNotice.effectiveError, h,
      Option.filter_some_pos (by simpa using hne)]
  | other h =>
    cases m with
    | checkpoint c => exact absurd rfl h
    | _ => rfl

end Message

namespace Feed

/-- What the next item of a feed is as the answer to a request. -/
inductive Answers (f : Feed) : Except SessionError CheckpointAnswer → Prop
  | recorded {line : Line} {m : Message} (hnext : f.next = .line line)
    (hm : Message.ofLine line = .ok m) (h : m.Records) : Answers f (.ok .recorded)
  | failed {line : Line} {m : Message} {error : String} (hnext : f.next = .line line)
    (hm : Message.ofLine line = .ok m) (h : m.Refuses error) : Answers f (.ok (.failed error))
  | undecodable {line : Line} {m : MalformedLine} (hnext : f.next = .line line)
    (hm : Message.ofLine line = .error m) : Answers f (.error (.malformed m))
  | ended (hnext : f.next = .ended) : Answers f (.error .closedDuringCheckpoint)
  | broken {e : StreamFailure} (hnext : f.next = .failed e) : Answers f (.error (.read e))

variable {f : Feed} {answer : Except SessionError CheckpointAnswer}

theorem Answers.eq (h : f.Answers answer) : answer = f.answer := by
  cases h with
  | recorded hnext hm h =>
    rw [answer_of_line (lines_of_next hnext), CheckpointAnswer.ofLines, hm, ← h.answer]
  | failed hnext hm h =>
    rw [answer_of_line (lines_of_next hnext), CheckpointAnswer.ofLines, hm, ← h.answer]
  | undecodable hnext hm =>
    rw [answer_of_line (lines_of_next hnext), CheckpointAnswer.ofLines, hm]
  | ended hnext =>
    rw [eq_of_next_ended hnext]
    rfl
  | broken hnext =>
    rw [eq_of_next_failed hnext]
    rfl

/-- A feed has one answer. -/
theorem Answers.unique {answer' : Except SessionError CheckpointAnswer} (h : f.Answers answer)
    (h' : f.Answers answer') : answer = answer' :=
  h.eq.trans h'.eq.symm

theorem exists_answers (f : Feed) : ∃ answer, f.Answers answer := by
  cases hnext : f.next with
  | ended => exact ⟨_, .ended hnext⟩
  | failed e => exact ⟨_, .broken hnext⟩
  | line line =>
    cases hm : Message.ofLine line with
    | error m => exact ⟨_, .undecodable hnext hm⟩
    | ok m =>
      rcases m.records_or_refuses with h | ⟨error, h⟩
      · exact ⟨_, .recorded hnext hm h⟩
      · exact ⟨_, .failed hnext hm h⟩

theorem answers_iff : f.Answers answer ↔ f.answer = answer := by
  constructor
  · intro h
    exact h.eq.symm
  · rintro rfl
    obtain ⟨answer, h⟩ := f.exists_answers
    rwa [h.eq] at h

end Feed

/-! ## Handlers without checkpoints -/

/-- The program makes these remarks and nothing else, and comes out so. -/
inductive Recovery.Says : Recovery → List Remark → Except SessionError Unit → Prop
  | finish (result : Except SessionError Unit) : Says (.finish result) [] result
  | remark (r : Remark) {next : Recovery} {remarks : List Remark}
    {result : Except SessionError Unit} (h : next.Says remarks result) :
    Says (.remark r next) (r :: remarks) result

/-- The handler makes no checkpoint. -/
def CheckpointHandler.Plain (handler : CheckpointHandler) : Prop :=
  ∀ target error, ∃ remarks result, (handler target error).Says remarks result

namespace Transport

/-- The handle after these remarks. -/
def recordAll (remarks : List Remark) (t : Transport) : Transport :=
  remarks.foldl (fun t r => t.record r.event) t

theorem silent_recordAll (remarks : List Remark) (t : Transport) :
    Silent t (t.recordAll remarks) := by
  induction remarks generalizing t with
  | nil => exact .refl t
  | cons r remarks ih =>
    have hr : Silent t (t.record r.event) := silent_record r.isAside
    exact hr.trans (ih _)

end Transport

theorem Recovery.Says.run {r : Recovery} {remarks : List Remark}
    {result : Except SessionError Unit} (h : r.Says remarks result) (t : Transport) :
    r.run t = (result, t.recordAll remarks) := by
  induction h generalizing t with
  | finish result => rfl
  | remark r _ ih =>
    rw [Recovery.run, ih]
    rfl

/-! ## Outcomes -/

/-- By what is left to be read, a checkpoint comes out so, with this handle at its end; the exchange
    leaves the handle that is given. -/
inductive Concludes (target : CheckpointTarget) (handler? : Option CheckpointHandler) (f : Feed)
    (t : Transport) : Except SessionError Unit → Transport → Prop
  | recorded (h : f.Answers (.ok .recorded)) : Concludes target handler? f t (.ok ()) t
  | unhandled {error : String} (h : f.Answers (.ok (.failed error))) (hnone : handler? = none) :
    Concludes target handler? f t (.ok ()) t
  | handled {error : String} {handler : CheckpointHandler} {remarks : List Remark}
    {result : Except SessionError Unit} (h : f.Answers (.ok (.failed error)))
    (hsome : handler? = some handler) (hsaid : (handler target error).Says remarks result) :
    Concludes target handler? f t result (t.recordAll remarks)
  | broken {e : SessionError} (h : f.Answers (.error e)) :
    Concludes target handler? f t (.error e) t

variable {target : CheckpointTarget} {handler? : Option CheckpointHandler} {f : Feed}
  {t t' : Transport} {result : Except SessionError Unit}

/-- Nothing passes once the answer is read. -/
theorem Concludes.silent (h : Concludes target handler? f t result t') : Silent t t' := by
  cases h with
  | handled _ _ _ => exact Transport.silent_recordAll _ t
  | _ => exact .refl t

/-- What goes wrong is the transport's, or the handler says so. -/
theorem Concludes.of_error {e : SessionError} (h : Concludes target handler? f t (.error e) t') :
    f.Answers (.error e) ∨ ∃ handler error remarks, handler? = some handler ∧
      f.Answers (.ok (.failed error)) ∧ (handler target error).Says remarks (.error e) := by
  cases h with
  | handled h hsome hsaid => exact .inr ⟨_, _, _, hsome, h, hsaid⟩
  | broken h => exact .inl h

namespace Transport

/-! ## The handshake -/

theorem checkpoint_of_recorded {handler : CheckpointHandler}
    (h : t.exchange target = (.ok .recorded, t')) :
    t.checkpoint target handler = (.ok (), t') := by
  rw [checkpoint, Recovery.run, h]
  rfl

theorem checkpoint_of_broken {handler : CheckpointHandler} {e : SessionError}
    (h : t.exchange target = (.error e, t')) : t.checkpoint target handler = (.error e, t') := by
  rw [checkpoint, Recovery.run, h]
  rfl

theorem checkpoint_of_refused {handler : CheckpointHandler} {error : String}
    (h : t.exchange target = (.ok (.failed error), t')) :
    t.checkpoint target handler = (handler target error).run t' := by
  rw [checkpoint, Recovery.run, h]
  rfl

/-- By what the feed answers, a checkpoint comes out. -/
theorem checkpoint_concludes {answer : Except SessionError CheckpointAnswer}
    (hplain : ∀ handler ∈ handler?, handler.Plain) (h : t.exchange target = (answer, t'))
    (hanswers : f.Answers answer) :
    Concludes target handler? f t' (t.checkpoint target (handler?.getD .ignore)).1
      (t.checkpoint target (handler?.getD .ignore)).2 := by
  rcases answer with e | _ | error
  · rw [checkpoint_of_broken h]
    exact .broken hanswers
  · rw [checkpoint_of_recorded h]
    exact .recorded hanswers
  · -- It is refused: without a handler that is all, and otherwise the handler has the say.
    rw [checkpoint_of_refused h]
    cases handler? with
    | none => exact .unhandled hanswers rfl
    | some handler =>
      obtain ⟨remarks, result, hsaid⟩ := hplain handler rfl target error
      rw [Option.getD_some, hsaid.run]
      exact .handled hanswers rfl hsaid

/-- A checkpoint sends one request, which carries the position of its target, and reads one item of
    the feed for the answer; then it comes out by that answer, after at most one call of the handler
    and with nothing more sent or read.  No refusal alone makes it fail.  A feed that has no line
    left gives its failure, or its end, to every checkpoint that follows. -/
theorem checkpoint_handshake (target : CheckpointTarget) {handler? : Option CheckpointHandler}
    {t : Transport} (hplain : ∀ handler ∈ handler?, handler.Plain)
    (h : t.output.policy.Healthy) :
    target.Asks target.request.encode ∧
      Asked target t (t.exchange target).2 ∧
      Concludes target handler? t.input.feed (t.exchange target).2
        (t.checkpoint target (handler?.getD .ignore)).1
        (t.checkpoint target (handler?.getD .ignore)).2 ∧
      outputOf (t.checkpoint target (handler?.getD .ignore)).2 =
        outputOf t ++ lineBytes target.request.encode ∧
      (t.checkpoint target (handler?.getD .ignore)).2.input.feed = t.input.feed.rest ∧
      ∀ e, (t.checkpoint target (handler?.getD .ignore)).1 = .error e →
        t.input.feed.Answers (.error e) ∨ ∃ handler error remarks, handler? = some handler ∧
          t.input.feed.Answers (.ok (.failed error)) ∧
          (handler target error).Says remarks (.error e) := by
  obtain ⟨hanswer, hasked⟩ := exchange_asked target h
  have hexchange : t.exchange target = (t.input.feed.answer, (t.exchange target).2) := by
    rw [← hanswer]
  have hconcludes := checkpoint_concludes hplain hexchange (Feed.answers_iff.2 rfl)
  have hsilent := hconcludes.silent
  refine ⟨target.asks_request, hasked, hconcludes, ?_, ?_, ?_⟩
  · rw [outputOf_silent hsilent, outputOf_exchange target h]
    rfl
  · rw [hsilent.input]
    exact hasked.feed
  · intro e he
    rw [he] at hconcludes
    exact hconcludes.of_error

/-- The loss of the lease is the answer. -/
def lossAtOnce : Transport := Session.bringing [Session.leaseLostText]

theorem feed_lossAtOnce :
    lossAtOnce.input.feed = ⟨[Session.leaseLostText].map Text.Utf8.bytesOf, none⟩ := by
  cbv

theorem answers_lossAtOnce : lossAtOnce.input.feed.Answers
    (.ok (.failed "unexpected response to checkpoint: leaseLost")) :=
  .failed (congrArg Feed.next feed_lossAtOnce) Session.ofLine_leaseLost (.other (by decide))

end Transport

namespace CheckpointHandler

/-- Notes the words of a failure, and lets it be. -/
def noting : CheckpointHandler := fun _ error => .remark (.note error) (.finish (.ok ()))

theorem plain_noting : noting.Plain :=
  fun _ error => ⟨[.note error], .ok (), .remark _ (.finish _)⟩

end CheckpointHandler

namespace Transport

open CheckpointHandler (noting plain_noting)

/-- The handler notes the loss once, and the checkpoint comes out well. -/
theorem checkpoint_handshake_lease_lost :
    (∀ handler ∈ some noting, handler.Plain) ∧ lossAtOnce.output.policy.Healthy ∧
      (lossAtOnce.checkpoint .lastDelivered noting).1 = .ok () ∧
      Journal.beats (lossAtOnce.checkpoint .lastDelivered noting).2.journal.toList =
        asking .lastDelivered ++ [.note "unexpected response to checkpoint: leaseLost"] := by
  have hplain : ∀ handler ∈ some noting, handler.Plain := by
    rintro _ ⟨rfl⟩
    exact plain_noting
  have hhealthy : lossAtOnce.output.policy.Healthy := Sink.healthy_healthy
  obtain ⟨-, hasked, hconcludes, -⟩ := checkpoint_handshake .lastDelivered hplain hhealthy
  have hbeats := hasked.beats
  rw [Option.getD_some] at hconcludes
  generalize lossAtOnce.checkpoint .lastDelivered noting = out at hconcludes ⊢
  generalize (lossAtOnce.exchange .lastDelivered).2 = t at hbeats hconcludes
  obtain ⟨result, t'⟩ := out
  refine ⟨hplain, hhealthy, ?_⟩
  -- There is one answer, and it is a refusal.
  cases hconcludes with
  | recorded h => cases h.unique answers_lossAtOnce
  | unhandled h hnone => cases hnone
  | handled h hsome hsaid =>
    cases h.unique answers_lossAtOnce
    cases hsome
    obtain _ | ⟨_, ⟨⟩⟩ := hsaid
    refine ⟨rfl, ?_⟩
    show Journal.beats (t.record (.noted _)).journal.toList = _
    rw [record, Array.toList_push, Journal.beats_append, hbeats]
    rfl
  | broken h => cases h.unique answers_lossAtOnce

end Transport

end ShardBridge
