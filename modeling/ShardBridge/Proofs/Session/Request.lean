/-
  ShardBridge.Proofs.Session.Request

  The requests that a program makes, whatever the streams do.  A request is a
  target together with the handle on which it is made, so its outcome and the
  handle after it can be read off it.  `Recovery.requests` and
  `Activity.requests` list the requests of a run in their order, and a request
  that is sent takes exactly one item off the feed for its answer
  (`Transport.exchange_of_sent`).
-/
import ShardBridge.Proofs.Session.Dialogue
import ShardBridge.Proofs.Stream.Feed
import ShardBridge.Proofs.Transport.Frame

namespace ShardBridge

open Transport (Frame Silent Wrote answerOf readOf)

/-! ## Reading -/

namespace Feed

/-- What a session reads from a feed. -/
def read : Feed → Except SessionError (Option String)
  | ⟨[], none⟩ => .ok none
  | ⟨[], some e⟩ => .error (.read e)
  | ⟨line :: _, _⟩ => readOf [line]

/-- The answer that a request finds in a feed. -/
def answer (f : Feed) : Except SessionError CheckpointAnswer := answerOf f.read

variable {f : Feed} {line : Line} {rest : List Line}

theorem read_of_line (h : f.lines = line :: rest) : f.read = readOf [line] := by
  obtain ⟨lines, failure⟩ := f
  subst h
  cases failure <;> rfl

theorem answer_of_line (h : f.lines = line :: rest) :
    f.answer = CheckpointAnswer.ofLines [line] := by
  rw [answer, read_of_line h]
  exact Transport.answerOf_readOf [line]

end Feed

namespace Transport

/-- From the first handle to the second, one item was read. -/
structure Took (t t' : Transport) : Prop where
  signals : Journal.signals t'.journal.toList = Journal.signals t.journal.toList ++ [.read]
  feed : t'.input.feed = t.input.feed.rest
  output : t'.output = t.output

variable {t t' t'' : Transport}

theorem Took.silent (h : Took t t') (h' : Silent t' t'') : Took t t'' := by
  refine ⟨h'.signals.trans h.signals, ?_, h'.output.trans h.output⟩
  rw [h'.input]
  exact h.feed

theorem fetchLine_took (t : Transport) : Took t t.fetchLine.2 := by
  refine ⟨?_, ?_, ?_⟩
  · rw [fetchLine, Array.toList_push, Journal.signals_append]
    rfl
  · exact t.input.nextLine_feed.2
  · rfl

/-- Every read takes the next item off the feed, and says what it is. -/
theorem readLine_took (t : Transport) : t.readLine.1 = t.input.feed.read ∧ Took t t.readLine.2 := by
  have htook := fetchLine_took t
  have hnext : t.fetchLine.1 = t.input.feed.next := t.input.nextLine_feed.1
  rw [readLine]
  generalize t.input.feed = f at hnext
  -- The feed has a next line, or it ends, or it fails.
  split
  · next heq =>
    rw [heq] at htook hnext
    obtain ⟨_ | ⟨line, lines⟩, _ | e⟩ := f <;> cases hnext
    exact ⟨rfl, htook⟩
  · next heq =>
    rw [heq] at htook hnext
    obtain ⟨_ | ⟨line, lines⟩, _ | e⟩ := f <;> cases hnext
    exact ⟨rfl, htook⟩
  · next bytes t₁ heq =>
    rw [heq] at htook hnext
    have hread : (t₁.receive bytes).1 = readOf [bytes] ∧ Silent t₁ (t₁.receive bytes).2 := by
      rw [receive, readOf, textOf]
      cases Text.Utf8.decode bytes with
      | ok text => exact ⟨rfl, silent_log _ _ _ _⟩
      | error m => exact ⟨rfl, .refl _⟩
    obtain ⟨_ | ⟨line, lines⟩, _ | e⟩ := f <;> cases hnext
    · exact ⟨hread.1, htook.silent hread.2⟩
    · exact ⟨hread.1, htook.silent hread.2⟩

/-- What is left to be read only gets shorter. -/
theorem frame_unread : Frame fun t t' => t'.input.feed.lines <:+ t.input.feed.lines where
  refl := fun t => List.suffix_refl _
  trans := fun h h' => h'.trans h
  remark := fun t r => List.suffix_refl _
  fetch := fun t => by
    rw [(fetchLine_took t).feed, Feed.rest]
    exact List.tail_suffix _
  wrote := fun h => by rw [h.input]

/-! ## Sending -/

/-- Sends a request. -/
def send (target : CheckpointTarget) (t : Transport) : Except SessionError Unit × Transport :=
  (t.log .debug .checkpoint "requesting checkpoint" [positionField target]).writeMessage
    target.request

theorem input_send (target : CheckpointTarget) (t : Transport) :
    (t.send target).2.input = t.input := by
  rw [send, input_writeMessage, input_log]

/-- A healthy stream takes every request. -/
theorem send_ok (target : CheckpointTarget) (h : t.output.policy.Healthy) :
    (t.send target).1 = .ok () := by
  rw [send]
  exact writeMessage_ok target.request h

theorem exchange_of_unsent {target : CheckpointTarget} {e : SessionError}
    (h : (t.send target).1 = .error e) :
    t.exchange target = (.error e, (t.send target).2) := by
  have hsend : t.send target = (.error e, (t.send target).2) := by rw [← h]
  rw [send] at hsend
  rw [exchange, hsend]
  rfl

/-- Once a request is sent, the next item of the feed is the answer. -/
theorem exchange_of_sent {target : CheckpointTarget} (h : (t.send target).1 = .ok ()) :
    (t.exchange target).1 = t.input.feed.answer ∧
      Took (t.send target).2 (t.exchange target).2 := by
  obtain ⟨hread, htook⟩ := readLine_took (t.send target).2
  rw [input_send] at hread
  have hsend : t.send target = (.ok (), (t.send target).2) := by rw [← h]
  have hanswer : (t.send target).2.readAnswer =
      (t.input.feed.answer, (t.send target).2.readLine.2) := by
    rw [readAnswer_eq, hread]
    rfl
  rw [exchange, ← send, hsend]
  dsimp only
  rw [hanswer]
  cases t.input.feed.answer with
  | error e => exact ⟨rfl, htook⟩
  | ok answer =>
    have hlog : Silent (t.send target).2.readLine.2
        ((t.send target).2.readLine.2.logAnswer target answer) := by
      cases answer <;> exact silent_log _ _ _ _
    exact ⟨rfl, htook.silent hlog⟩

end Transport

/-! ## Requests -/

/-- A request, and the handle on which it is made. -/
structure Request where
  target : CheckpointTarget
  handle : Transport

namespace Request

/-- What comes of a request. -/
def outcome (q : Request) : Except SessionError CheckpointAnswer := (q.handle.exchange q.target).1

/-- The handle after a request, and after the read for its answer. -/
def after (q : Request) : Transport := (q.handle.exchange q.target).2

/-- The request goes out, and then the stream ends, fails, or brings a line that is no message. -/
inductive Breaks (q : Request) : SessionError → Prop
  | ended (hsent : (q.handle.send q.target).1 = .ok ())
      (h : q.handle.input.nextLine.1 = .ended) : q.Breaks .closedDuringCheckpoint
  | failed {e : StreamFailure} (hsent : (q.handle.send q.target).1 = .ok ())
      (h : q.handle.input.nextLine.1 = .failed e) : q.Breaks (.read e)
  | undecodable {line : Line} {m : MalformedLine} (hsent : (q.handle.send q.target).1 = .ok ())
      (h : q.handle.input.nextLine.1 = .line line) (hm : Message.ofLine line = .error m) :
      q.Breaks (.malformed m)

variable {q : Request} {e : SessionError}

/-- What breaks a request is what comes of it. -/
theorem outcome_of_breaks (h : q.Breaks e) : q.outcome = .error e := by
  have hnext := q.handle.input.nextLine_feed.1
  cases h with
  | ended hsent h =>
    have hfeed := Feed.eq_of_next_ended (hnext.symm.trans h)
    rw [outcome, (Transport.exchange_of_sent hsent).1, hfeed]
    rfl
  | failed hsent h =>
    have hfeed := Feed.eq_of_next_failed (hnext.symm.trans h)
    rw [outcome, (Transport.exchange_of_sent hsent).1, hfeed]
    rfl
  | undecodable hsent h hm =>
    have hlines := Feed.lines_of_next (hnext.symm.trans h)
    rw [outcome, (Transport.exchange_of_sent hsent).1, Feed.answer_of_line hlines,
      CheckpointAnswer.ofLines, hm]

/-- A request that is sent takes the next item of the feed for its answer. -/
theorem feed_after (hsent : (q.handle.send q.target).1 = .ok ()) :
    q.after.input.feed = q.handle.input.feed.rest := by
  rw [after, (Transport.exchange_of_sent hsent).2.feed, Transport.input_send]

/-- An answer is a line that is a message. -/
theorem of_answered {a : CheckpointAnswer} (h : q.outcome = .ok a) :
    ∃ line m, q.handle.input.feed.lines = line :: q.after.input.feed.lines ∧
      Message.ofLine line = .ok m := by
  cases hsent : (q.handle.send q.target).1 with
  | error e =>
    rw [outcome, Transport.exchange_of_unsent hsent] at h
    cases h
  | ok _ =>
    rw [feed_after hsent]
    rw [outcome, (Transport.exchange_of_sent hsent).1] at h
    rcases hfeed : q.handle.input.feed with ⟨_ | ⟨line, lines⟩, failure⟩
    · rw [hfeed] at h
      cases failure <;> cases h
    · rw [Feed.answer_of_line (congrArg Feed.lines hfeed), CheckpointAnswer.ofLines] at h
      cases hm : Message.ofLine line with
      | error m =>
        rw [hm] at h
        cases h
      | ok m => exact ⟨line, m, rfl, hm⟩

end Request

/-- The requests that a handler makes. -/
def Recovery.requests : Recovery → Transport → List Request
  | .finish _, _ => []
  | .remark r next, t => next.requests (t.record r.event)
  | .checkpoint target handler next, t =>
    ⟨target, t⟩ ::
      match t.exchange target with
      | (.error e, t') => (next (.error e)).requests t'
      | (.ok .recorded, t') => (next (.ok ())).requests t'
      | (.ok (.failed error), t') =>
        (handler target error).requests t' ++
          (next ((handler target error).run t').1).requests ((handler target error).run t').2

/-- The requests that a callback makes, those of its handlers with them. -/
def Activity.requests {access : Access} {σ : Type} : Activity access σ → Transport → List Request
  | .finish _ _, _ => []
  | .remark r next, t => next.requests (t.record r.event)
  | .checkpoint _ target handler next, t =>
    (Recovery.checkpoint target handler .finish).requests t ++
      (next (t.checkpoint target handler).1).requests (t.checkpoint target handler).2

theorem Activity.mem_requests_checkpoint {access : Access} {σ : Type} (allowed : access = .granted)
    (target : CheckpointTarget) (handler : CheckpointHandler)
    (next : Except SessionError Unit → Activity access σ) (t : Transport) :
    ⟨target, t⟩ ∈ (Activity.checkpoint allowed target handler next).requests t := by
  rw [requests, Recovery.requests]
  exact List.mem_append_left _ (List.mem_cons_self ..)

/-- A callback that may not checkpoint makes no request. -/
theorem Activity.requests_of_withheld {σ : Type} (a : Activity .withheld σ) (t : Transport) :
    a.requests t = [] := by
  induction a generalizing t with
  | finish state outcome => rfl
  | remark r next ih =>
    rw [requests]
    exact ih _
  | checkpoint allowed target handler next ih => cases allowed

/-! ## Requests within a run -/

namespace Transport.Frame

variable {R : Transport → Transport → Prop} (F : Frame R) {q : Request}

include F

theorem request (q : Request) : R q.handle q.after := F.exchange q.target q.handle

/-- Every request lies between the two ends of the run. -/
theorem recovery_request {r : Recovery} {t : Transport} (hq : q ∈ r.requests t) :
    R t q.handle ∧ R q.after (r.run t).2 := by
  induction r generalizing t with
  | finish result => cases hq
  | remark r next ih =>
    rw [Recovery.requests] at hq
    obtain ⟨hbefore, hafter⟩ := ih hq
    rw [Recovery.run]
    exact ⟨F.trans (F.remark t r) hbefore, hafter⟩
  | checkpoint target handler next ihh ihn =>
    have he := F.exchange target t
    rw [Recovery.requests] at hq
    rcases List.mem_cons.1 hq with rfl | hq
    · -- The first one: what follows it is the rest of the run.
      refine ⟨F.refl t, ?_⟩
      show R (t.exchange target).2 _
      rw [Recovery.run]
      split
      · next heq => rw [heq]; exact F.recovery _ _
      · next heq => rw [heq]; exact F.recovery _ _
      · next error t₁ heq =>
        rw [heq]
        exact F.trans (F.recovery (handler target error) t₁) (F.recovery _ _)
    · rw [Recovery.run]
      generalize t.exchange target = x at hq he ⊢
      obtain ⟨e | (_ | error), t₁⟩ := x <;> dsimp only at hq he ⊢
      · obtain ⟨hbefore, hafter⟩ := ihn _ hq
        exact ⟨F.trans he hbefore, hafter⟩
      · obtain ⟨hbefore, hafter⟩ := ihn _ hq
        exact ⟨F.trans he hbefore, hafter⟩
      · -- It is made by the handler, or after it.
        rcases List.mem_append.1 hq with hq | hq
        · obtain ⟨hbefore, hafter⟩ := ihh _ _ hq
          exact ⟨F.trans he hbefore, F.trans hafter (F.recovery _ _)⟩
        · obtain ⟨hbefore, hafter⟩ := ihn _ hq
          exact ⟨F.trans he (F.trans (F.recovery _ _) hbefore), hafter⟩

theorem activity_request {access : Access} {σ : Type} {a : Activity access σ} {t : Transport}
    (hq : q ∈ a.requests t) : R t q.handle ∧ R q.after (a.run t).transport := by
  induction a generalizing t with
  | finish state outcome => cases hq
  | remark r next ih =>
    rw [Activity.requests] at hq
    obtain ⟨hbefore, hafter⟩ := ih hq
    rw [Activity.run]
    exact ⟨F.trans (F.remark t r) hbefore, hafter⟩
  | checkpoint allowed target handler next ih =>
    rw [Activity.requests] at hq
    rw [Activity.run]
    rcases List.mem_append.1 hq with hq | hq
    · obtain ⟨hbefore, hafter⟩ := F.recovery_request hq
      exact ⟨hbefore, F.trans hafter (F.activity _ _)⟩
    · obtain ⟨hbefore, hafter⟩ := ih _ hq
      exact ⟨F.trans (F.checkpoint target handler t) hbefore, hafter⟩

end Transport.Frame

end ShardBridge
