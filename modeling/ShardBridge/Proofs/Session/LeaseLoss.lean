/-
  ShardBridge.Proofs.Session.LeaseLoss

  Requests after the loss of a lease.  A message that tells of the loss calls a
  callback that may not checkpoint, so no request goes out before a message for
  one that may; until then the output has nothing but status lines
  (`Session.output_of_withheld`).  As the answer to a request such a message is
  a failed checkpoint like any other: the handler decides, and a handler that
  retries asks again (`Session.run_requests_after_loss`), though no more often
  than its budget allows (`CheckpointHandler.requests_retrying`).
-/
import ShardBridge.Proofs.Session.Calls
import ShardBridge.Proofs.Session.Transcript

namespace ShardBridge

open Transport (Silent Took messageBytes)

/-! ## Messages -/

/-- The messages that tell of the loss of the lease. -/
def Message.TellsLeaseLoss : Message → Prop
  | .leaseLost => True
  | .shutdown .zombie => True
  | _ => False

theorem Message.TellsLeaseLoss.withheld {m : Message} (h : m.TellsLeaseLoss) : m.Withheld := by
  cases m with
  | leaseLost => exact trivial
  | shutdown reason =>
    cases reason with
    | zombie => exact trivial
    | _ => exact h.elim
  | _ => exact h.elim

/-- As an answer, such a message says no more than that the checkpoint failed. -/
theorem Message.TellsLeaseLoss.answer {m : Message} (h : m.TellsLeaseLoss) :
    CheckpointAnswer.ofMessage m =
      .failed (CheckpointFailureKind.unexpectedResponseText m.action) := by
  cases m with
  | checkpoint c => exact h.elim
  | _ => rfl

/-! ## Answers -/

/-- The request goes out, and this message is read as the answer. -/
structure Request.AnsweredBy (q : Request) (m : Message) : Prop where
  sent : (q.handle.send q.target).1 = .ok ()
  read : ∃ line, q.handle.input.nextLine.1 = .line line ∧ Message.ofLine line = .ok m

theorem Request.AnsweredBy.outcome {q : Request} {m : Message} (h : q.AnsweredBy m) :
    q.outcome = .ok (.ofMessage m) := by
  obtain ⟨line, hline, hm⟩ := h.read
  have hlines := Feed.lines_of_next (q.handle.input.nextLine_feed.1.symm.trans hline)
  rw [Request.outcome, (Transport.exchange_of_sent h.sent).1, Feed.answer_of_line hlines,
    CheckpointAnswer.ofLines, hm]

/-- A checkpoint that fails is left to the handler, and whatever is requested after it the handler
    requests. -/
theorem checkpoint_of_failed {q : Request} {error : String}
    (h : q.outcome = .ok (.failed error)) (handler : CheckpointHandler) :
    q.handle.checkpoint q.target handler = (handler q.target error).run q.after ∧
      (Recovery.checkpoint q.target handler .finish).requests q.handle =
        q :: (handler q.target error).requests q.after := by
  have hexchange : q.handle.exchange q.target = (.ok (.failed error), q.after) := by
    rw [← h, Request.outcome, Request.after]
  rw [Transport.checkpoint, Recovery.run, Recovery.requests, hexchange]
  dsimp only
  refine ⟨rfl, ?_⟩
  rw [Recovery.requests, List.append_nil]

/-- A handler that retries makes no more requests than its budget, all of them for the same
    target. -/
theorem CheckpointHandler.requests_retrying (delay retries : Nat) (target : CheckpointTarget)
    (error : String) (t : Transport) :
    ((retrying delay retries target error).requests t).length ≤ retries ∧
      ∀ q ∈ (retrying delay retries target error).requests t, q.target = target := by
  induction retries generalizing error t with
  | zero =>
    refine ⟨Nat.le_refl _, ?_⟩
    intro q hq
    cases hq
  | succ retries ih =>
    -- It asks once, and then whatever comes of it leaves one retry less.
    simp only [retrying, Recovery.requests]
    split
    · exact ⟨Nat.succ_le_succ (Nat.zero_le _), fun q hq => by rw [List.mem_singleton.1 hq]⟩
    · exact ⟨Nat.succ_le_succ (Nat.zero_le _), fun q hq => by rw [List.mem_singleton.1 hq]⟩
    · next error' t₁ _ =>
      obtain ⟨hlength, htarget⟩ := ih error' t₁
      rw [List.append_nil]
      refine ⟨Nat.succ_le_succ hlength, ?_⟩
      intro q hq
      rcases List.mem_cons.1 hq with rfl | hq
      · rfl
      · exact htarget q hq

/-! ## Callbacks without requests -/

/-- A callback that may not checkpoint passes nothing. -/
theorem Activity.silent_of_withheld {σ : Type} (a : Activity .withheld σ) (t : Transport) :
    Silent t (a.run t).transport := by
  induction a generalizing t with
  | finish state outcome => exact .refl t
  | remark r next ih =>
    have hfirst : Silent t (t.record r.event) := Transport.silent_record r.isAside
    rw [run]
    exact hfirst.trans (ih _)
  | checkpoint allowed target handler next ih => cases allowed

theorem Processor.callbackFor_of_withheld {σ : Type} {p : Processor σ} {state : σ} {m : Message}
    {a : Callback σ} (h : p.callbackFor? state m = some a) (hm : m.Withheld) :
    ∃ activity, a = ⟨.withheld, activity⟩ := by
  cases m with
  | start assignment => exact ⟨_, (Option.some.inj h).symm⟩
  | leaseLost => exact ⟨_, (Option.some.inj h).symm⟩
  | shutdown reason =>
    cases reason with
    | zombie => exact ⟨_, (Option.some.inj h).symm⟩
    | _ => exact hm.elim
  | _ => exact hm.elim

/-- Writing a message puts a prefix of its line into the output, and all of it when it goes
    well. -/
theorem Transport.writeMessage_bytes (m : Message) (t : Transport) :
    ∃ done, Journal.bytes .output (t.writeMessage m).2.journal.toList =
        Journal.bytes .output t.journal.toList ++ done ∧ done <+: messageBytes m ∧
      ((t.writeMessage m).1 = .ok () → done = messageBytes m) := by
  obtain ⟨done, hdone, hprefix, hall⟩ := sendLine_wrote .output m.encode
    (t.log .trace .transport "-> daemon" [("line", .quoted m.encode)])
  obtain ⟨es, hes, -, hbytes⟩ := hdone.journal
  have hjournal : Journal.bytes .output ((t.log .trace .transport "-> daemon"
      [("line", .quoted m.encode)]).sendLine .output m.encode).2.journal.toList =
        Journal.bytes .output t.journal.toList ++ done := by
    rw [hes, Journal.bytes_append, hbytes, log, record, Array.toList_push, Journal.bytes_append]
    rw [show Journal.bytes .output [_] = [] from rfl, List.append_nil]
  refine ⟨done, ?_, hprefix, ?_⟩
  · rw [writeMessage_eq]
    split <;> next heq => rw [heq] at hjournal; exact hjournal
  · intro hok
    apply hall
    rw [writeMessage_eq] at hok
    split at hok
    · next heq => rw [heq]
    · cases hok

namespace Session

variable {σ : Type} {p : Processor σ} {state : σ} {t : Transport} {c : Call σ}

theorem Call.of_withheld (hcalled : called? p state t = some c) (hm : c.message.Withheld) :
    c.requests = [] ∧ Silent c.handle c.ending.transport := by
  obtain ⟨-, hcallback, -⟩ := of_called hcalled
  obtain ⟨activity, ha⟩ := Processor.callbackFor_of_withheld hcallback hm
  rw [Call.requests, Call.ending, ha]
  exact ⟨Activity.requests_of_withheld _ _, Activity.silent_of_withheld _ _⟩

/-! ## Between two calls -/

/-- The status line of a call. -/
def Call.status (c : Call σ) : List UInt8 := messageBytes (.status c.message.action)

/-- The handle on which the first of these calls starts; without a call, the last handle. -/
def startOf (cs : List (Call σ)) (last : Transport) : Transport :=
  match cs with
  | [] => last
  | c :: _ => c.handle

/-- After a callback, a prefix of its status line goes out, and all of it when the session goes
    on. -/
theorem Round.output_ofCallback (action : Action) (e : Activity.Ending σ) :
    ∃ done, outputOf (ofCallback action e).transport = outputOf e.transport ++ done ∧
      done <+: messageBytes (.status action) ∧
      ∀ state' t', ofCallback action e = .goOn state' t' →
        done = messageBytes (.status action) := by
  obtain ⟨done, hdone, hprefix, hall⟩ :=
    Transport.writeMessage_bytes (.status action) e.transport
  rw [ofCallback]
  split
  · refine ⟨[], (List.append_nil _).symm, List.nil_prefix, ?_⟩
    intro state' t' h
    cases h
  · split
    · next heq =>
      rw [heq] at hdone
      refine ⟨done, hdone, hprefix, ?_⟩
      intro state' t' h
      cases h
    · next heq =>
      rw [heq] at hdone hall
      exact ⟨done, hdone, hprefix, fun _ _ _ => hall rfl⟩

/-- While callbacks are called that may not checkpoint, nothing but their status lines goes out. -/
theorem output_of_withheld {between after : List (Call σ)}
    (hcalls : calls p state t = between ++ after) (hm : ∀ b ∈ between, b.message.Withheld) :
    ∃ done, outputOf (startOf after (loop p state t).transport) = outputOf t ++ done ∧
      done <+: between.flatMap Call.status := by
  induction between generalizing state t with
  | nil =>
    refine ⟨[], ?_, List.nil_prefix⟩
    rw [List.append_nil]
    cases after with
    | nil =>
      -- No further call: the session reads once more, and that is all.
      have hnone : called? p state t = none := by
        cases hcalled : called? p state t with
        | none => rfl
        | some c =>
          have hmem := mem_calls_of_called hcalled
          rw [hcalls] at hmem
          cases hmem
      obtain ⟨e, hround, htook⟩ := round_of_not_called hnone
      rw [startOf, loop_of_over hround]
      exact outputOf_took htook
    | cons c after =>
      obtain ⟨-, -, -, htook⟩ := of_called (called_of_calls hcalls)
      exact outputOf_took htook
  | cons b between ih =>
    have hcalled := called_of_calls hcalls
    obtain ⟨-, -, -, htook⟩ := of_called hcalled
    obtain ⟨-, hsilent⟩ := Call.of_withheld hcalled (hm b (List.mem_cons_self ..))
    have hbefore : outputOf b.ending.transport = outputOf t := by
      rw [outputOf_silent hsilent, outputOf_took htook]
    obtain ⟨done, hdone, hprefix, hall⟩ := Round.output_ofCallback b.message.action b.ending
    rw [← round_of_called hcalled, hbefore] at hdone
    rw [← round_of_called hcalled] at hall
    rw [List.flatMap_cons]
    rcases hround : round p state t with e | ⟨state', t'⟩
    · -- The session is over, so there is no further call.
      have hlast := calls_of_over hround
      rw [hcalls, hcalled] at hlast
      obtain ⟨rfl, rfl⟩ := List.append_eq_nil_iff.1 (List.cons.inj hlast).2
      rw [hround] at hdone
      rw [startOf, loop_of_over hround]
      exact ⟨done, hdone, hprefix.trans (List.prefix_append _ _)⟩
    · rw [calls_of_goOn hcalled hround] at hcalls
      obtain ⟨more, hmore, hprefix'⟩ := ih (List.cons.inj hcalls).2
        fun b' hb' => hm b' (List.mem_cons_of_mem _ hb')
      rw [hround] at hdone
      rw [loop_of_goOn hround, hmore, show outputOf t' = _ from hdone, hall state' t' hround]
      exact ⟨b.status ++ more, List.append_assoc .., (List.prefix_append_right_inj _).2 hprefix'⟩

theorem requests_of_withheld (hc : c ∈ calls p state t) (hm : c.message.Withheld) :
    c.requests = [] := by
  obtain ⟨-, state₁, t₁, -, hcalled⟩ := exists_called hc
  exact (Call.of_withheld hcalled hm).1

/-- The same from a call within the run, and up to the end of the run if no other call follows. -/
theorem output_run_of_withheld {before between after : List (Call σ)}
    (hcalls : calls p state t = before ++ c :: (between ++ after))
    (hm : ∀ b ∈ c :: between, b.message.Withheld) :
    ∃ done, outputOf (startOf after (run p state t).transport) = outputOf c.handle ++ done ∧
      done <+: (c :: between).flatMap Call.status := by
  obtain ⟨state₁, t₁, hcomes, hrest⟩ := calls_split hcalls (List.cons_ne_nil _ _)
  obtain ⟨-, -, -, htook⟩ := of_called (called_of_calls hrest)
  have hsplit : calls p state₁ t₁ = (c :: between) ++ after := hrest
  obtain ⟨done, hdone, hprefix⟩ := output_of_withheld hsplit hm
  rw [← outputOf_took htook] at hdone
  refine ⟨done, ?_, hprefix⟩
  cases after with
  | nil =>
    rw [← hdone]
    exact outputOf_silent (run_of_comes hcomes).2
  | cons c' after => exact hdone

/-- A request never follows the news that the lease is lost, unless a callback or a handler makes
    it that may.

    When the session handles such a message, neither its callback nor those for the messages after
    it make a request, up to the next message whose callback may checkpoint; and until then the
    output has nothing but status lines.

    When such a message is read as the answer to a request, the checkpoint has failed in the words
    for an unexpected response, and every further request of it is one of its handler's: there is
    none, and nothing passes any more, without a handler, and a handler that retries makes no more
    of them than its budget, all for the same target. -/
theorem requests_after_lease_loss (p : Processor σ) (state : σ) (t : Transport) :
    (∀ before c between after, calls p state t = before ++ c :: between ++ after →
      c.message.TellsLeaseLoss → (∀ b ∈ between, b.message.Withheld) →
        (∀ b ∈ c :: between, b.requests = []) ∧
        ∃ done, outputOf (startOf after (run p state t).transport) = outputOf c.handle ++ done ∧
          done <+: (c :: between).flatMap Call.status) ∧
    ∀ (q : Request) (m : Message), q.AnsweredBy m → m.TellsLeaseLoss →
      let error := CheckpointFailureKind.unexpectedResponseText m.action
      (∀ handler, q.handle.checkpoint q.target handler = (handler q.target error).run q.after ∧
        (Recovery.checkpoint q.target handler .finish).requests q.handle =
          q :: (handler q.target error).requests q.after) ∧
      q.handle.checkpoint q.target .ignore = (.ok (), q.after) ∧
      ∀ delay retries,
        ((CheckpointHandler.retrying delay retries q.target error).requests q.after).length ≤
            retries ∧
          ∀ q' ∈ (CheckpointHandler.retrying delay retries q.target error).requests q.after,
            q'.target = q.target := by
  refine ⟨?_, ?_⟩
  · intro before c between after hcalls hloss hbetween
    rw [List.append_assoc, List.cons_append] at hcalls
    have hwithheld : ∀ b ∈ c :: between, b.message.Withheld := by
      intro b hb
      rcases List.mem_cons.1 hb with rfl | hb
      · exact hloss.withheld
      · exact hbetween b hb
    refine ⟨fun b hb => ?_, output_run_of_withheld hcalls hwithheld⟩
    have hmem : b ∈ calls p state t := by
      rw [hcalls]
      exact List.mem_append_right before (List.mem_append_left after hb)
    exact requests_of_withheld hmem (hwithheld b hb)
  · intro q m hanswer hloss error
    have houtcome : q.outcome = .ok (.failed error) := by
      rw [hanswer.outcome, hloss.answer]
    refine ⟨checkpoint_of_failed houtcome, ?_, ?_⟩
    · rw [(checkpoint_of_failed houtcome .ignore).1]
      rfl
    · intro delay retries
      exact CheckpointHandler.requests_retrying delay retries q.target error q.after

/-- The announcement that the lease is lost. -/
def leaseLostText : String := "\x7b\"action\":\"leaseLost\"\x7d"

theorem ofLine_leaseLost :
    Message.ofLine (Text.Utf8.bytesOf leaseLostText) = .ok .leaseLost :=
  (Message.ofLine_of_text (by cbv)).trans (by cbv : Message.decode leaseLostText = _)

/-- Streams of which the input is these lines. -/
def bringing (texts : List String) : Transport :=
  ⟨.ofBytes (texts.flatMap Transport.lineBytes), .healthy, .healthy, #[], .silent⟩

/-- The lease is lost, and then the shard is at its end. -/
def lossAnnounced : Transport := bringing [leaseLostText, shardEndedText, recordedText]

/-- The shard is at its end, and the request that is made then is answered by the loss of the
    lease. -/
def lossAnswered : Transport := bringing [shardEndedText, leaseLostText, recordedText]

/-- A processor that records its position when its shard is at the end, and tries a second time if
    that fails. -/
def insisting : Processor Unit :=
  { closing with
    shardEnded := fun _ =>
      .checkpoint rfl .lastDelivered (.retrying 0 1) fun _ => .done () }

theorem feed_lossAnnounced : lossAnnounced.input.feed =
    ⟨[leaseLostText, shardEndedText, recordedText].map Text.Utf8.bytesOf, none⟩ := by cbv

theorem feed_lossAnswered : lossAnswered.input.feed =
    ⟨[shardEndedText, leaseLostText, recordedText].map Text.Utf8.bytesOf, none⟩ := by cbv

/-- The loss that is announced calls its callback, which makes no request.  The loss that is read
    as an answer leaves a checkpoint without a handler failed, and nothing passes any more. -/
theorem requests_after_lease_loss_lost :
    (∃ c after, calls closing () lossAnnounced = c :: after ∧ c.message = .leaseLost ∧
      c.requests = [] ∧ ∃ done,
        outputOf (startOf after (run closing () lossAnnounced).transport) =
          outputOf c.handle ++ done ∧ done <+: c.status) ∧
    ∃ q ∈ requests insisting () lossAnswered, q.AnsweredBy .leaseLost ∧
      q.handle.checkpoint q.target .ignore = (.ok (), q.after) := by
  refine ⟨?_, ?_⟩
  · obtain ⟨handle, hcalled, -⟩ := called_of_line closing ()
      (congrArg Feed.lines feed_lossAnnounced) ofLine_leaseLost rfl
    have hcalls : ∃ after, calls closing () lossAnnounced =
        ⟨(), .leaseLost, ⟨_, closing.leaseLost ()⟩, handle⟩ :: after := by
      rcases hround : round closing () lossAnnounced with e | ⟨state', t'⟩
      · exact ⟨[], by rw [calls_of_over hround, hcalled]; rfl⟩
      · exact ⟨_, calls_of_goOn hcalled hround⟩
    obtain ⟨after, hcalls⟩ := hcalls
    obtain ⟨hnone, done, hdone, hprefix⟩ :=
      (requests_after_lease_loss closing () lossAnnounced).1 [] _ [] after hcalls trivial
        (List.forall_mem_nil _)
    rw [List.flatMap_singleton] at hprefix
    exact ⟨_, after, hcalls, rfl, hnone _ (List.mem_singleton_self _), done, hdone, hprefix⟩
  · obtain ⟨q, hq, hsent, hrest⟩ := request_of_line insisting () feed_lossAnswered
      ofLine_shardEnded rfl Sink.healthy_healthy
    have hanswer : q.AnsweredBy .leaseLost := by
      refine ⟨hsent, _, ?_, ofLine_leaseLost⟩
      rw [q.handle.input.nextLine_feed.1, hrest]
      rfl
    exact ⟨q, hq, hanswer,
      ((requests_after_lease_loss insisting () lossAnswered).2 _ _ hanswer trivial).2.1⟩

/-- What passes when a message goes out. -/
def sending (m : Message) : List Signal := (messageBytes m).map .byte

/-- No line of either input assigns a shard, and yet a request goes out after the loss: in a later
    callback, when the loss was announced, and from the handler, when it was the answer. -/
theorem run_requests_after_loss :
    Journal.signals (run closing () lossAnnounced).transport.journal.toList =
      [[.read], sending (.status .leaseLost),
        [.read], sending CheckpointTarget.lastDelivered.request,
        [.read], sending (.status .shardEnded), [.read]].flatten ∧
    Journal.signals (run insisting () lossAnswered).transport.journal.toList =
      [[.read], sending CheckpointTarget.lastDelivered.request,
        [.read], sending CheckpointTarget.lastDelivered.request,
        [.read], sending (.status .shardEnded), [.read]].flatten := by
  refine ⟨?_, ?_⟩
  · obtain ⟨s, hcourse, -, hpasses⟩ :=
      run_course closing () (⟨rfl, Sink.healthy_healthy⟩ : lossAnnounced.Reliable)
    have htalk : (closing.shardEnded ()).talk [Text.Utf8.bytesOf recordedText] =
        ⟨((), .ok ()), [⟨.lastDelivered, some (Text.Utf8.bytesOf recordedText)⟩], []⟩ := by
      simp only [closing, Activity.done, Activity.talk, Recovery.talk, Dialogue.andThen,
        Dialogue.ask, CheckpointAnswer.ofLines, ofLine_recorded]
      rfl
    have hended : Opens closing () (_ :: [Text.Utf8.bytesOf recordedText]) _ _ _ :=
      .intro ofLine_shardEnded rfl
    rw [htalk] at hended
    have htalk' : (closing.leaseLost ()).talk
        [Text.Utf8.bytesOf shardEndedText, Text.Utf8.bytesOf recordedText] =
        ⟨((), .ok ()), [],
          [Text.Utf8.bytesOf shardEndedText, Text.Utf8.bytesOf recordedText]⟩ := rfl
    have hlost : Opens closing () (_ :: [Text.Utf8.bytesOf shardEndedText,
        Text.Utf8.bytesOf recordedText]) _ _ _ := .intro ofLine_leaseLost rfl
    rw [htalk'] at hlost
    have hlines : lossAnnounced.input.lines =
        [leaseLostText, shardEndedText, recordedText].map Text.Utf8.bytesOf := by cbv
    rw [hlines] at hcourse
    obtain rfl := Course.unique (.handled hlost rfl (.handled hended rfl (.ended ()))) hcourse
    rw [hpasses.signals, Transcript.signals_after rfl, Transcript.signals_after rfl,
      Block.signals_of_ok rfl, Block.signals_of_ok rfl]
    simp [Transcript.signals, Handshake.signals, Handshake.output, sending, lossAnnounced, bringing,
      Journal.signals, Message.action]
  · obtain ⟨s, hcourse, -, hpasses⟩ :=
      run_course insisting () (⟨rfl, Sink.healthy_healthy⟩ : lossAnswered.Reliable)
    have htalk : (insisting.shardEnded ()).talk
        [Text.Utf8.bytesOf leaseLostText, Text.Utf8.bytesOf recordedText] =
        ⟨((), .ok ()), [⟨.lastDelivered, some (Text.Utf8.bytesOf leaseLostText)⟩,
          ⟨.lastDelivered, some (Text.Utf8.bytesOf recordedText)⟩], []⟩ := by
      simp only [insisting, Activity.done, Activity.talk, Recovery.talk, Dialogue.andThen,
        Dialogue.ask, CheckpointAnswer.ofLines, ofLine_leaseLost, ofLine_recorded,
        CheckpointAnswer.ofMessage, CheckpointHandler.retrying, List.tail_cons, List.head?_cons]
      rfl
    have hended : Opens insisting () (_ :: [Text.Utf8.bytesOf leaseLostText,
        Text.Utf8.bytesOf recordedText]) _ _ _ := .intro ofLine_shardEnded rfl
    rw [htalk] at hended
    have hlines : lossAnswered.input.lines =
        [shardEndedText, leaseLostText, recordedText].map Text.Utf8.bytesOf := by cbv
    rw [hlines] at hcourse
    obtain rfl := Course.unique (.handled hended rfl (.ended ())) hcourse
    rw [hpasses.signals, Transcript.signals_after rfl, Block.signals_of_ok rfl]
    simp [Transcript.signals, Handshake.signals, Handshake.output, sending, lossAnswered, bringing,
      Journal.signals, Message.action]

end Session

end ShardBridge
