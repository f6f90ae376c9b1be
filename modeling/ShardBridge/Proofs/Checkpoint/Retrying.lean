/-
  ShardBridge.Proofs.Checkpoint.Retrying

  A checkpoint that is tried again when it is refused.  The first item of the
  feed that is no refusal stops it, and so does the refusal after the last try
  that the budget allows (`Stops`); up to there every try sends the same
  request and reads one item, and between two tries there is one pause
  (`Tried`).  The count is exact for every budget, every pause and every input
  (`Transport.checkpoint_retrying`).
-/
import ShardBridge.Checkpoint.RetryPolicy
import ShardBridge.Proofs.Checkpoint.Handshake

namespace ShardBridge

open CheckpointHandler (retrying retryEntry exhaustedEntry retryMessage)
open Session (outputOf outputOf_silent)

/-! ## Feeds further on -/

namespace Feed

/-- What is left of a feed after so many lines. -/
def drop (n : Nat) (f : Feed) : Feed := ⟨f.lines.drop n, f.failure⟩

theorem drop_succ (n : Nat) (f : Feed) : f.drop (n + 1) = f.rest.drop n := by
  rw [drop, drop, rest, ← List.drop_one, List.drop_drop, Nat.add_comm]

theorem drop_one (f : Feed) : f.drop 1 = f.rest := f.drop_succ 0

/-- The next item refuses a request. -/
def Refuses (f : Feed) : Prop := ∃ error, f.Answers (.ok (.failed error))

end Feed

/-! ## Stopping -/

/-- After so many refusals the tries come to an end, and the checkpoint comes out so: with an answer
    that is no refusal, or with the refusal that uses up the budget. -/
inductive Stops (f : Feed) (budget : Nat) : Nat → Except SessionError Unit → Prop
  | recorded {r : Nat} (h : (f.drop r).Answers (.ok .recorded)) : Stops f budget r (.ok ())
  | exhausted (h : (f.drop budget).Refuses) : Stops f budget budget (.ok ())
  | broken {r : Nat} {e : SessionError} (h : (f.drop r).Answers (.error e)) :
    Stops f budget r (.error e)

/-- A refusal before uses up one retry. -/
theorem Stops.after {f : Feed} {budget r : Nat} {result : Except SessionError Unit}
    (h : Stops f.rest budget r result) : Stops f (budget + 1) (r + 1) result := by
  cases h with
  | recorded h =>
    rw [← Feed.drop_succ] at h
    exact .recorded h
  | exhausted h =>
    rw [← Feed.drop_succ] at h
    exact .exhausted h
  | broken h =>
    rw [← Feed.drop_succ] at h
    exact .broken h

/-- When everything is refused, it is the budget that stops the tries. -/
theorem Stops.eq_budget {f : Feed} {budget r : Nat} {result : Except SessionError Unit}
    (h : Stops f budget r result) (hrefuses : (f.drop r).Refuses) :
    r = budget ∧ result = .ok () := by
  obtain ⟨error, hrefuses⟩ := hrefuses
  cases h with
  | recorded h => cases h.unique hrefuses
  | exhausted h => exact ⟨rfl, rfl⟩
  | broken h => cases h.unique hrefuses

/-! ## Tries -/

namespace Transport

/-- The beats of so many tries: a request and a read for each, and one pause between two of them. -/
def tries (delay : Nat) (target : CheckpointTarget) (n : Nat) : List Beat :=
  [Beat.pause delay].intercalate (List.replicate n (asking target))

theorem tries_one (delay : Nat) (target : CheckpointTarget) :
    tries delay target 1 = asking target := by
  simp [tries]

theorem tries_succ (delay : Nat) (target : CheckpointTarget) (n : Nat) :
    tries delay target (n + 2) = asking target ++ .pause delay :: tries delay target (n + 1) := by
  simp [tries, List.replicate_succ, List.intercalate]

/-- The entries that announce the first so many retries of a budget.  Each tells how many are left
    after it, from one less than the budget downwards. -/
def countdown (target : CheckpointTarget) (delay budget r : Nat) : List LogEntry :=
  ((List.range budget).reverse.take r).map fun left => retryEntry target left delay

theorem countdown_succ (target : CheckpointTarget) (delay budget r : Nat) :
    countdown target delay (budget + 1) (r + 1) =
      retryEntry target budget delay :: countdown target delay budget r := by
  rw [countdown, List.range_succ, List.reverse_append, List.reverse_singleton,
    List.singleton_append, List.take_succ_cons, List.map_cons]
  rfl

/-- From the first handle to the second, a checkpoint was tried, and again so many times. -/
structure Tried (target : CheckpointTarget) (delay budget r : Nat) (t t' : Transport) : Prop where
  beats : Journal.beats t'.journal.toList =
    Journal.beats t.journal.toList ++ tries delay target (r + 1)
  output : outputOf t' =
    outputOf t ++ (List.replicate (r + 1) (lineBytes target.request.encode)).flatten
  feed : t'.input.feed = t.input.feed.drop (r + 1)
  retries : Journal.retries t'.journal.toList =
    Journal.retries t.journal.toList ++ countdown target delay budget r

/-- The handle on which the next try is made: the handler has told of it, and has paused. -/
def resume (target : CheckpointTarget) (left delay : Nat) (t : Transport) : Transport :=
  (t.record (.logged (retryEntry target left delay))).record (.paused delay)

variable {target : CheckpointTarget} {delay budget r : Nat} {error : String}
  {t t₁ t' : Transport}

/-! ## Single tries -/

/-- Without a retry left, the handler lets a refusal be. -/
theorem checkpoint_retrying_zero (h : t.exchange target = (.ok (.failed error), t₁)) :
    t.checkpoint target (retrying delay 0) =
      (.ok (), t₁.record (.logged (exhaustedEntry target error))) := by
  rw [checkpoint_of_refused h]
  rfl

/-- With a retry left, a refusal starts the checkpoint anew, with one retry less. -/
theorem checkpoint_retrying_succ (h : t.exchange target = (.ok (.failed error), t₁)) :
    t.checkpoint target (retrying delay (budget + 1)) =
      (t₁.resume target budget delay).checkpoint target (retrying delay budget) := by
  rw [checkpoint_of_refused h, retrying, Recovery.run, Recovery.run, checkpoint, resume]
  rfl

theorem tried_exchange (delay budget : Nat) (target : CheckpointTarget)
    (h : t.output.policy.Healthy) : Tried target delay budget 0 t (t.exchange target).2 := by
  have hasked := (exchange_asked target h).2
  refine ⟨?_, ?_, ?_, ?_⟩
  · rw [tries_one]
    exact hasked.beats
  · rw [outputOf_exchange target h, List.replicate_one, List.flatten_singleton]
    rfl
  · rw [Feed.drop_one]
    exact hasked.feed
  · rw [hasked.retries]
    exact (List.append_nil _).symm

/-- An entry of another kind may follow. -/
theorem Tried.logged {entry : LogEntry} (h : Tried target delay budget r t t')
    (hentry : entry.message ≠ retryMessage) :
    Tried target delay budget r t (t'.record (.logged entry)) := by
  have hsilent : Silent t' (t'.record (.logged entry)) := silent_record trivial
  have hsteady : Steady t' (t'.record (.logged entry)) := steady_record hentry
  refine ⟨?_, ?_, h.feed, ?_⟩
  · rw [hsteady.beats (hsilent.signals.trans (List.append_nil _).symm), h.beats]
    exact List.append_nil _
  · rw [outputOf_silent hsilent, h.output]
  · rw [hsteady.retries, h.retries]

/-- The tries after a pause go on from the first one. -/
theorem Tried.again (h : Tried target delay (budget + 1) 0 t t₁)
    (h' : Tried target delay budget r (t₁.resume target budget delay) t') :
    Tried target delay (budget + 1) (r + 1) t t' := by
  -- The journal of the whole is that of the first try, the announcement, the pause, and the rest.
  have hjournal : (t₁.resume target budget delay).journal.toList =
      t₁.journal.toList ++ [.logged (retryEntry target budget delay), .paused delay] := by
    simp [resume, record]
  have hbeats : Journal.beats [.logged (retryEntry target budget delay), .paused delay] =
      [.pause delay] := rfl
  have hretries : Journal.retries [.logged (retryEntry target budget delay), .paused delay] =
      [retryEntry target budget delay] := rfl
  have houtput : outputOf (t₁.resume target budget delay) = outputOf t₁ := by
    rw [outputOf, hjournal, Journal.bytes_append]
    exact List.append_nil _
  refine ⟨?_, ?_, ?_, ?_⟩
  · rw [h'.beats, hjournal, Journal.beats_append, hbeats, h.beats, tries_one, tries_succ]
    simp only [List.append_assoc, List.singleton_append]
  · rw [h'.output, houtput, h.output, List.append_assoc, ← List.flatten_append,
      List.replicate_append_replicate, Nat.add_comm (0 + 1)]
  · have hfeed : (t₁.resume target budget delay).input.feed = t.input.feed.drop 1 := h.feed
    rw [h'.feed, hfeed, Feed.drop_one, Feed.drop_succ (r + 1)]
  · have hnone : countdown target delay (budget + 1) 0 = [] := rfl
    rw [h'.retries, hjournal, Journal.retries_append, hretries, h.retries, hnone, List.append_nil,
      countdown_succ, List.append_assoc, List.singleton_append]

/-- A try stops the checkpoint, or it is refused. -/
theorem exchange_stops_or_refuses (delay budget : Nat) (target : CheckpointTarget)
    (h : t.output.policy.Healthy) :
    (Stops t.input.feed budget 0 (t.checkpoint target (retrying delay budget)).1 ∧
      Tried target delay budget 0 t (t.checkpoint target (retrying delay budget)).2) ∨
    ∃ error t₁, t.exchange target = (.ok (.failed error), t₁) ∧ t.input.feed.Refuses ∧
      Tried target delay budget 0 t t₁ ∧ t₁.output.policy.Healthy := by
  have htried := tried_exchange delay budget target h
  have hhealthy := frame_healthy.exchange target t h
  have hanswers := Feed.answers_iff.2 (exchange_asked target h).1.symm
  rcases hexchange : t.exchange target with ⟨e | _ | error, t₁⟩ <;>
    rw [hexchange] at htried hhealthy hanswers
  · rw [checkpoint_of_broken hexchange]
    exact .inl ⟨.broken hanswers, htried⟩
  · rw [checkpoint_of_recorded hexchange]
    exact .inl ⟨.recorded hanswers, htried⟩
  · exact .inr ⟨error, t₁, rfl, ⟨error, hanswers⟩, htried, hhealthy⟩

/-! ## The whole checkpoint -/

/-- A checkpoint with a budget of retries stops at the first answer that is no refusal, and at the
    refusal after the last retry.  It has sent the same request as often as it was tried, has read
    one item of the feed for each, and has paused once between two tries.  A feed that has come to
    its failure or its end is no refusal and stays there, so it stops the checkpoint. -/
theorem checkpoint_retrying (delay budget : Nat) (target : CheckpointTarget) {t : Transport}
    (h : t.output.policy.Healthy) :
    target.Asks target.request.encode ∧
      ∃ r ≤ budget, (∀ i < r, (t.input.feed.drop i).Refuses) ∧
        Stops t.input.feed budget r (t.checkpoint target (retrying delay budget)).1 ∧
        Tried target delay budget r t (t.checkpoint target (retrying delay budget)).2 := by
  refine ⟨target.asks_request, ?_⟩
  -- By induction on the budget: what a refusal leaves is the same checkpoint with one retry less.
  induction budget generalizing t with
  | zero =>
    obtain ⟨hstops, htried⟩ | ⟨error, t₁, hexchange, hrefuses, htried, -⟩ :=
      exchange_stops_or_refuses delay 0 target h
    · exact ⟨0, Nat.le_refl _, fun i hi => absurd hi (Nat.not_lt_zero i), hstops, htried⟩
    · rw [checkpoint_retrying_zero hexchange]
      have hentry : (exhaustedEntry target error).message ≠ retryMessage := by
        simp [exhaustedEntry, retryMessage]
      exact ⟨0, Nat.le_refl _, fun i hi => absurd hi (Nat.not_lt_zero i), .exhausted hrefuses,
        htried.logged hentry⟩
  | succ budget ih =>
    obtain ⟨hstops, htried⟩ | ⟨error, t₁, hexchange, hfirst, htried, hhealthy⟩ :=
      exchange_stops_or_refuses delay (budget + 1) target h
    · exact ⟨0, Nat.zero_le _, fun i hi => absurd hi (Nat.not_lt_zero i), hstops, htried⟩
    · rw [checkpoint_retrying_succ hexchange]
      have hrest : (t₁.resume target budget delay).input.feed = t.input.feed.rest :=
        htried.feed.trans t.input.feed.drop_one
      obtain ⟨r, hr, hrefuses, hstops, hagain⟩ := @ih (t₁.resume target budget delay) hhealthy
      rw [hrest] at hrefuses hstops
      refine ⟨r + 1, Nat.succ_le_succ hr, ?_, hstops.after, htried.again hagain⟩
      intro i hi
      cases i with
      | zero => exact hfirst
      | succ i =>
        rw [Feed.drop_succ]
        exact hrefuses i (Nat.lt_of_succ_lt_succ hi)

/-- The loss of the lease is the answer three times, and only then the position is recorded. -/
def lossThrice : Transport :=
  Session.bringing
    [Session.leaseLostText, Session.leaseLostText, Session.leaseLostText, Session.recordedText]

theorem feed_lossThrice : lossThrice.input.feed =
    ⟨[Session.leaseLostText, Session.leaseLostText, Session.leaseLostText,
      Session.recordedText].map Text.Utf8.bytesOf, none⟩ := by cbv

theorem refuses_lossThrice : ∀ r ≤ 2, (lossThrice.input.feed.drop r).Refuses := by
  intro r hr
  have hnext : (lossThrice.input.feed.drop r).next =
      .line (Text.Utf8.bytesOf Session.leaseLostText) := by
    rw [feed_lossThrice]
    interval_cases r <;> rfl
  exact ⟨_, .failed hnext Session.ofLine_leaseLost (.other (by decide))⟩

/-- Two retries are used up by three refusals, and the answer after them is left unread. -/
theorem checkpoint_retrying_lossThrice :
    lossThrice.output.policy.Healthy ∧
      (lossThrice.checkpoint .lastDelivered (retrying 1000 2)).1 = .ok () ∧
      Journal.beats (lossThrice.checkpoint .lastDelivered (retrying 1000 2)).2.journal.toList =
        tries 1000 .lastDelivered 3 ∧
      (lossThrice.checkpoint .lastDelivered (retrying 1000 2)).2.input.feed =
        ⟨[Text.Utf8.bytesOf Session.recordedText], none⟩ := by
  have hhealthy : lossThrice.output.policy.Healthy := Sink.healthy_healthy
  obtain ⟨-, r, hr, -, hstops, htried⟩ := checkpoint_retrying 1000 2 .lastDelivered hhealthy
  obtain ⟨rfl, hresult⟩ := hstops.eq_budget (refuses_lossThrice r hr)
  refine ⟨hhealthy, hresult, htried.beats, ?_⟩
  rw [htried.feed, feed_lossThrice]
  rfl

end Transport

end ShardBridge
