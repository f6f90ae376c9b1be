/-
  ShardBridge.Proofs.Checkpoint.RetryWindow

  How long a checkpoint takes that is tried again.  Whatever the streams do, it
  makes one request more than it pauses, and no more pauses than its budget
  (`Transport.retrying_pace`); when every answer is a refusal, the budget is
  used up (`Transport.retrying_pace_of_refuses`).  For settings that are not
  refused, the time of all pauses is the window that they are warned of
  (`Config.retries_within_window`).
-/
import ShardBridge.Proofs.Checkpoint.Retrying
import ShardBridge.Proofs.Config.Validation

namespace ShardBridge

open CheckpointHandler (retrying)

namespace Transport

/-- The requests that a checkpoint makes. -/
def checkpointRequests (target : CheckpointTarget) (handler : CheckpointHandler) (t : Transport) :
    List Request :=
  (Recovery.checkpoint target handler .finish).requests t

/-- The milliseconds of all pauses so far. -/
def clock (t : Transport) : Nat := Journal.duration t.journal.toList

variable {target : CheckpointTarget} {handler : CheckpointHandler} {delay budget : Nat}
  {error : String} {t t₁ : Transport}

theorem clock_record (e : Event) (t : Transport) :
    (t.record e).clock = t.clock + Journal.duration [e] := by
  rw [clock, record, Array.toList_push, Journal.duration_append]
  rfl

theorem clock_resume (target : CheckpointTarget) (left delay : Nat) (t : Transport) :
    (t.resume target left delay).clock = t.clock + delay := by
  rw [resume, clock_record, clock_record]
  rfl

theorem clock_exchange {answer : Except SessionError CheckpointAnswer}
    (h : t.exchange target = (answer, t₁)) : t₁.clock = t.clock := by
  have hclock : (t.exchange target).2.clock = t.clock := (exchange_steady target t).duration
  rwa [h] at hclock

/-! ## Single tries -/

/-- Without a refusal there is one request, and no pause. -/
theorem checkpoint_of_unrefused
    (h : ¬ ∃ error t₁, t.exchange target = (.ok (.failed error), t₁)) :
    (t.checkpointRequests target handler).length = 1 ∧
      (t.checkpoint target handler).2.clock = t.clock := by
  rcases hexchange : t.exchange target with ⟨e | _ | error, t₁⟩
  · rw [checkpointRequests, Recovery.requests, checkpoint_of_broken hexchange, hexchange]
    exact ⟨rfl, clock_exchange hexchange⟩
  · rw [checkpointRequests, Recovery.requests, checkpoint_of_recorded hexchange, hexchange]
    exact ⟨rfl, clock_exchange hexchange⟩
  · exact absurd ⟨error, t₁, hexchange⟩ h

/-- After a refusal the requests are those of the handler. -/
theorem checkpointRequests_of_refused (h : t.exchange target = (.ok (.failed error), t₁)) :
    t.checkpointRequests target handler = ⟨target, t⟩ :: (handler target error).requests t₁ := by
  rw [checkpointRequests, Recovery.requests, h]
  exact congrArg _ (List.append_nil _)

theorem checkpointRequests_retrying_succ (h : t.exchange target = (.ok (.failed error), t₁)) :
    t.checkpointRequests target (retrying delay (budget + 1)) =
      ⟨target, t⟩ ::
        (t₁.resume target budget delay).checkpointRequests target (retrying delay budget) := by
  rw [checkpointRequests_of_refused h, retrying, Recovery.requests, Recovery.requests,
    checkpointRequests, resume]
  rfl

/-- On a healthy output, an item that refuses is read as a refusal. -/
theorem exchange_of_refuses (target : CheckpointTarget) (hhealthy : t.output.policy.Healthy)
    (h : t.input.feed.Refuses) :
    ∃ error t₁, t.exchange target = (.ok (.failed error), t₁) ∧
      t₁.input.feed = t.input.feed.rest ∧ t₁.output.policy.Healthy := by
  obtain ⟨error, hanswers⟩ := h
  obtain ⟨hanswer, hasked⟩ := exchange_asked target hhealthy
  have hexchange : t.exchange target = (.ok (.failed error), (t.exchange target).2) := by
    rw [hanswers.eq, ← hanswer]
  exact ⟨error, _, hexchange, hasked.feed, frame_healthy.exchange target t hhealthy⟩

/-! ## Any streams -/

/-- A checkpoint makes one request more than it pauses, and it pauses no more often than its budget
    allows. -/
theorem retrying_pace (delay budget : Nat) (target : CheckpointTarget) (t : Transport) :
    ∃ r ≤ budget, (t.checkpointRequests target (retrying delay budget)).length = r + 1 ∧
      (t.checkpoint target (retrying delay budget)).2.clock = t.clock + r * delay := by
  -- By induction on the budget: a refusal adds one request and one pause to those of the rest.
  induction budget generalizing t with
  | zero =>
    refine ⟨0, Nat.le_refl _, ?_⟩
    rw [Nat.zero_mul, Nat.add_zero]
    by_cases hrefused : ∃ error t₁, t.exchange target = (.ok (.failed error), t₁)
    · obtain ⟨error, t₁, hexchange⟩ := hrefused
      rw [checkpointRequests_of_refused hexchange, checkpoint_retrying_zero hexchange]
      exact ⟨rfl, (clock_record _ t₁).trans (clock_exchange hexchange)⟩
    · exact checkpoint_of_unrefused hrefused
  | succ budget ih =>
    by_cases hrefused : ∃ error t₁, t.exchange target = (.ok (.failed error), t₁)
    · obtain ⟨error, t₁, hexchange⟩ := hrefused
      obtain ⟨r, hr, hlength, htime⟩ := ih (t₁.resume target budget delay)
      rw [checkpointRequests_retrying_succ hexchange, checkpoint_retrying_succ hexchange]
      refine ⟨r + 1, Nat.succ_le_succ hr, congrArg Nat.succ hlength, ?_⟩
      calc ((t₁.resume target budget delay).checkpoint target (retrying delay budget)).2.clock
          = t₁.clock + delay + r * delay := by rw [htime, clock_resume]
        _ = t.clock + (r + 1) * delay := by rw [clock_exchange hexchange, Nat.succ_mul]; omega
    · obtain ⟨hlength, htime⟩ := @checkpoint_of_unrefused _ (retrying delay (budget + 1)) _ hrefused
      exact ⟨0, Nat.zero_le _, hlength, by rw [htime, Nat.zero_mul, Nat.add_zero]⟩

/-- When every answer is a refusal, all of the budget is used. -/
theorem length_requests_of_refuses (delay budget : Nat) (target : CheckpointTarget) {t : Transport}
    (hhealthy : t.output.policy.Healthy)
    (hrefuses : ∀ i ≤ budget, (t.input.feed.drop i).Refuses) :
    (t.checkpointRequests target (retrying delay budget)).length = budget + 1 := by
  induction budget generalizing t with
  | zero =>
    obtain ⟨error, t₁, hexchange, -⟩ :=
      exchange_of_refuses target hhealthy (hrefuses 0 (Nat.le_refl _))
    rw [checkpointRequests_of_refused hexchange]
    rfl
  | succ budget ih =>
    obtain ⟨error, t₁, hexchange, hfeed, hhealthy₁⟩ :=
      exchange_of_refuses target hhealthy (hrefuses 0 (Nat.zero_le _))
    have hrest : ∀ i ≤ budget, ((t₁.resume target budget delay).input.feed.drop i).Refuses := by
      intro i hi
      have hnext := hrefuses (i + 1) (Nat.succ_le_succ hi)
      rw [Feed.drop_succ, ← hfeed] at hnext
      exact hnext
    rw [checkpointRequests_retrying_succ hexchange]
    exact congrArg Nat.succ (ih hhealthy₁ hrest)

/-- When every answer is a refusal, all pauses that the budget allows are made. -/
theorem retrying_pace_of_refuses (delay budget : Nat) (target : CheckpointTarget) {t : Transport}
    (hhealthy : t.output.policy.Healthy)
    (hrefuses : ∀ i ≤ budget, (t.input.feed.drop i).Refuses) :
    (t.checkpointRequests target (retrying delay budget)).length = budget + 1 ∧
      (t.checkpoint target (retrying delay budget)).2.clock = t.clock + budget * delay := by
  have hall := length_requests_of_refuses delay budget target hhealthy hrefuses
  obtain ⟨r, -, hlength, htime⟩ := retrying_pace delay budget target t
  obtain rfl : r = budget := by omega
  exact ⟨hlength, htime⟩

/-- A checkpoint can be tried again without a pause just when there are retries, and no delay
    between them. -/
theorem unpaused_retry_iff (delay budget : Nat) :
    (∃ target t, 2 ≤ (checkpointRequests target (retrying delay budget) t).length ∧
      (t.checkpoint target (retrying delay budget)).2.clock = t.clock) ↔
      0 < budget ∧ delay = 0 := by
  constructor
  · rintro ⟨target, t, hlength, htime⟩
    obtain ⟨r, hr, hrequests, hclock⟩ := retrying_pace delay budget target t
    have hnone : r * delay = 0 := by omega
    rcases Nat.mul_eq_zero.1 hnone with hzero | hzero
    · omega
    · exact ⟨by omega, hzero⟩
  · -- A daemon that refuses once is enough: a second request follows, whatever comes of it.
    rintro ⟨hbudget, rfl⟩
    obtain ⟨budget, rfl⟩ : ∃ n, budget = n + 1 := ⟨budget - 1, by omega⟩
    obtain ⟨error, t₁, hexchange, -⟩ := exchange_of_refuses .lastDelivered
      (Sink.healthy_healthy : lossAtOnce.output.policy.Healthy) ⟨_, answers_lossAtOnce⟩
    refine ⟨.lastDelivered, lossAtOnce, ?_, ?_⟩
    · obtain ⟨r, -, hlength, -⟩ :=
        retrying_pace 0 budget .lastDelivered (t₁.resume .lastDelivered budget 0)
      rw [checkpointRequests_retrying_succ hexchange, List.length_cons, hlength]
      omega
    · obtain ⟨r, -, -, htime⟩ := retrying_pace 0 (budget + 1) .lastDelivered lossAtOnce
      rw [htime, Nat.mul_zero, Nat.add_zero]

end Transport

/-! ## Settings -/

namespace Config

open Transport (checkpointRequests)

/-- The milliseconds of all pauses together, when every retry is made. -/
def retryTime (c : Config) : Nat := c.retries.toNat * c.retryDelay.toNat

/-- The settings bound every checkpoint that is tried again by them, whatever the streams do, and a
    daemon that refuses everything shows that the bounds are exact.  A read that fails ends the
    checkpoint, so it does not matter what the stream would do after it. -/
structure BoundsRetries (c : Config) : Prop where
  atMost : c.retries.toNat + 1 ≤ 101
  requests : ∀ target t,
    (checkpointRequests target (RetryPolicy.ofConfig c).handler t).length ≤ c.retries.toNat + 1
  time : ∀ target (t : Transport),
    (t.checkpoint target (RetryPolicy.ofConfig c).handler).2.clock ≤ t.clock + c.retryTime
  attained : ∀ target (t : Transport), t.output.policy.Healthy →
    (∀ i ≤ c.retries.toNat, (t.input.feed.drop i).Refuses) →
      (checkpointRequests target (RetryPolicy.ofConfig c).handler t).length =
          c.retries.toNat + 1 ∧
        (t.checkpoint target (RetryPolicy.ofConfig c).handler).2.clock = t.clock + c.retryTime

/-- The warnings tell exactly this of the retries. -/
structure TellsRetries (c : Config) (ws : List Warning) : Prop where
  /-- The time of the warning is exact, and no word overflows on the way. -/
  window : c.retryWindow = c.retryTime ∧ c.retryTime < greatestWindow ∧
    (c.retries.toUInt64 * c.retryDelay).toNat = c.retryTime
  long : ∀ s, .longRetryWindow s ∈ ws ↔ 300 < c.retryTime / 1000 ∧ s = c.retryTime / 1000
  quiet : (∀ s, .longRetryWindow s ∉ ws) → c.retryTime / 1000 ≤ 300
  zero : ∀ n, .zeroRetryDelay n ∈ ws ↔
    (0 < c.retries.toNat ∧ c.retryDelay.toNat = 0) ∧ n = c.retries.toNat
  /-- A checkpoint can be tried again without a pause. -/
  unpaused : (∃ n, .zeroRetryDelay n ∈ ws) ↔ ∃ target, ∃ t : Transport,
    2 ≤ (checkpointRequests target (RetryPolicy.ofConfig c).handler t).length ∧
      (t.checkpoint target (RetryPolicy.ofConfig c).handler).2.clock = t.clock
  apart : ∀ n s, .zeroRetryDelay n ∈ ws → .longRetryWindow s ∉ ws

variable {c : Config} {ws : List Warning}

theorem handler_ofConfig (c : Config) :
    (RetryPolicy.ofConfig c).handler = retrying c.retryDelay.toNat c.retries.toNat := rfl

theorem boundsRetries_of_validate (h : c.validate = .ok ws) : c.BoundsRetries := by
  obtain ⟨hretries, -⟩ := bounds_of_validate h
  refine ⟨Nat.succ_le_succ hretries, ?_, ?_, ?_⟩
  · intro target t
    obtain ⟨r, hr, hlength, -⟩ :=
      t.retrying_pace c.retryDelay.toNat c.retries.toNat target
    rw [handler_ofConfig, hlength]
    exact Nat.succ_le_succ hr
  · intro target t
    obtain ⟨r, hr, -, htime⟩ :=
      t.retrying_pace c.retryDelay.toNat c.retries.toNat target
    rw [handler_ofConfig, htime]
    exact Nat.add_le_add_left (Nat.mul_le_mul_right _ hr) _
  · intro target t hhealthy hrefuses
    exact Transport.retrying_pace_of_refuses _ _ target hhealthy hrefuses

theorem tellsRetries_of_validate (h : c.validate = .ok ws) : c.TellsRetries ws := by
  have hwindow : c.retryWindow = c.retryTime := retryWindow_of_validate h
  obtain ⟨-, rfl⟩ := validate_eq_ok_iff.1 h
  have hlong : ∀ s, .longRetryWindow s ∈ c.warnings ↔
      300 < c.retryTime / 1000 ∧ s = c.retryTime / 1000 := by
    intro s
    rw [mem_warnings_longRetryWindow, hwindow, longestQuietWindow]
  refine ⟨⟨hwindow, window_lt h, toNat_window h⟩, hlong, ?_,
    fun n => mem_warnings_zeroRetryDelay, ?_, ?_⟩
  · intro hquiet
    by_contra hlonger
    exact hquiet _ ((hlong _).2 ⟨by omega, rfl⟩)
  · rw [handler_ofConfig, Transport.unpaused_retry_iff]
    constructor
    · rintro ⟨n, hn⟩
      exact (mem_warnings_zeroRetryDelay.1 hn).1
    · intro hzero
      exact ⟨_, mem_warnings_zeroRetryDelay.2 ⟨hzero, rfl⟩⟩
  · -- Without a pause there is no time to be warned of.
    intro n s hzero hs
    obtain ⟨⟨-, hdelay⟩, -⟩ := mem_warnings_zeroRetryDelay.1 hzero
    obtain ⟨hlonger, -⟩ := (hlong s).1 hs
    rw [retryTime, hdelay] at hlonger
    omega

/-- Settings that are not refused bound the retries at run time, and their warnings tell the
    bounds. -/
theorem retries_within_window (h : c.validate = .ok ws) : c.BoundsRetries ∧ c.TellsRetries ws :=
  ⟨boundsRetries_of_validate h, tellsRetries_of_validate h⟩

/-- Two retries with more than three minutes before each. -/
def patient : Config :=
  { empty with checkpointRetries := some 2, checkpointRetryDelay := some 200000 }

/-- Three refusals make the most of these settings: three requests, in the time that is warned
    of. -/
theorem retries_within_window_patient :
    patient.validate = .ok [.longRetryWindow 400] ∧
      (checkpointRequests .lastDelivered (RetryPolicy.ofConfig patient).handler
        Transport.lossThrice).length = 3 ∧
      (Transport.lossThrice.checkpoint .lastDelivered
        (RetryPolicy.ofConfig patient).handler).2.clock = 400000 := by
  have hvalid : patient.validate = .ok [.longRetryWindow 400] := by decide
  obtain ⟨hbounds, -⟩ := retries_within_window hvalid
  exact ⟨hvalid, hbounds.attained .lastDelivered _ Sink.healthy_healthy
    Transport.refuses_lossThrice⟩

end Config

end ShardBridge
