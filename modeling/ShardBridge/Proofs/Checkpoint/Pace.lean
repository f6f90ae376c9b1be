/-
  ShardBridge.Proofs.Checkpoint.Pace

  What passes in a session, together with its pauses and notes.  Beats are the
  signals of a session with the pauses and notes in between, in their order.
  An exchange has no beats but its signals: the request and one read
  (`Transport.exchange_asked`); whatever the streams do, it takes no time, and
  nothing in it looks like a handler at work (`Transport.exchange_steady`).
-/
import ShardBridge.Proofs.Session.Request

namespace ShardBridge

open Transport (Wrote messageBytes)

/-! ## Beats -/

/-- A signal, or what a handler or a callback puts between two of them. -/
inductive Beat where
  | signal (s : Signal)
  /-- Time passes, in milliseconds. -/
  | pause (millis : Nat)
  | note (text : String)
  deriving DecidableEq, Repr

/-- The message of the entry that a handler makes before it tries again. -/
def CheckpointHandler.retryMessage : String := "retrying checkpoint"

namespace Journal

/-- The beats among the events. -/
def beats : List Event → List Beat
  | [] => []
  | .reading :: rest => .signal .read :: beats rest
  | .wrote .output taken :: rest => taken.map (fun b => .signal (.byte b)) ++ beats rest
  | .paused millis :: rest => .pause millis :: beats rest
  | .noted text :: rest => .note text :: beats rest
  | _ :: rest => beats rest

/-- The entries that announce a further try. -/
def retries (es : List Event) : List LogEntry :=
  (entries es).filter (·.message = CheckpointHandler.retryMessage)

theorem beats_append (a b : List Event) : beats (a ++ b) = beats a ++ beats b := by
  induction a with
  | nil => rfl
  | cons e a ih =>
    cases e with
    | wrote c taken => cases c <;> simp [beats, ih]
    | _ => simp [beats, ih]

theorem retries_append (a b : List Event) : retries (a ++ b) = retries a ++ retries b := by
  rw [retries, entries_append, List.filter_append]
  rfl

end Journal

/-! ## Steady stretches -/

/-- The event is no pause, no note, and no entry that announces a further try. -/
def Event.IsSteady : Event → Prop
  | .paused _ => False
  | .noted _ => False
  | .logged entry => entry.message ≠ CheckpointHandler.retryMessage
  | _ => True

namespace Journal

variable {es : List Event}

/-- Without pauses and notes the signals are all there is. -/
theorem beats_of_steady (h : ∀ e ∈ es, e.IsSteady) : beats es = (signals es).map .signal := by
  induction es with
  | nil => rfl
  | cons e es ih =>
    have he := h e (List.mem_cons_self ..)
    have ih := ih fun e he => h e (List.mem_cons_of_mem _ he)
    cases e with
    | paused millis => exact he.elim
    | noted text => exact he.elim
    | wrote c taken => cases c <;> simp [beats, signals, ih]
    | _ => simp [beats, signals, ih]

theorem duration_of_steady (h : ∀ e ∈ es, e.IsSteady) : duration es = 0 := by
  induction es with
  | nil => rfl
  | cons e es ih =>
    have he := h e (List.mem_cons_self ..)
    have ih := ih fun e he => h e (List.mem_cons_of_mem _ he)
    cases e with
    | paused millis => exact he.elim
    | _ => exact ih

theorem retries_of_steady (h : ∀ e ∈ es, e.IsSteady) : retries es = [] := by
  induction es with
  | nil => rfl
  | cons e es ih =>
    have he := h e (List.mem_cons_self ..)
    have ih := ih fun e he => h e (List.mem_cons_of_mem _ he)
    cases e with
    | logged entry =>
      have hfirst : entry.message ≠ CheckpointHandler.retryMessage := he
      rw [retries, entries, List.filter_cons_of_neg (by simpa using hfirst)]
      exact ih
    | _ => exact ih

end Journal

namespace Transport

/-- From the first handle to the second, there was no pause, no note, and no further try of a
    handler. -/
def Steady (t t' : Transport) : Prop :=
  ∃ es, t'.journal.toList = t.journal.toList ++ es ∧ ∀ e ∈ es, e.IsSteady

variable {t t' t'' : Transport} {c : Channel} {bytes : List UInt8}

theorem Steady.trans (h : Steady t t') (h' : Steady t' t'') : Steady t t'' := by
  obtain ⟨es, hes, hall⟩ := h
  obtain ⟨es', hes', hall'⟩ := h'
  refine ⟨es ++ es', ?_, ?_⟩
  · rw [hes', hes, List.append_assoc]
  · intro e he
    rcases List.mem_append.1 he with he | he
    · exact hall e he
    · exact hall' e he

theorem Steady.duration (h : Steady t t') :
    Journal.duration t'.journal.toList = Journal.duration t.journal.toList := by
  obtain ⟨es, hes, hall⟩ := h
  rw [hes, Journal.duration_append, Journal.duration_of_steady hall, Nat.add_zero]

theorem Steady.retries (h : Steady t t') :
    Journal.retries t'.journal.toList = Journal.retries t.journal.toList := by
  obtain ⟨es, hes, hall⟩ := h
  rw [hes, Journal.retries_append, Journal.retries_of_steady hall, List.append_nil]

/-- In a steady stretch the beats are the signals. -/
theorem Steady.beats {signals : List Signal} (h : Steady t t')
    (hsignals : Journal.signals t'.journal.toList = Journal.signals t.journal.toList ++ signals) :
    Journal.beats t'.journal.toList =
      Journal.beats t.journal.toList ++ signals.map .signal := by
  obtain ⟨es, hes, hall⟩ := h
  rw [hes, Journal.signals_append] at hsignals
  rw [hes, Journal.beats_append, Journal.beats_of_steady hall, List.append_cancel_left hsignals]

theorem steady_record {e : Event} (he : e.IsSteady) : Steady t (t.record e) := by
  refine ⟨[e], ?_, ?_⟩
  · rw [record, Array.toList_push]
  · intro e' he'
    rw [List.mem_singleton.1 he']
    exact he

theorem steady_log (level : LogLevel) (subject : LogSubject) {message : String}
    (fields : List (String × LogValue)) (h : message ≠ CheckpointHandler.retryMessage) :
    Steady t (t.log level subject message fields) :=
  steady_record h

theorem Wrote.steady (h : Wrote c t t' bytes) : Steady t t' := by
  obtain ⟨es, hes, hall, -⟩ := h.journal
  refine ⟨es, hes, fun e he => ?_⟩
  have hwrites := hall e he
  cases e with
  | wrote c' taken => exact trivial
  | flushed c' => exact trivial
  | _ => exact hwrites.elim

theorem writeMessage_steady (m : Message) (t : Transport) : Steady t (t.writeMessage m).2 := by
  have hlog := @steady_log t .trace .transport "-> daemon" [("line", .quoted m.encode)] (by decide)
  obtain ⟨done, hdone, -, -⟩ := sendLine_wrote .output m.encode
    (t.log .trace .transport "-> daemon" [("line", .quoted m.encode)])
  have hsend := hlog.trans hdone.steady
  rw [writeMessage_eq]
  split <;> next heq => rw [heq] at hsend; exact hsend

theorem readLine_steady (t : Transport) : Steady t t.readLine.2 := by
  have hfetch : Steady t t.fetchLine.2 := ⟨[.reading], Array.toList_push, by simp [Event.IsSteady]⟩
  rw [readLine]
  split
  · next heq => rw [heq] at hfetch; exact hfetch
  · next heq => rw [heq] at hfetch; exact hfetch
  · next bytes t₁ heq =>
    rw [heq] at hfetch
    rw [receive]
    split
    · exact hfetch.trans (steady_log _ _ _ (by decide))
    · exact hfetch

theorem logAnswer_steady (target : CheckpointTarget) (answer : CheckpointAnswer) (t : Transport) :
    Steady t (t.logAnswer target answer) := by
  cases answer with
  | recorded => exact steady_log _ _ _ (by decide)
  | failed error => exact steady_log _ _ _ (by decide)

/-- Whatever the streams do, an exchange takes no time of its own. -/
theorem exchange_steady (target : CheckpointTarget) (t : Transport) :
    Steady t (t.exchange target).2 := by
  have hlog := @steady_log t .debug .checkpoint "requesting checkpoint" [positionField target]
    (by decide)
  have hwrite := hlog.trans (writeMessage_steady target.request _)
  rw [exchange]
  -- The request may fail, and so may the read; only a decoded answer adds an entry of its own.
  split
  · next heq => rw [heq] at hwrite; exact hwrite
  · next t₁ heq =>
    rw [heq] at hwrite
    have hread := hwrite.trans (readLine_steady t₁)
    rw [readAnswer_eq]
    split
    · next heq' => rw [← (Prod.mk.inj heq').2]; exact hread
    · next answer t₂ heq' =>
      rw [← (Prod.mk.inj heq').2]
      exact hread.trans (logAnswer_steady target answer _)

/-! ## One exchange -/

/-- The beats of an exchange: all of the request, and then one read. -/
def asking (target : CheckpointTarget) : List Beat :=
  ((messageBytes target.request).map Signal.byte ++ [Signal.read]).map .signal

/-- From the first handle to the second, the request went out, one item of the feed was read for an
    answer, and that was all. -/
structure Asked (target : CheckpointTarget) (t t' : Transport) : Prop where
  beats : Journal.beats t'.journal.toList = Journal.beats t.journal.toList ++ asking target
  retries : Journal.retries t'.journal.toList = Journal.retries t.journal.toList
  feed : t'.input.feed = t.input.feed.rest

/-- A request that is sent puts its line out. -/
theorem signals_send {target : CheckpointTarget} (h : (t.send target).1 = .ok ()) :
    Journal.signals (t.send target).2.journal.toList =
      Journal.signals t.journal.toList ++ (messageBytes target.request).map .byte := by
  -- Two entries come before the line.  They put nothing out, and what they say plays no part.
  have hfirst : Silent t (t.log .debug .checkpoint "requesting checkpoint"
      [positionField target]) := silent_log _ _ _ _
  rw [send] at h ⊢
  generalize t.log .debug .checkpoint "requesting checkpoint" [positionField target] = t₁
    at h hfirst ⊢
  have hsecond : Silent t₁ (t₁.log .trace .transport "-> daemon"
      [("line", .quoted target.request.encode)]) := silent_log _ _ _ _
  obtain ⟨done, hdone, -, hall⟩ := sendLine_wrote .output target.request.encode
    (t₁.log .trace .transport "-> daemon" [("line", .quoted target.request.encode)])
  obtain ⟨es, hes, hwrites, hbytes⟩ := hdone.journal
  rw [writeMessage_eq] at h ⊢
  split at h
  · next heq =>
    rw [heq] at hes hall
    rw [hes, Journal.signals_append, signals_of_writesTo hwrites, hbytes, hall rfl,
      hsecond.signals, hfirst.signals]
    rfl
  · cases h

/-- On a healthy output an exchange sends the request, and the next item of the feed is the
    answer. -/
theorem exchange_asked (target : CheckpointTarget) (h : t.output.policy.Healthy) :
    (t.exchange target).1 = t.input.feed.answer ∧ Asked target t (t.exchange target).2 := by
  have hsent := send_ok target h
  obtain ⟨hanswer, htook⟩ := exchange_of_sent hsent
  have hsteady := exchange_steady target t
  refine ⟨hanswer, ⟨?_, hsteady.retries, ?_⟩⟩
  · apply hsteady.beats
    rw [htook.signals, signals_send hsent, List.append_assoc]
  · rw [htook.feed, input_send]

end Transport

end ShardBridge
