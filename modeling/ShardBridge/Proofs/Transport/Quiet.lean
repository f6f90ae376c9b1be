/-
  ShardBridge.Proofs.Transport.Quiet

  While a session runs, nothing goes to the diagnostics: neither reading nor
  writing to the daemon, nor a checkpoint with all its handlers, nor a callback
  touches that stream, however the streams answer.
-/
import ShardBridge.Proofs.Transport.Frame

namespace ShardBridge.Transport

/-- From the first handle to the second, nothing happened on the diagnostics, and what a report
    would name is the same. -/
structure Quiet (t t' : Transport) : Prop where
  sink : t'.diagnostics = t.diagnostics
  locate : t'.locate = t.locate
  bytes : Journal.bytes .diagnostics t'.journal.toList = Journal.bytes .diagnostics t.journal.toList

variable {t t' t'' : Transport}

theorem Quiet.refl (t : Transport) : Quiet t t := ⟨rfl, rfl, rfl⟩

theorem Quiet.trans (h : Quiet t t') (h' : Quiet t' t'') : Quiet t t'' :=
  ⟨h'.sink.trans h.sink, h'.locate.trans h.locate, h'.bytes.trans h.bytes⟩

/-- An event that is no write to the diagnostics is quiet. -/
theorem quiet_record {e : Event} (he : Journal.bytes .diagnostics [e] = []) :
    Quiet t (t.record e) := by
  refine ⟨rfl, rfl, ?_⟩
  rw [record, Array.toList_push, Journal.bytes_append, he, List.append_nil]

theorem quiet_log (level : LogLevel) (subject : LogSubject) (message : String)
    (fields : List (String × LogValue)) : Quiet t (t.log level subject message fields) :=
  quiet_record rfl

/-- Writing to the daemon is quiet. -/
theorem Wrote.quiet {bytes : List UInt8} (h : Wrote .output t t' bytes) : Quiet t t' := by
  obtain ⟨es, hes, hall, -⟩ := h.journal
  refine ⟨h.other .diagnostics (by decide), h.locate, ?_⟩
  rw [hes, Journal.bytes_append]
  -- All of the events are writes to the other stream.
  have hnone : Journal.bytes .diagnostics es = [] := by
    clear hes
    induction es with
    | nil => rfl
    | cons e es ih =>
      have he := hall e (List.mem_cons_self ..)
      have ih := ih fun e he => hall e (List.mem_cons_of_mem _ he)
      cases e with
      | wrote c taken =>
        obtain rfl : c = .output := he
        exact ih
      | _ => exact ih
  rw [hnone, List.append_nil]

/-- All that a session does is quiet. -/
theorem frame_quiet : Frame Quiet where
  refl := Quiet.refl
  trans := Quiet.trans
  remark := fun t r => by cases r <;> exact quiet_record rfl
  fetch := fun t => by
    refine ⟨rfl, rfl, ?_⟩
    rw [fetchLine, Array.toList_push, Journal.bytes_append]
    exact List.append_nil _
  wrote := Wrote.quiet

end ShardBridge.Transport
