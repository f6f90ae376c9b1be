/-
  ShardBridge.Proofs.Transport.Interchange

  When it makes no difference to which of two streams a session writes.  All
  that a session learns of its output is how each line comes out, so two streams
  are interchangeable if they answer the same rows of lines alike, and take the
  same bytes of each (`Sink.Interchangeable`).  A stream is interchangeable with
  itself whatever else happened, and healthy streams are interchangeable,
  however they divide what they take.

    * `Sink.answers lines s` -- what comes of these lines, sent one by one;
    * `Transport.writeMessage_interchange` -- one message to either of the two.
-/
import ShardBridge.Proofs.Transport.Writing

namespace ShardBridge

/-! ## One stream, two handles -/

namespace Transport

variable {t t' : Transport}

/-- Both handles do as one: each comes out the same, leaves the same output, and puts the same bytes
    into it. -/
structure InUnison {α : Type} (t t' : Transport) (a a' : α × Transport) : Prop where
  result : a'.1 = a.1
  output : a'.2.output = a.2.output
  wrote : ∃ done, Wrote .output t a.2 done ∧ Wrote .output t' a'.2 done

/-- An offer alone writes nothing. -/
theorem wrote_of_offer {c : Channel} {bytes : List UInt8} {s : Sink}
    {answer : Except StreamFailure (List UInt8)} (h : (t.sink c).offer bytes = (answer, s)) :
    Wrote c t (t.withSink c s) [] := by
  have hpolicy := offer_policy (t.sink c) bytes
  rw [h] at hpolicy
  exact wrote_withSink hpolicy

/-- What the stream takes of an offer is written. -/
theorem wrote_of_taken {c : Channel} {bytes taken : List UInt8} {s : Sink}
    (h : (t.sink c).offer bytes = (.ok taken, s)) :
    Wrote c t ((t.withSink c s).record (.wrote c taken)) taken := by
  have hevent : WritesTo c (.wrote c taken) := rfl
  have hwrote := (wrote_of_offer h).trans (wrote_record hevent)
  simpa [Journal.bytes] using hwrote

theorem writeAll_inUnison (bytes : List UInt8) (h : t'.output = t.output) :
    InUnison t t' (t.writeAll .output bytes) (t'.writeAll .output bytes) := by
  generalize hc : Channel.output = c
  -- Along the run on the first handle: the second one makes the same offers to the same stream.
  fun_induction writeAll c bytes t generalizing t' with
  | case1 t =>
    subst hc
    rw [writeAll]
    exact ⟨rfl, h, [], .refl _ t, .refl _ t'⟩
  | case2 t b rest e s hoffer =>
    subst hc
    have hsink : t'.sink .output = t.sink .output := h
    have hoffer' := hoffer
    rw [← hsink] at hoffer'
    rw [writeAll, hoffer']
    exact ⟨rfl, rfl, [], wrote_of_offer hoffer, wrote_of_offer hoffer'⟩
  | case3 t b rest s hoffer =>
    subst hc
    have hsink : t'.sink .output = t.sink .output := h
    have hoffer' := hoffer
    rw [← hsink] at hoffer'
    rw [writeAll, hoffer']
    exact ⟨rfl, rfl, [], wrote_of_offer hoffer, wrote_of_offer hoffer'⟩
  | case4 t b rest x taken s hoffer ih =>
    subst hc
    have hsink : t'.sink .output = t.sink .output := h
    have hoffer' := hoffer
    rw [← hsink] at hoffer'
    have hnext : ((t'.withSink .output s).record (.wrote .output (x :: taken))).output =
        ((t.withSink .output s).record (.wrote .output (x :: taken))).output := rfl
    obtain ⟨hresult, houtput, done, hdone, hdone'⟩ := ih hnext
    rw [writeAll, hoffer']
    exact ⟨hresult, houtput, _, (wrote_of_taken hoffer).trans hdone,
      (wrote_of_taken hoffer').trans hdone'⟩

theorem flush_inUnison (h : t'.output = t.output) :
    InUnison t t' (t.flush .output) (t'.flush .output) := by
  have hwrote := flush_wrote .output t
  have hwrote' := flush_wrote .output t'
  have hsink : (t'.sink .output).flush = (t.sink .output).flush := by
    rw [show t'.sink .output = t.sink .output from h]
  rw [flush, hsink] at hwrote'
  rw [flush] at hwrote
  rw [flush, flush, hsink]
  rcases hflush : (t.sink .output).flush with ⟨_ | _, s⟩ <;> rw [hflush] at hwrote hwrote'
  · exact ⟨rfl, rfl, [], hwrote, hwrote'⟩
  · exact ⟨rfl, rfl, [], hwrote, hwrote'⟩

theorem sendLine_inUnison (line : String) (h : t'.output = t.output) :
    InUnison t t' (t.sendLine .output line) (t'.sendLine .output line) := by
  obtain ⟨hresult, houtput, done, hdone, hdone'⟩ := writeAll_inUnison (Text.Utf8.bytesOf line) h
  rw [sendLine, sendLine]
  generalize t.writeAll .output (Text.Utf8.bytesOf line) = a at hresult houtput hdone
  generalize t'.writeAll .output (Text.Utf8.bytesOf line) = a' at hresult houtput hdone'
  obtain ⟨e | _, u⟩ := a <;> obtain ⟨e' | _, u'⟩ := a' <;> cases hresult
  · exact ⟨rfl, houtput, done, hdone, hdone'⟩
  -- The line is out, and its end follows.
  obtain ⟨hresult, houtput, end₁, hend, hend'⟩ := writeAll_inUnison [Input.lineFeed] houtput
  dsimp only
  generalize u.writeAll .output [Input.lineFeed] = a at hresult houtput hend
  generalize u'.writeAll .output [Input.lineFeed] = a' at hresult houtput hend'
  obtain ⟨e | _, v⟩ := a <;> obtain ⟨e' | _, v'⟩ := a' <;> cases hresult
  · exact ⟨rfl, houtput, _, hdone.trans hend, hdone'.trans hend'⟩
  obtain ⟨hresult, houtput, end₂, hflush, hflush'⟩ := flush_inUnison houtput
  exact ⟨hresult, houtput, _, (hdone.trans hend).trans hflush, (hdone'.trans hend').trans hflush'⟩

end Transport

/-! ## Interchangeable streams -/

namespace Sink

/-- A handle that writes to this stream, before anything happened on it. -/
def handle (s : Sink) : Transport := ⟨⟨[], none⟩, s, healthy, #[], .silent⟩

/-- What comes of lines that are sent one after the other: how each of them comes out, and the bytes
    that the stream takes of it. -/
def answers : List String → Sink → List (Except StreamFailure Unit × List UInt8)
  | [], _ => []
  | line :: lines, s =>
    ((s.handle.sendLine .output line).1,
        Journal.bytes .output (s.handle.sendLine .output line).2.journal.toList) ::
      answers lines (s.handle.sendLine .output line).2.output

/-- Whatever lines are sent to them, the two streams answer alike. -/
def Interchangeable (s s' : Sink) : Prop := ∀ lines, answers lines s' = answers lines s

theorem Interchangeable.refl (s : Sink) : Interchangeable s s := fun _ => rfl

theorem Interchangeable.symm {s s' : Sink} (h : Interchangeable s s') : Interchangeable s' s :=
  fun lines => (h lines).symm

theorem Interchangeable.trans {s s' s'' : Sink} (h : Interchangeable s s')
    (h' : Interchangeable s' s'') : Interchangeable s s'' :=
  fun lines => (h' lines).trans (h lines)

end Sink

namespace Transport

variable {t t' : Transport}

/-- The bytes that go out between two handles are those of the journal. -/
theorem Wrote.bytes_handle {s : Sink} {u : Transport} {done : List UInt8}
    (h : Wrote .output s.handle u done) : Journal.bytes .output u.journal.toList = done := by
  obtain ⟨es, hes, -, hbytes⟩ := h.journal
  rw [hes, Journal.bytes_append, hbytes]
  rfl

/-- A line that is sent to either of two interchangeable streams comes out the same, and they are
    interchangeable after it. -/
theorem sendLine_interchange (line : String) (h : t.output.Interchangeable t'.output) :
    (t'.sendLine .output line).1 = (t.sendLine .output line).1 ∧
      (t.sendLine .output line).2.output.Interchangeable (t'.sendLine .output line).2.output ∧
      ∃ done, Wrote .output t (t.sendLine .output line).2 done ∧
        Wrote .output t' (t'.sendLine .output line).2 done := by
  -- What the handles do is what a handle without a past does.
  have hpast : ∀ t : Transport, t.output = t.output.handle.output := fun _ => rfl
  obtain ⟨hresult, houtput, done, hhandle, hdone⟩ := sendLine_inUnison line (hpast t)
  obtain ⟨hresult', houtput', done', hhandle', hdone'⟩ := sendLine_inUnison line (hpast t')
  have hanswer := fun lines => List.cons.inj (h (line :: lines))
  obtain ⟨hsame, hbytes⟩ := Prod.mk.inj (hanswer []).1
  rw [hhandle.bytes_handle, hhandle'.bytes_handle] at hbytes
  subst hbytes
  refine ⟨?_, ?_, _, hdone, hdone'⟩
  · rw [hresult', hsame, hresult]
  · intro lines
    rw [houtput', houtput]
    exact (hanswer lines).2

theorem writeMessage_interchange (m : Message) (h : t.output.Interchangeable t'.output) :
    (t'.writeMessage m).1 = (t.writeMessage m).1 ∧
      (t.writeMessage m).2.output.Interchangeable (t'.writeMessage m).2.output ∧
      ∃ done, Wrote .output (t.log .trace .transport "-> daemon" [("line", .quoted m.encode)])
          (t.writeMessage m).2 done ∧
        Wrote .output (t'.log .trace .transport "-> daemon" [("line", .quoted m.encode)])
          (t'.writeMessage m).2 done := by
  have hlogged : (t.log .trace .transport "-> daemon" [("line", .quoted m.encode)]
      ).output.Interchangeable
        (t'.log .trace .transport "-> daemon" [("line", .quoted m.encode)]).output := h
  obtain ⟨hresult, hafter, done, hdone, hdone'⟩ := sendLine_interchange m.encode hlogged
  rw [writeMessage_eq, writeMessage_eq]
  generalize (t.log .trace .transport "-> daemon" [("line", .quoted m.encode)]).sendLine .output
    m.encode = a at hresult hafter hdone
  generalize (t'.log .trace .transport "-> daemon" [("line", .quoted m.encode)]).sendLine .output
    m.encode = a' at hresult hafter hdone'
  obtain ⟨e | _, u⟩ := a <;> obtain ⟨e' | _, u'⟩ := a' <;> cases hresult
  · exact ⟨rfl, hafter, done, hdone, hdone'⟩
  · exact ⟨rfl, hafter, done, hdone, hdone'⟩

end Transport

/-! ## Healthy streams -/

namespace Sink

theorem answers_of_healthy (lines : List String) {s : Sink} (h : s.policy.Healthy) :
    answers lines s = lines.map fun line => (.ok (), Transport.lineBytes line) := by
  induction lines generalizing s with
  | nil => rfl
  | cons line lines ih =>
    have hok := Transport.sendLine_ok (c := .output) (t := s.handle) line h
    obtain ⟨done, hdone, -, hall⟩ := Transport.sendLine_wrote .output line s.handle
    have hpolicy : (s.handle.sendLine .output line).2.output.policy = s.policy := hdone.policy
    rw [answers, List.map_cons, hok, hdone.bytes_handle, hall hok, ih (hpolicy ▸ h)]

/-- All healthy streams are interchangeable. -/
theorem interchangeable_of_healthy {s s' : Sink} (h : s.policy.Healthy) (h' : s'.policy.Healthy) :
    Interchangeable s s' := by
  intro lines
  rw [answers_of_healthy lines h, answers_of_healthy lines h']

end Sink

end ShardBridge
