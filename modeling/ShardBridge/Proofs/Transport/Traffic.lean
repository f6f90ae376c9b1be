/-
  ShardBridge.Proofs.Transport.Traffic

  What passes between a session and the daemon: the bytes that go out and the
  reads, in their order, and the lines that the reads leave.

    * `Reliable t` -- no read fails, and the output is healthy;
    * `Passes t t' signals unread` -- between the two handles exactly these
      signals passed, and exactly these lines are left.
-/
import ShardBridge.Proofs.Stream.Lines
import ShardBridge.Proofs.Transport.Writing

namespace ShardBridge

/-- A line of the input, without its end. -/
abbrev Line := List UInt8

/-- Something that passes between a session and the daemon. -/
inductive Signal where
  /-- The session starts to read a line. -/
  | read
  /-- A byte goes to the daemon. -/
  | byte (b : UInt8)
  deriving DecidableEq, Repr

namespace Journal

/-- The signals among the events. -/
def signals : List Event → List Signal
  | [] => []
  | .reading :: rest => .read :: signals rest
  | .wrote .output taken :: rest => taken.map .byte ++ signals rest
  | _ :: rest => signals rest

theorem signals_append (a b : List Event) : signals (a ++ b) = signals a ++ signals b := by
  induction a with
  | nil => rfl
  | cons e a ih =>
    cases e with
    | wrote c taken => cases c <;> simp [signals, ih]
    | _ => simp [signals, ih]

end Journal

/-- The byte of a signal. -/
def Signal.byte? : Signal → Option UInt8
  | .read => none
  | .byte b => some b

theorem Signal.filterMap_byte (bytes : List UInt8) :
    (bytes.map Signal.byte).filterMap Signal.byte? = bytes := by
  rw [List.filterMap_map]
  exact List.filterMap_some

/-- The output is what the signals tell of it. -/
theorem Journal.bytes_output (es : List Event) :
    bytes .output es = (signals es).filterMap Signal.byte? := by
  induction es with
  | nil => rfl
  | cons e es ih =>
    cases e with
    | wrote c taken =>
      cases c with
      | output =>
        show taken ++ bytes .output es = _
        rw [signals, List.filterMap_append, Signal.filterMap_byte, ih]
      | diagnostics => exact ih
    | _ => exact ih

namespace Transport

/-- No read fails, and the output takes everything. -/
structure Reliable (t : Transport) : Prop where
  input : t.input.failure = none
  output : t.output.policy.Healthy

/-- From the first handle to the second, which is reliable, these signals passed, and these lines
    are left to be read. -/
structure Passes (t t' : Transport) (signals : List Signal) (unread : List Line) : Prop where
  signals : Journal.signals t'.journal.toList = Journal.signals t.journal.toList ++ signals
  unread : t'.input.lines = unread
  reliable : t'.Reliable

variable {t t' t'' : Transport} {a b : List Signal} {unread unread' : List Line}

theorem Passes.refl (h : t.Reliable) : Passes t t [] t.input.lines :=
  ⟨(List.append_nil _).symm, rfl, h⟩

theorem Passes.trans (h : Passes t t' a unread) (h' : Passes t' t'' b unread') :
    Passes t t'' (a ++ b) unread' := by
  refine ⟨?_, h'.unread, h'.reliable⟩
  rw [h'.signals, h.signals, List.append_assoc]

theorem passes_record {e : Event} (he : Journal.signals [e] = []) (h : t.Reliable) :
    Passes t (t.record e) [] t.input.lines := by
  refine ⟨?_, rfl, ⟨h.input, h.output⟩⟩
  rw [record, Array.toList_push, Journal.signals_append, he]

theorem passes_log (level : LogLevel) (subject : LogSubject) (message : String)
    (fields : List (String × LogValue)) (h : t.Reliable) :
    Passes t (t.log level subject message fields) [] t.input.lines :=
  passes_record rfl h

theorem signals_of_writesTo {c : Channel} {es : List Event} (h : ∀ e ∈ es, WritesTo c e) :
    Journal.signals es = (Journal.bytes .output es).map .byte := by
  induction es with
  | nil => rfl
  | cons e es ih =>
    have he := h e (List.mem_cons_self ..)
    have ih := ih fun e he => h e (List.mem_cons_of_mem _ he)
    cases e with
    | wrote c' taken =>
      cases c' with
      | output =>
        show taken.map .byte ++ Journal.signals es = (taken ++ Journal.bytes .output es).map .byte
        rw [ih, List.map_append]
      | diagnostics => exact ih
    | flushed c' => exact ih
    | _ => exact he.elim

theorem bytes_output_of_writesTo_diagnostics {es : List Event}
    (h : ∀ e ∈ es, WritesTo .diagnostics e) : Journal.bytes .output es = [] := by
  induction es with
  | nil => rfl
  | cons e es ih =>
    have he := h e (List.mem_cons_self ..)
    have ih := ih fun e he => h e (List.mem_cons_of_mem _ he)
    cases e with
    | wrote c taken =>
      obtain rfl : c = .diagnostics := he
      exact ih
    | _ => exact ih

/-- What goes to the output are signals. -/
theorem Wrote.passes {bytes : List UInt8} (h : Wrote .output t t' bytes) (ht : t.Reliable) :
    Passes t t' (bytes.map .byte) t.input.lines := by
  obtain ⟨es, hes, hall, hbytes⟩ := h.journal
  have hpolicy : t'.output.policy = t.output.policy := h.policy
  refine ⟨?_, ?_, ⟨?_, ?_⟩⟩
  · rw [hes, Journal.signals_append, signals_of_writesTo hall, hbytes]
  · rw [h.input]
  · rw [h.input]
    exact ht.input
  · rw [hpolicy]
    exact ht.output

/-- What goes to the diagnostics are none. -/
theorem Wrote.passes_diagnostics {bytes : List UInt8} (h : Wrote .diagnostics t t' bytes)
    (ht : t.Reliable) : Passes t t' [] t.input.lines := by
  obtain ⟨es, hes, hall, -⟩ := h.journal
  have houtput : t'.output = t.output := h.other .output (by decide)
  refine ⟨?_, ?_, ⟨?_, ?_⟩⟩
  · rw [hes, Journal.signals_append, signals_of_writesTo hall,
      bytes_output_of_writesTo_diagnostics hall]
    rfl
  · rw [h.input]
  · rw [h.input]
    exact ht.input
  · rw [houtput]
    exact ht.output

/-! ## Messages out -/

/-- The bytes of the line of a message. -/
def messageBytes (m : Message) : List UInt8 := lineBytes m.encode

/-- Writing a message goes well, and what passes is its line. -/
theorem writeMessage_passes (m : Message) (h : t.Reliable) :
    (t.writeMessage m).1 = .ok () ∧
      Passes t (t.writeMessage m).2 ((messageBytes m).map .byte) t.input.lines := by
  have hlog := passes_log .trace .transport "-> daemon" [("line", .quoted m.encode)] h
  have hok := @sendLine_ok .output _ m.encode hlog.reliable.output
  obtain ⟨done, hdone, -, hall⟩ := sendLine_wrote .output m.encode
    (t.log .trace .transport "-> daemon" [("line", .quoted m.encode)])
  have hpasses := hlog.trans (hdone.passes hlog.reliable)
  rw [hall hok, List.nil_append] at hpasses
  rw [writeMessage_eq, messageBytes]
  split
  · next heq =>
    rw [heq] at hpasses
    exact ⟨rfl, hpasses⟩
  · next heq =>
    rw [heq] at hok
    cases hok

/-! ## Lines in -/

/-- A line as text, or why it is none. -/
def textOf (line : Line) : Except MalformedLine String :=
  match Text.Utf8.decode line with
  | .ok text => .ok (String.ofList text)
  | .error m => .error ⟨String.ofList (Text.Utf8.decodeLenient line), .invalidUtf8 m⟩

/-- What a read gives, by the lines that are yet to come. -/
def readOf : List Line → Except SessionError (Option String)
  | [] => .ok none
  | line :: _ =>
    match textOf line with
    | .ok text => .ok (some text)
    | .error m => .error (.malformed m)

theorem receive_passes (line : Line) (h : t.Reliable) :
    (t.receive line).1 = readOf (line :: unread) ∧
      Passes t (t.receive line).2 [] t.input.lines := by
  rw [receive, readOf, textOf]
  cases Text.Utf8.decode line with
  | ok text => exact ⟨rfl, passes_log _ _ _ _ h⟩
  | error m => exact ⟨rfl, .refl h⟩

/-- A read takes the next line, whatever it is. -/
theorem readLine_passes (h : t.Reliable) :
    t.readLine.1 = readOf t.input.lines ∧
      Passes t t.readLine.2 [.read] t.input.lines.tail := by
  have hspec := Input.nextLine_spec h.input
  -- Taking the bytes is one signal; making text of them is none.
  have hfetch : Passes t t.fetchLine.2 [.read] t.input.lines.tail := by
    refine ⟨?_, ?_, ⟨?_, h.output⟩⟩
    · rw [fetchLine, Array.toList_push, Journal.signals_append]
      rfl
    · have hlines := congrArg Prod.snd hspec
      rw [← show (Input.nextOf t.input.lines).2 = t.input.lines.tail from by
        cases t.input.lines <;> rfl]
      exact hlines
    · exact (Input.failure_nextLine t.input).trans h.input
  have hresult : t.fetchLine.1 = (Input.nextOf t.input.lines).1 := congrArg Prod.fst hspec
  rw [readLine]
  -- What was taken is the end of the input, or the first of the lines.
  cases hlines : t.input.lines with
  | nil =>
    rw [hlines] at hresult hfetch
    split
    · next heq =>
      rw [heq] at hfetch
      exact ⟨rfl, hfetch⟩
    · next heq => rw [heq] at hresult; cases hresult
    · next heq => rw [heq] at hresult; cases hresult
  | cons line rest =>
    rw [hlines] at hresult hfetch
    split
    · next heq => rw [heq] at hresult; cases hresult
    · next heq => rw [heq] at hresult; cases hresult
    · next bytes t₁ heq =>
      rw [heq] at hresult hfetch
      obtain rfl := Input.Fetched.line.inj hresult
      obtain ⟨hread, hreceive⟩ := @receive_passes _ rest bytes hfetch.reliable
      have hpasses := hfetch.trans hreceive
      rw [hfetch.unread] at hpasses
      exact ⟨hread, hpasses⟩

end Transport

end ShardBridge
