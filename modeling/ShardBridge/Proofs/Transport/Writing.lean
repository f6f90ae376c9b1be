/-
  ShardBridge.Proofs.Transport.Writing

  What writing leaves behind.  Whatever the stream does, the bytes that it took
  are a prefix of the bytes it was offered, and nothing else of the handle
  changes; a healthy stream takes all of them (`Transport.sendLine_ok`).

    * `Wrote c t t' bytes` -- between the two handles, exactly these bytes went
      into the stream of the channel, and nothing else happened;
    * `Sink.Policy.Healthy` -- every write takes something, and no flush fails;
    * `Sink.Policy.Accepting` -- every write takes something.
-/
import ShardBridge.Proofs.Message.RoundTrip
import ShardBridge.Transport

namespace ShardBridge

/-- No write and no flush fails, and no write takes nothing. It may take less than it is offered. -/
def Sink.Policy.Healthy (p : Sink.Policy) : Prop :=
  (∀ writes taken offered, 0 < offered → ∃ n, p.write writes taken offered = .ok n ∧ 0 < n) ∧
    ∀ flushes, p.flush flushes = .ok ()

/-- No write fails or takes nothing, whatever the flushes do. -/
def Sink.Policy.Accepting (p : Sink.Policy) : Prop :=
  ∀ writes taken offered, 0 < offered → ∃ n, p.write writes taken offered = .ok n ∧ 0 < n

theorem Sink.Policy.Healthy.accepting {p : Sink.Policy} (h : p.Healthy) : p.Accepting := h.1

theorem Sink.healthy_healthy : Sink.healthy.policy.Healthy :=
  ⟨fun _ _ offered h => ⟨offered, rfl, h⟩, fun _ => rfl⟩

namespace Transport

/-- The event is part of writing to the channel. -/
def WritesTo (c : Channel) : Event → Prop
  | .wrote c' _ => c' = c
  | .flushed c' => c' = c
  | _ => False

/-- From the first handle to the second, these bytes were written to the channel, and nothing else
    happened. -/
structure Wrote (c : Channel) (t t' : Transport) (bytes : List UInt8) : Prop where
  journal : ∃ es, t'.journal.toList = t.journal.toList ++ es ∧ (∀ e ∈ es, WritesTo c e) ∧
    Journal.bytes c es = bytes
  input : t'.input = t.input
  locate : t'.locate = t.locate
  policy : (t'.sink c).policy = (t.sink c).policy
  other : ∀ c', c' ≠ c → t'.sink c' = t.sink c'

variable {c : Channel} {t t' t'' : Transport} {a b : List UInt8}

theorem Wrote.refl (c : Channel) (t : Transport) : Wrote c t t [] := by
  refine ⟨⟨[], ?_, ?_, rfl⟩, rfl, rfl, rfl, fun _ _ => rfl⟩
  · rw [List.append_nil]
  · intro e he
    cases he

theorem Wrote.trans (h : Wrote c t t' a) (h' : Wrote c t' t'' b) : Wrote c t t'' (a ++ b) := by
  obtain ⟨es, hes, hall, hbytes⟩ := h.journal
  obtain ⟨es', hes', hall', hbytes'⟩ := h'.journal
  refine ⟨⟨es ++ es', ?_, ?_, ?_⟩, h'.input.trans h.input, h'.locate.trans h.locate,
    h'.policy.trans h.policy, ?_⟩
  · rw [hes', hes, List.append_assoc]
  · intro e he
    rcases List.mem_append.1 he with he | he
    · exact hall e he
    · exact hall' e he
  · rw [Journal.bytes_append, hbytes, hbytes']
  · intro c' hc'
    rw [h'.other c' hc', h.other c' hc']

theorem wrote_withSink {s : Sink} (hs : s.policy = (t.sink c).policy) :
    Wrote c t (t.withSink c s) [] := by
  refine ⟨⟨[], ?_, ?_, rfl⟩, ?_, ?_, ?_, ?_⟩
  · cases c <;> simp [withSink]
  · intro e he
    cases he
  · exact input_withSink t c s
  · cases c <;> rfl
  · rw [← hs]
    cases c <;> rfl
  · intro c' hc'
    cases c <;> cases c' <;> first | rfl | exact absurd rfl hc'

theorem wrote_record {e : Event} (he : WritesTo c e) :
    Wrote c t (t.record e) (Journal.bytes c [e]) := by
  refine ⟨⟨[e], ?_, ?_, rfl⟩, rfl, rfl, ?_, ?_⟩
  · simp [record]
  · intro e' he'
    rw [List.mem_singleton.1 he']
    exact he
  · cases c <;> rfl
  · intro c' _
    cases c' <;> rfl

theorem offer_policy (s : Sink) (bytes : List UInt8) : (s.offer bytes).2.policy = s.policy := by
  rw [Sink.offer]
  split <;> rfl

theorem offer_isPrefix {s s' : Sink} {bytes taken : List UInt8}
    (h : s.offer bytes = (.ok taken, s')) : ∃ n, taken = bytes.take n := by
  rw [Sink.offer] at h
  split at h
  · next n _ =>
    obtain ⟨htaken, -⟩ := Prod.mk.inj h
    exact ⟨n, (Except.ok.inj htaken).symm⟩
  · simp at h

/-- What is taken of an offer and what is offered next make up the bytes. -/
theorem taken_append_drop {s s' : Sink} {b x : UInt8} {rest taken : List UInt8}
    (h : s.offer (b :: rest) = (.ok (x :: taken), s')) :
    (x :: taken) ++ rest.drop taken.length = b :: rest := by
  obtain ⟨n, hn⟩ := offer_isPrefix h
  cases n with
  | zero => simp at hn
  | succ n =>
    obtain ⟨rfl, rfl⟩ := List.cons.inj hn
    rw [List.cons_append, List.length_take]
    by_cases hle : n ≤ rest.length
    · rw [Nat.min_eq_left hle, List.take_append_drop]
    · rw [Nat.min_eq_right (by omega), List.drop_length, List.take_of_length_le (by omega),
        List.append_nil]

/-! ## Single bytes and flushes -/

/-- Writing puts a prefix of the bytes into the stream, and all of them when it goes well. -/
theorem writeAll_wrote (c : Channel) (bytes : List UInt8) (t : Transport) :
    ∃ done, Wrote c t (t.writeAll c bytes).2 done ∧ done <+: bytes ∧
      ((t.writeAll c bytes).1 = .ok () → done = bytes) := by
  -- By how the stream answers: nothing is left to offer, it fails, it takes nothing, or it takes
  -- something and is offered the rest.
  fun_induction writeAll c bytes t with
  | case1 t => exact ⟨[], .refl c t, List.nil_prefix, fun _ => rfl⟩
  | case2 t b rest e s h =>
    refine ⟨[], wrote_withSink ?_, List.nil_prefix, fun hok => ?_⟩
    · have hp := offer_policy (t.sink c) (b :: rest)
      rwa [h] at hp
    · cases hok
  | case3 t b rest s h =>
    refine ⟨[], wrote_withSink ?_, List.nil_prefix, fun hok => ?_⟩
    · have hp := offer_policy (t.sink c) (b :: rest)
      rwa [h] at hp
    · cases hok
  | case4 t b rest x taken s h ih =>
    have hp := offer_policy (t.sink c) (b :: rest)
    rw [h] at hp
    obtain ⟨done, hdone, hprefix, hok⟩ := ih
    have hsplit := taken_append_drop h
    have hfirst : Wrote c t ((t.withSink c s).record (.wrote c (x :: taken))) (x :: taken) := by
      have he : WritesTo c (.wrote c (x :: taken)) := rfl
      have hw := (wrote_withSink hp).trans (wrote_record he)
      simpa [Journal.bytes] using hw
    refine ⟨(x :: taken) ++ done, hfirst.trans hdone, ?_, ?_⟩
    · rw [← hsplit]
      exact (List.prefix_append_right_inj _).2 hprefix
    · intro h
      rw [hok h, hsplit]

theorem flush_wrote (c : Channel) (t : Transport) : Wrote c t (t.flush c).2 [] := by
  have hp : (t.sink c).flush.2.policy = (t.sink c).policy := rfl
  rw [flush]
  split
  · next heq =>
    rw [heq] at hp
    exact wrote_withSink hp
  · next s heq =>
    rw [heq] at hp
    have he : WritesTo c (.flushed c) := rfl
    simpa [Journal.bytes] using (wrote_withSink hp).trans (wrote_record he)

/-! ## Lines -/

/-- The bytes of a line with its end. -/
def lineBytes (line : String) : List UInt8 := Text.Utf8.bytesOf line ++ [Input.lineFeed]

/-- Writing a line puts a prefix of it into the stream, and all of it when it goes well. -/
theorem sendLine_wrote (c : Channel) (line : String) (t : Transport) :
    ∃ done, Wrote c t (t.sendLine c line).2 done ∧ done <+: lineBytes line ∧
      ((t.sendLine c line).1 = .ok () → done = lineBytes line) := by
  obtain ⟨done, hdone, hprefix, hok⟩ := writeAll_wrote c (Text.Utf8.bytesOf line) t
  rw [sendLine]
  split
  · next e t₁ heq =>
    -- The line itself broke off, and its end was not tried.
    rw [heq] at hdone
    refine ⟨done, hdone, hprefix.trans (List.prefix_append _ _), fun h => ?_⟩
    cases h
  · next t₁ heq =>
    rw [heq] at hdone hok
    obtain rfl := hok rfl
    obtain ⟨end₁, hend, hprefix', hok'⟩ := writeAll_wrote c [Input.lineFeed] t₁
    split
    · next e t₂ heq' =>
      rw [heq'] at hend
      refine ⟨_, hdone.trans hend, (List.prefix_append_right_inj _).2 hprefix', fun h => ?_⟩
      cases h
    · next t₂ heq' =>
      rw [heq'] at hend hok'
      obtain rfl := hok' rfl
      have hall := (hdone.trans hend).trans (flush_wrote c t₂)
      rw [List.append_nil] at hall
      exact ⟨_, hall, List.prefix_refl _, fun _ => rfl⟩

/-! ## Accepting streams -/

theorem offer_ok {s : Sink} (h : s.policy.Accepting) (b : UInt8) (rest : List UInt8) :
    ∃ taken s', s.offer (b :: rest) = (.ok (b :: taken), s') := by
  obtain ⟨n, hn, hpos⟩ := h s.writes s.taken (b :: rest).length (Nat.succ_pos _)
  obtain ⟨n, rfl⟩ : ∃ m, n = m + 1 := ⟨n - 1, by omega⟩
  rw [Sink.offer, hn]
  exact ⟨rest.take n, _, rfl⟩

theorem writeAll_ok (bytes : List UInt8) (h : (t.sink c).policy.Accepting) :
    (t.writeAll c bytes).1 = .ok () := by
  fun_induction writeAll c bytes t with
  | case1 t => rfl
  | case2 t b rest e s heq =>
    obtain ⟨taken, s', ho⟩ := offer_ok h b rest
    rw [heq] at ho
    simp at ho
  | case3 t b rest s heq =>
    obtain ⟨taken, s', ho⟩ := offer_ok h b rest
    rw [heq] at ho
    simp at ho
  | case4 t b rest x taken s heq ih =>
    apply ih
    -- The stream answers as before, whatever it took.
    have hp := offer_policy (t.sink c) (b :: rest)
    rw [heq] at hp
    have hs : (((t.withSink c s).record (.wrote c (x :: taken))).sink c).policy = s.policy := by
      cases c <;> rfl
    rw [hs, hp]
    exact h

/-- An accepting stream takes all of a line, and how the line comes out is how the flush does. -/
theorem sendLine_of_accepting (line : String) (h : (t.sink c).policy.Accepting) :
    ∃ u, Wrote c t u (lineBytes line) ∧ t.sendLine c line = u.flush c := by
  have hfirst := writeAll_ok (Text.Utf8.bytesOf line) h
  obtain ⟨done, hdone, -, hall⟩ := writeAll_wrote c (Text.Utf8.bytesOf line) t
  rw [hall hfirst] at hdone
  rw [sendLine]
  split
  · next heq => rw [heq] at hfirst; cases hfirst
  · next t₁ heq =>
    rw [heq] at hdone
    have h₁ : (t₁.sink c).policy.Accepting := by
      rw [hdone.policy]
      exact h
    have hsecond := writeAll_ok [Input.lineFeed] h₁
    obtain ⟨done', hdone', -, hall'⟩ := writeAll_wrote c [Input.lineFeed] t₁
    rw [hall' hsecond] at hdone'
    split
    · next heq' => rw [heq'] at hsecond; cases hsecond
    · next t₂ heq' =>
      rw [heq'] at hdone'
      exact ⟨t₂, hdone.trans hdone', rfl⟩

/-! ## Healthy streams -/

theorem flush_ok (h : (t.sink c).policy.Healthy) : (t.flush c).1 = .ok () := by
  have hf : (t.sink c).flush.1 = .ok () := h.2 _
  rw [flush]
  split
  · next heq => rw [heq] at hf; cases hf
  · rfl

/-- A healthy stream takes every line. -/
theorem sendLine_ok (line : String) (h : (t.sink c).policy.Healthy) :
    (t.sendLine c line).1 = .ok () := by
  obtain ⟨u, hwrote, hsend⟩ := sendLine_of_accepting line h.accepting
  rw [hsend]
  apply flush_ok
  rw [hwrote.policy]
  exact h

/-! ## Diagnostics -/

/-- The bytes of diagnostics: each entry on a line of its own. -/
def diagnosticBytes (entries : List String) : List UInt8 :=
  entries.flatMap fun entry => lineBytes (flatten entry)

/-- Writing diagnostics puts a prefix of them into the stream, and a healthy one takes them all. -/
theorem writeDiagnostics_wrote (entries : List String) (t : Transport) :
    ∃ done, Wrote .diagnostics t (t.writeDiagnostics entries).2 done ∧
      done <+: diagnosticBytes entries ∧
      (t.diagnostics.policy.Healthy → done = diagnosticBytes entries) := by
  induction entries generalizing t with
  | nil => exact ⟨[], .refl _ t, List.nil_prefix, fun _ => rfl⟩
  | cons entry entries ih =>
    obtain ⟨done, hdone, hprefix, hok⟩ := sendLine_wrote .diagnostics (flatten entry) t
    have hhealthy := fun h => @sendLine_ok .diagnostics t (flatten entry) h
    rw [writeDiagnostics, writeDiagnostic]
    split
    · next t₁ heq =>
      rw [heq] at hdone hok
      obtain rfl := hok rfl
      obtain ⟨done', hdone', hprefix', hall⟩ := ih t₁
      refine ⟨_, hdone.trans hdone', (List.prefix_append_right_inj _).2 hprefix', fun h => ?_⟩
      have hpolicy : t₁.diagnostics.policy = t.diagnostics.policy := hdone.policy
      rw [hall (hpolicy ▸ h)]
      rfl
    · next e t₁ heq =>
      rw [heq] at hdone hhealthy
      refine ⟨done, hdone, hprefix.trans (List.prefix_append _ _), fun h => ?_⟩
      cases hhealthy h

/-! ## Messages -/

/-- No message takes more than one line. -/
theorem any_breaksLine_encode (m : Message) : m.encode.toList.any breaksLine = false := by
  rw [Message.encode, Json.Value.text, String.toList_ofList, List.any_eq_false]
  intro d hd
  have hcontrol := Json.Value.unbroken_render m.printable_toJson d hd
  -- Line ends are controls, and no control is printed as itself.
  intro hbreak
  simp only [breaksLine, Bool.or_eq_true, decide_eq_true_eq] at hbreak
  rcases hbreak with rfl | rfl <;> exact absurd hcontrol (by decide)

/-- A message is written as its line, after an entry in the log. -/
theorem writeMessage_eq (m : Message) (t : Transport) :
    t.writeMessage m =
      match (t.log .trace .transport "-> daemon" [("line", .quoted m.encode)]).sendLine .output
        m.encode with
      | (.ok (), t') => (.ok (), t')
      | (.error e, t') => (.error (.write e), t') := by
  rw [writeMessage, writeLine, any_breaksLine_encode]
  rfl

/-- A healthy stream takes every message. -/
theorem writeMessage_ok (m : Message) (h : t.output.policy.Healthy) :
    (t.writeMessage m).1 = .ok () := by
  have hok := @sendLine_ok .output
    (t.log .trace .transport "-> daemon" [("line", .quoted m.encode)]) m.encode h
  rw [writeMessage_eq]
  split
  · rfl
  · next heq =>
    rw [heq] at hok
    cases hok

/-- When a message cannot be written, the stream is to blame. -/
theorem writeMessage_error {m : Message} {e : SessionError}
    (h : t.writeMessage m = (.error e, t')) : ∃ failure, e = .write failure := by
  rw [writeMessage_eq] at h
  split at h
  · simp at h
  · next failure t₁ _ =>
    obtain ⟨he, -⟩ := Prod.mk.inj h
    exact ⟨failure, (Except.error.inj he).symm⟩

end Transport

end ShardBridge
