/-
  ShardBridge.Proofs.Transport.Limited

  An output that takes so many bytes and refuses the next one.  What is written
  to it goes in as far as there is room.  When the room does not suffice, the
  write breaks off at the byte at which the stream is full, wherever in a line
  that is, with the failure of the stream; nothing else is tried after the offer
  that was refused (`Transport.writeMessage_limited`).

    * `Sink.Policy.Limited limit kind` -- takes the bytes up to the limit, and
      refuses the others with a failure of this kind;
    * `PutOut t u bytes` -- the stream took these bytes, and nothing was read;
    * `Refused u v e` -- the stream refused an offer, and that was the last one;
    * `Pours wrap limit kind t bytes` -- the two ways in which a write comes out.
-/
import ShardBridge.Proofs.Transport.Frame
import ShardBridge.Proofs.Transport.Interchange

namespace ShardBridge

/-! ## Limited streams -/

namespace Sink

/-- Takes the first bytes, so many of them, and refuses every byte after them with a failure of this
    kind. A write that finds room takes something, though perhaps not all that it is offered. -/
structure Policy.Limited (limit : Nat) (kind : StreamFailureKind) (p : Policy) : Prop where
  takes : ∀ writes taken offered, taken < limit → 0 < offered →
    ∃ n, p.write writes taken offered = .ok n ∧ 0 < n ∧ taken + min n offered ≤ limit
  refuses : ∀ writes taken offered, limit ≤ taken → 0 < offered →
    (∃ e, p.write writes taken offered = .error e ∧ e.kind = kind) ∨
      p.write writes taken offered = .ok 0 ∧ kind = .writeZero
  flush : ∀ flushes, p.flush flushes = .ok ()

/-- No write says that it took more than it was offered. -/
def Policy.Honest (p : Policy) : Prop :=
  ∀ writes taken offered n, p.write writes taken offered = .ok n → n ≤ offered

theorem Policy.open_honest : Policy.open.Honest := by
  intro writes taken offered n hn
  exact Nat.le_of_eq (Except.ok.inj hn).symm

variable {p : Policy} {limit : Nat}

theorem Policy.limited_failingAfter (h : p.Healthy) (hp : p.Honest) (limit : Nat)
    (e : StreamFailure) : (p.failingAfter limit e).Limited limit e.kind where
  takes := by
    intro writes taken offered hroom hoffered
    -- The offer is cut to the room that is left.
    obtain ⟨n, hn, hpos⟩ := h.1 writes taken (min offered (limit - taken)) (by omega)
    have hle := hp _ _ _ _ hn
    refine ⟨n, ?_, hpos, by omega⟩
    rw [failingAfter]
    dsimp only
    rw [if_neg (by omega)]
    exact hn
  refuses := by
    intro writes taken offered hfull hoffered
    exact .inl ⟨e, if_pos hfull, rfl⟩
  flush := h.2

/-- Why the stream takes nothing of what it is offered: it fails, or it is full. -/
def refusal? (s : Sink) (bytes : List UInt8) : Option StreamFailure :=
  match (s.offer bytes).1 with
  | .error e => some e
  | .ok [] => some .writeZero
  | .ok (_ :: _) => none

/-- A limited stream takes something and stays within its limit, or it is at its limit and refuses
    what it is offered. -/
theorem offer_limited {s : Sink} {kind : StreamFailureKind} (h : s.policy.Limited limit kind)
    (hle : s.taken ≤ limit) (b : UInt8) (rest : List UInt8) :
    (∃ x taken s', s.offer (b :: rest) = (.ok (x :: taken), s') ∧
        s'.taken = s.taken + (x :: taken).length ∧ s'.taken ≤ limit) ∨
      s.taken = limit ∧ ∃ e, s.refusal? (b :: rest) = some e ∧ e.kind = kind := by
  by_cases hroom : s.taken < limit
  · obtain ⟨n, hn, hpos, hbound⟩ :=
      h.takes s.writes s.taken (b :: rest).length hroom (Nat.succ_pos _)
    obtain ⟨n, rfl⟩ : ∃ m, n = m + 1 := ⟨n - 1, by omega⟩
    refine .inl ⟨b, rest.take n, ?_⟩
    rw [offer, hn]
    refine ⟨_, rfl, rfl, ?_⟩
    rw [List.length_take]
    exact hbound
  · refine .inr ⟨by omega, ?_⟩
    rcases h.refuses s.writes s.taken (b :: rest).length (by omega) (Nat.succ_pos _) with
      ⟨e, he, hkind⟩ | ⟨hzero, hkind⟩
    · refine ⟨e, ?_, hkind⟩
      rw [refusal?, offer, he]
    · refine ⟨.writeZero, ?_, hkind.symm⟩
      rw [refusal?, offer, hzero]
      rfl

end Sink

namespace Transport

variable {t u v : Transport} {a b bytes : List UInt8}

/-! ## What goes in -/

/-- From the first handle to the second, the output took these bytes, and nothing was read. -/
structure PutOut (t u : Transport) (bytes : List UInt8) : Prop where
  output : Journal.bytes .output u.journal.toList =
    Journal.bytes .output t.journal.toList ++ bytes
  taken : u.output.taken = t.output.taken + bytes.length
  policy : u.output.policy = t.output.policy
  input : u.input = t.input
  later : Later t u

theorem PutOut.trans (h : PutOut t u a) (h' : PutOut u v b) : PutOut t v (a ++ b) := by
  refine ⟨?_, ?_, h'.policy.trans h.policy, h'.input.trans h.input, ?_⟩
  · rw [h'.output, h.output, List.append_assoc]
  · rw [h'.taken, h.taken, List.length_append, Nat.add_assoc]
  · exact frame_later.trans h.later h'.later

theorem putOut_silent (h : Silent t u) : PutOut t u [] := by
  refine ⟨?_, ?_, ?_, h.input, h.later⟩
  · rw [Journal.bytes_output, Journal.bytes_output, h.signals, List.append_nil]
  · rw [h.output]
    rfl
  · rw [h.output]

theorem putOut_wrote (h : Wrote .output t u bytes)
    (htaken : u.output.taken = t.output.taken + bytes.length) : PutOut t u bytes := by
  obtain ⟨es, hes, -, hbytes⟩ := h.journal
  refine ⟨?_, htaken, h.policy, h.input, es, hes.symm⟩
  rw [hes, Journal.bytes_append, hbytes]

/-- On the first handle, the output takes nothing of what it is offered. From there to the second
    handle nothing is read, and nothing else is offered to the output. -/
def Refused (u v : Transport) (e : StreamFailure) : Prop :=
  ∃ b rest, u.output.refusal? (b :: rest) = some e ∧
    Silent (u.withSink .output (u.output.offer (b :: rest)).2) v

variable {e : StreamFailure} {w : Transport}

theorem Refused.silent (h : Refused u v e) (h' : Silent v w) : Refused u w e := by
  obtain ⟨b, rest, hrefusal, hsilent⟩ := h
  exact ⟨b, rest, hrefusal, hsilent.trans h'⟩

/-- Nothing of a refused offer goes out. -/
theorem outputOf_refused (h : Refused u v e) :
    Journal.bytes .output v.journal.toList = Journal.bytes .output u.journal.toList := by
  obtain ⟨b, rest, -, hsilent⟩ := h
  rw [Journal.bytes_output, Journal.bytes_output, hsilent.signals]
  rfl

/-! ## How a write comes out -/

/-- How it comes out to write these bytes to a limited output: all of them go in, or as many as
    there is room for, and then the output refuses an offer. -/
inductive Pours {ε : Type} (wrap : StreamFailure → ε) (limit : Nat) (kind : StreamFailureKind)
    (t : Transport) (bytes : List UInt8) : Except ε Unit × Transport → Prop
  | fits {u : Transport} (hfits : t.output.taken + bytes.length ≤ limit)
      (hput : PutOut t u bytes) : Pours wrap limit kind t bytes (.ok (), u)
  | breaks {u v : Transport} {e : StreamFailure} (hlt : limit < t.output.taken + bytes.length)
      (hput : PutOut t u (bytes.take (limit - t.output.taken))) (hrefused : Refused u v e)
      (hkind : e.kind = kind) : Pours wrap limit kind t bytes (.error (wrap e), v)

variable {ε : Type} {wrap : StreamFailure → ε} {limit : Nat} {kind : StreamFailureKind}
  {r : Except ε Unit × Transport}

/-- What went in before counts as well. -/
theorem Pours.after (hput : PutOut t u a) (hle : u.output.taken ≤ limit)
    (h : Pours wrap limit kind u b r) : Pours wrap limit kind t (a ++ b) r := by
  have htaken := hput.taken
  cases h with
  | fits hfits hput' =>
    refine .fits ?_ (hput.trans hput')
    rw [List.length_append]
    omega
  | @breaks u' _ _ hlt hput' hrefused hkind =>
    have hall : a.take (limit - t.output.taken) = a := List.take_of_length_le (by omega)
    have hroom : limit - t.output.taken - a.length = limit - u.output.taken := by omega
    have hsplit : (a ++ b).take (limit - t.output.taken) =
        a ++ b.take (limit - u.output.taken) := by
      rw [List.take_append, hall, hroom]
    refine .breaks ?_ (hsplit ▸ hput.trans hput') hrefused hkind
    rw [List.length_append]
    omega

/-- What was to follow is not tried when the room does not suffice. -/
theorem Pours.before {f : StreamFailure → ε} {x : ε} (b : List UInt8)
    (h : Pours f limit kind t a (.error x, v)) : Pours f limit kind t (a ++ b) (.error x, v) := by
  cases h with
  | breaks hlt hput hrefused hkind =>
    have hshort : limit - t.output.taken ≤ a.length := by omega
    refine .breaks ?_ ?_ hrefused hkind
    · rw [List.length_append]
      omega
    · rw [List.take_append_of_le_length hshort]
      exact hput

/-! ## Bytes, lines and messages -/

/-- At its limit, the output refuses the whole offer. -/
theorem pours_of_refusal {rest : List UInt8} {x : UInt8} (hfull : t.output.taken = limit)
    (hrefusal : t.output.refusal? (x :: rest) = some e) (hkind : e.kind = kind) :
    Pours id limit kind t (x :: rest)
      (.error e, t.withSink .output (t.output.offer (x :: rest)).2) := by
  refine .breaks (u := t) ?_ ?_ ⟨x, rest, hrefusal, .refl _⟩ hkind
  · rw [List.length_cons]
    omega
  · rw [hfull, Nat.sub_self]
    exact putOut_silent (.refl t)

theorem writeAll_limited (bytes : List UInt8) (h : t.output.policy.Limited limit kind)
    (hle : t.output.taken ≤ limit) : Pours id limit kind t bytes (t.writeAll .output bytes) := by
  generalize hc : Channel.output = c
  -- By how the stream answers: at its limit it takes nothing, and before its limit it takes
  -- something.
  fun_induction writeAll c bytes t with
  | case1 t => exact .fits hle (putOut_silent (.refl t))
  | case2 t b rest e s hoffer =>
    subst hc
    have hanswer : t.output.offer (b :: rest) = (.error e, s) := hoffer
    rcases Sink.offer_limited h hle b rest with ⟨x, taken, s', htakes, -⟩ |
      ⟨hfull, e', hrefusal, hkind⟩
    · rw [hanswer] at htakes
      cases htakes
    · have hrefused := pours_of_refusal hfull hrefusal hkind
      rw [Sink.refusal?, hanswer] at hrefusal
      rw [hanswer] at hrefused
      cases hrefusal
      exact hrefused
  | case3 t b rest s hoffer =>
    subst hc
    have hanswer : t.output.offer (b :: rest) = (.ok [], s) := hoffer
    rcases Sink.offer_limited h hle b rest with ⟨x, taken, s', htakes, -⟩ |
      ⟨hfull, e', hrefusal, hkind⟩
    · rw [hanswer] at htakes
      cases htakes
    · have hrefused := pours_of_refusal hfull hrefusal hkind
      rw [Sink.refusal?, hanswer] at hrefusal
      rw [hanswer] at hrefused
      cases hrefusal
      exact hrefused
  | case4 t b rest x taken s hoffer ih =>
    subst hc
    have hanswer : t.output.offer (b :: rest) = (.ok (x :: taken), s) := hoffer
    rcases Sink.offer_limited h hle b rest with ⟨x', taken', s', htakes, htaken, hbound⟩ |
      ⟨-, e', hrefusal, -⟩
    · rw [hanswer] at htakes
      obtain ⟨hsame, rfl⟩ := Prod.mk.inj htakes
      obtain ⟨rfl, rfl⟩ := List.cons.inj (Except.ok.inj hsame)
      have hput : PutOut t ((t.withSink .output s).record (.wrote .output (x :: taken)))
          (x :: taken) := putOut_wrote (wrote_of_taken hoffer) htaken
      have hpolicy := hput.policy
      rw [← taken_append_drop hanswer]
      exact (ih (hpolicy ▸ h) hbound).after hput hbound
    · rw [Sink.refusal?, hanswer] at hrefusal
      cases hrefusal

theorem flush_limited (h : t.output.policy.Limited limit kind) :
    (t.flush .output).1 = .ok () ∧ PutOut t (t.flush .output).2 [] := by
  have hflush : (t.sink .output).flush.1 = .ok () := h.flush _
  have hwrote := flush_wrote .output t
  rw [flush] at hwrote ⊢
  split
  · next heq =>
    rw [heq] at hflush
    cases hflush
  · next s heq =>
    rw [heq] at hwrote
    refine ⟨rfl, putOut_wrote hwrote ?_⟩
    have hs := congrArg Prod.snd heq
    dsimp only at hs
    rw [← hs]
    rfl

theorem sendLine_limited (line : String) (h : t.output.policy.Limited limit kind)
    (hle : t.output.taken ≤ limit) :
    Pours id limit kind t (lineBytes line) (t.sendLine .output line) := by
  have hfirst := writeAll_limited (Text.Utf8.bytesOf line) h hle
  rw [sendLine]
  generalize t.writeAll .output (Text.Utf8.bytesOf line) = r at hfirst ⊢
  cases hfirst with
  | breaks hlt hput hrefused hkind => exact (Pours.breaks hlt hput hrefused hkind).before _
  | @fits u hfits hput =>
    -- The line is in; its end may find no room.
    have hpolicy := hput.policy
    have hroom : u.output.taken ≤ limit := hput.taken ▸ hfits
    have hsecond := writeAll_limited [Input.lineFeed] (hpolicy ▸ h) hroom
    dsimp only
    generalize u.writeAll .output [Input.lineFeed] = r at hsecond ⊢
    cases hsecond with
    | breaks hlt hput' hrefused hkind =>
      exact (Pours.breaks hlt hput' hrefused hkind).after hput hroom
    | @fits v hfits' hput' =>
      have hpolicy' := hput'.policy.trans hpolicy
      obtain ⟨hok, hflushed⟩ := @flush_limited v _ _ (hpolicy' ▸ h)
      have hall := hput'.trans hflushed
      rw [List.append_nil] at hall
      have hresult : v.flush .output = (.ok (), (v.flush .output).2) := Prod.ext hok rfl
      dsimp only
      rw [hresult]
      exact (Pours.fits hfits' hall).after hput hroom

/-- A message goes into a limited output as far as there is room. -/
theorem writeMessage_limited (m : Message) (h : t.output.policy.Limited limit kind)
    (hle : t.output.taken ≤ limit) :
    Pours SessionError.write limit kind t (messageBytes m) (t.writeMessage m) := by
  have hlog : PutOut t (t.log .trace .transport "-> daemon" [("line", .quoted m.encode)]) [] :=
    putOut_silent (silent_log _ _ _ _)
  have hsend := (sendLine_limited (t := t.log .trace .transport "-> daemon"
    [("line", .quoted m.encode)]) m.encode h hle).after hlog hle
  rw [List.nil_append] at hsend
  rw [writeMessage_eq]
  generalize (t.log .trace .transport "-> daemon" [("line", .quoted m.encode)]).sendLine .output
    m.encode = r at hsend ⊢
  cases hsend with
  | fits hfits hput => exact .fits hfits hput
  | breaks hlt hput hrefused hkind => exact .breaks hlt hput hrefused hkind

end Transport

end ShardBridge
