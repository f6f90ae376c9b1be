/-
  ShardBridge.Proofs.Transport.Frame

  What holds between an earlier and a later handle of one session.  A relation
  that is reflexive, transitive and kept by the single steps (a remark, a read,
  bytes to the daemon) is kept by all that a session is made of
  (`Transport.Frame`).

    * `Later t t'` -- the journal of the second handle goes on from the first;
    * `Silent t t'` -- in between, nothing passed between session and daemon.
-/
import ShardBridge.Processor
import ShardBridge.Proofs.Transport.Traffic

namespace ShardBridge

/-! ## What programs keep -/

variable {P : Transport → Prop}

/-- What remarks and exchanges keep, a handler keeps. -/
theorem Recovery.keeps (hremark : ∀ (r : Remark) (t : Transport), P t → P (t.record r.event))
    (hexchange : ∀ (target : CheckpointTarget) (t : Transport), P t → P (t.exchange target).2)
    (r : Recovery) {t : Transport} (h : P t) : P (r.run t).2 := by
  induction r generalizing t with
  | finish result => exact h
  | remark r next ih =>
    rw [run]
    exact ih (hremark r t h)
  | checkpoint target handler next ihh ihn =>
    have he := hexchange target t h
    rw [run]
    split
    · next heq => rw [heq] at he; exact ihn _ he
    · next heq => rw [heq] at he; exact ihn _ he
    · next error t₁ heq =>
      rw [heq] at he
      exact ihn _ (ihh target error he)

/-- What remarks and exchanges keep, a callback keeps. -/
theorem Activity.keeps (hremark : ∀ (r : Remark) (t : Transport), P t → P (t.record r.event))
    (hexchange : ∀ (target : CheckpointTarget) (t : Transport), P t → P (t.exchange target).2)
    {access : Access} {σ : Type} (a : Activity access σ) {t : Transport} (h : P t) :
    P (a.run t).transport := by
  induction a generalizing t with
  | finish state outcome => exact h
  | remark r next ih =>
    rw [run]
    exact ih (hremark r t h)
  | checkpoint allowed target handler next ih =>
    rw [run]
    exact ih _ ((Recovery.checkpoint target handler .finish).keeps hremark hexchange h)

namespace Transport

/-- The relation is kept by every step of a session. -/
structure Frame (R : Transport → Transport → Prop) : Prop where
  refl : ∀ t, R t t
  trans : ∀ {t t' t''}, R t t' → R t' t'' → R t t''
  remark : ∀ t (r : Remark), R t (t.record r.event)
  fetch : ∀ t, R t t.fetchLine.2
  wrote : ∀ {t t' bytes}, Wrote .output t t' bytes → R t t'

namespace Frame

variable {R : Transport → Transport → Prop} (F : Frame R)

include F

theorem log (t : Transport) (level : LogLevel) (subject : LogSubject) (message : String)
    (fields : List (String × LogValue)) : R t (t.log level subject message fields) :=
  F.remark t (.log ⟨level, subject, message, fields⟩)

theorem writeMessage (m : Message) (t : Transport) : R t (t.writeMessage m).2 := by
  have hlog := F.log t .trace .transport "-> daemon" [("line", .quoted m.encode)]
  obtain ⟨done, hdone, -, -⟩ := sendLine_wrote .output m.encode
    (t.log .trace .transport "-> daemon" [("line", .quoted m.encode)])
  have hsend := F.trans hlog (F.wrote hdone)
  rw [writeMessage_eq]
  split <;> next heq => rw [heq] at hsend; exact hsend

theorem readLine (t : Transport) : R t t.readLine.2 := by
  have hfetch := F.fetch t
  rw [Transport.readLine]
  split
  · next heq => rw [heq] at hfetch; exact hfetch
  · next heq => rw [heq] at hfetch; exact hfetch
  · next bytes t₁ heq =>
    rw [heq] at hfetch
    rw [receive]
    split
    · exact F.trans hfetch (F.log _ _ _ _ _)
    · exact hfetch

theorem exchange (target : CheckpointTarget) (t : Transport) : R t (t.exchange target).2 := by
  have hlog := F.log t .debug .checkpoint "requesting checkpoint" [positionField target]
  have hwrite := F.trans hlog (F.writeMessage target.request _)
  rw [Transport.exchange]
  split
  · next heq => rw [heq] at hwrite; exact hwrite
  · next t₁ heq =>
    rw [heq] at hwrite
    have hread : R t t₁.readAnswer.2 := by
      have h := F.readLine t₁
      rw [readAnswer]
      split
      · next heq' => rw [heq'] at h; exact F.trans hwrite h
      · next heq' => rw [heq'] at h; exact F.trans hwrite h
      · next heq' => rw [heq'] at h; split <;> exact F.trans hwrite h
    split
    · next heq' => rw [heq'] at hread; exact hread
    · next answer t₂ heq' =>
      rw [heq'] at hread
      refine F.trans hread ?_
      cases answer <;> exact F.log _ _ _ _ _

/-- A handler keeps the relation. -/
theorem recovery (r : Recovery) (t : Transport) : R t (r.run t).2 :=
  r.keeps (fun r _ h => F.trans h (F.remark _ r))
    (fun target _ h => F.trans h (F.exchange target _)) (F.refl t)

theorem checkpoint (target : CheckpointTarget) (handler : CheckpointHandler) (t : Transport) :
    R t (t.checkpoint target handler).2 :=
  F.recovery _ t

/-- A callback keeps the relation. -/
theorem activity {access : Access} {σ : Type} (a : Activity access σ) (t : Transport) :
    R t (a.run t).transport :=
  a.keeps (fun r _ h => F.trans h (F.remark _ r))
    (fun target _ h => F.trans h (F.exchange target _)) (F.refl t)

theorem callback {σ : Type} {p : Processor σ} {state : σ} {m : Message}
    {run : Transport → Activity.Ending σ} (h : p.callback? state m = some run) (t : Transport) :
    R t (run t).transport := by
  cases m with
  | shutdown reason =>
    obtain rfl := Option.some.inj h
    refine F.trans (F.log t .debug .bridge "legacy shutdown"
      [("reason", .shown reason.name)]) ?_
    cases reason <;> exact F.activity _ _
  | checkpoint c => simp [Processor.callback?] at h
  | status a => simp [Processor.callback?] at h
  | _ =>
    obtain rfl := Option.some.inj h
    exact F.activity _ t

end Frame

/-- A healthy output stays so, whatever a session does. -/
theorem frame_healthy :
    Frame fun t t' => t.output.policy.Healthy → t'.output.policy.Healthy where
  refl := fun _ => id
  trans := fun h h' => h' ∘ h
  remark := fun _ _ => id
  fetch := fun _ => id
  wrote := fun {t t' _} hwrote h => by
    have hpolicy : t'.output.policy = t.output.policy := hwrote.policy
    rw [hpolicy]
    exact h

/-! ## The journal grows -/

/-- The journal of the second handle goes on from that of the first. -/
def Later (t t' : Transport) : Prop := t.journal.toList <+: t'.journal.toList

theorem later_record (t : Transport) (e : Event) : Later t (t.record e) := by
  rw [Later, record, Array.toList_push]
  exact List.prefix_append _ _

/-- A session never takes back what happened. -/
theorem frame_later : Frame Later where
  refl := fun t => List.prefix_refl _
  trans := List.IsPrefix.trans
  remark := fun t r => later_record t r.event
  fetch := fun t => by
    rw [Later, fetchLine, Array.toList_push]
    exact List.prefix_append _ _
  wrote := fun h => by
    obtain ⟨es, hes, -⟩ := h.journal
    exact ⟨es, hes.symm⟩

variable {t t' t'' : Transport}

/-- The output of a later handle goes on from that of an earlier one. -/
theorem Later.output (h : Later t t') :
    Journal.bytes .output t.journal.toList <+: Journal.bytes .output t'.journal.toList := by
  obtain ⟨es, hes⟩ := h
  rw [← hes, Journal.bytes_append]
  exact List.prefix_append _ _

/-! ## Nothing passes -/

end Transport

/-- The event is neither a read nor anything that the daemon sees. -/
def Event.IsAside : Event → Prop
  | .reading => False
  | .wrote .output _ => False
  | .flushed .output => False
  | _ => True

theorem Remark.isAside (r : Remark) : r.event.IsAside := by
  cases r <;> exact trivial

theorem Journal.signals_of_aside {es : List Event} (h : ∀ e ∈ es, e.IsAside) : signals es = [] := by
  induction es with
  | nil => rfl
  | cons e es ih =>
    have he := h e (List.mem_cons_self ..)
    have ih := ih fun e he => h e (List.mem_cons_of_mem _ he)
    cases e with
    | reading => exact he.elim
    | wrote c taken =>
      cases c with
      | output => exact he.elim
      | diagnostics => exact ih
    | _ => exact ih

namespace Transport

/-- From the first handle to the second, nothing was read, and nothing went to the daemon. -/
structure Silent (t t' : Transport) : Prop where
  journal : ∃ es, t'.journal.toList = t.journal.toList ++ es ∧ ∀ e ∈ es, e.IsAside
  input : t'.input = t.input
  output : t'.output = t.output

variable {t t' t'' : Transport}

theorem Silent.refl (t : Transport) : Silent t t :=
  ⟨⟨[], (List.append_nil _).symm, List.forall_mem_nil _⟩, rfl, rfl⟩

theorem Silent.trans (h : Silent t t') (h' : Silent t' t'') : Silent t t'' := by
  obtain ⟨es, hes, hall⟩ := h.journal
  obtain ⟨es', hes', hall'⟩ := h'.journal
  refine ⟨⟨es ++ es', ?_, ?_⟩, h'.input.trans h.input, h'.output.trans h.output⟩
  · rw [hes', hes, List.append_assoc]
  · intro e he
    rcases List.mem_append.1 he with he | he
    · exact hall e he
    · exact hall' e he

theorem silent_record {e : Event} (he : e.IsAside) : Silent t (t.record e) := by
  refine ⟨⟨[e], ?_, ?_⟩, rfl, rfl⟩
  · rw [record, Array.toList_push]
  · intro e' he'
    rw [List.mem_singleton.1 he']
    exact he

theorem silent_log (level : LogLevel) (subject : LogSubject) (message : String)
    (fields : List (String × LogValue)) : Silent t (t.log level subject message fields) :=
  silent_record trivial

/-- The daemon does not see the diagnostics. -/
theorem Wrote.silent {bytes : List UInt8} (h : Wrote .diagnostics t t' bytes) : Silent t t' := by
  obtain ⟨es, hes, hall, -⟩ := h.journal
  refine ⟨⟨es, hes, fun e he => ?_⟩, h.input, h.other .output (by decide)⟩
  have hwrites := hall e he
  cases e with
  | wrote c taken =>
    obtain rfl : c = .diagnostics := hwrites
    exact trivial
  | flushed c =>
    obtain rfl : c = .diagnostics := hwrites
    exact trivial
  | _ => exact hwrites.elim

theorem Silent.later (h : Silent t t') : Later t t' := by
  obtain ⟨es, hes, -⟩ := h.journal
  exact ⟨es, hes.symm⟩

theorem Silent.signals (h : Silent t t') :
    Journal.signals t'.journal.toList = Journal.signals t.journal.toList := by
  obtain ⟨es, hes, hall⟩ := h.journal
  rw [hes, Journal.signals_append, Journal.signals_of_aside hall, List.append_nil]

end Transport

end ShardBridge
