/-
  ShardBridge.Proofs.Session.Promptness

  The daemon is never left waiting.  It waits for a line that the session has
  written but not flushed, while the session waits for the next line of its
  input.  On an output that takes whatever it is offered this cannot happen: a
  line is written as a whole and flushed before the session reads again, and if
  the flush fails the session does not read (`Session.run_prompt`).

    * `Journal.Settled es` -- whole lines went out, and all of them are flushed;
    * `Journal.Timely es` -- whenever a read starts, what came before is settled;
    * `Prompt t t'`, `AtRest t t'` -- what happened between the two handles is
      timely, and at a handle at rest it is settled as well.
-/
import ShardBridge.Proofs.Session.Calls
import ShardBridge.Proofs.Session.Transcript

namespace ShardBridge

open Transport (Silent Wrote WritesTo breaksLine lineBytes)

/-! ## Events -/

namespace Journal

/-- What went out are whole lines, each of them with its end and without any other line end. -/
def WholeLines (es : List Event) : Prop :=
  ∃ lines : List String, (∀ line ∈ lines, line.toList.any breaksLine = false) ∧
    bytes .output es = lines.flatMap lineBytes

/-- After everything that went out, there was a flush. -/
def Flushed (es : List Event) : Prop :=
  ∀ before taken after, es = before ++ .wrote .output taken :: after → .flushed .output ∈ after

/-- What went out are whole lines, and all of it is flushed. -/
structure Settled (es : List Event) : Prop where
  lines : WholeLines es
  flushed : Flushed es

/-- Whenever a read starts, what happened before is settled. -/
def Timely (es : List Event) : Prop :=
  ∀ before after, es = before ++ .reading :: after → Settled before

variable {es es' : List Event}

/-- Where an item stands in two lists one after the other. -/
theorem split_append {e : Event} {before after : List Event}
    (h : es ++ es' = before ++ e :: after) :
    (∃ mid, es = before ++ e :: mid ∧ after = mid ++ es') ∨
      ∃ mid, before = es ++ mid ∧ es' = mid ++ e :: after := by
  rcases List.append_eq_append_iff.1 h with ⟨mid, hbefore, hes'⟩ | ⟨mid, hes, hafter⟩
  · exact .inr ⟨mid, hbefore, hes'⟩
  · cases mid with
    | nil =>
      refine .inr ⟨[], ?_, hafter.symm⟩
      rw [hes, List.append_nil, List.append_nil]
    | cons e' mid =>
      obtain ⟨rfl, hmid⟩ := List.cons.inj hafter
      exact .inl ⟨mid, hes, hmid⟩

/-- Where an item stands in a list with one more item at its end. -/
theorem split_concat {e e' : Event} {before after : List Event}
    (h : es ++ [e'] = before ++ e :: after) :
    (∃ mid, es = before ++ e :: mid ∧ after = mid ++ [e']) ∨ before = es ∧ e = e' := by
  rcases split_append h with hmid | ⟨mid, hbefore, hlast⟩
  · exact .inl hmid
  · cases mid with
    | nil => exact .inr ⟨hbefore.trans (List.append_nil es), (List.cons.inj hlast).1.symm⟩
    | cons _ mid => simp at hlast

/-! ### Flushes -/

theorem flushed_nil : Flushed [] := by
  intro before taken after heq
  simp at heq

/-- What writes nothing may follow. -/
theorem Flushed.append (h : Flushed es) (hnone : ∀ taken, .wrote .output taken ∉ es') :
    Flushed (es ++ es') := by
  intro before taken after heq
  rcases split_append heq with ⟨mid, hes, rfl⟩ | ⟨mid, -, hes'⟩
  · exact List.mem_append_left _ (h before taken mid hes)
  · refine absurd ?_ (hnone taken)
    rw [hes']
    exact List.mem_append_right _ (List.mem_cons_self ..)

/-- After a flush, everything is flushed. -/
theorem flushed_concat (es : List Event) : Flushed (es ++ [.flushed .output]) := by
  intro before taken after heq
  rcases split_concat heq with ⟨mid, -, rfl⟩ | ⟨-, hlast⟩
  · exact List.mem_append_right _ (List.mem_singleton_self _)
  · cases hlast

/-- When everything is flushed, the stream holds nothing back. -/
theorem Flushed.held_eq_nil (h : Flushed es) (b : Backstage)
    (hb : b.output = [] ∨ .flushed .output ∈ es) : (sightings b es).2.output = [] := by
  have hrest : ∀ {e es}, Flushed (e :: es) → Flushed es := by
    intro e es h before taken after heq
    exact h (e :: before) taken after (congrArg (e :: ·) heq)
  induction es generalizing b with
  | nil =>
    rcases hb with hb | hb
    · exact hb
    · cases hb
  | cons e es ih =>
    -- A write waits for a flush that is still to come, and a flush lets everything go.
    cases e with
    | wrote c taken =>
      cases c with
      | output => exact ih (hrest h) _ (.inr (h [] taken es rfl))
      | diagnostics =>
        have hb' : b.output = [] ∨ .flushed .output ∈ es := by simpa using hb
        exact ih (hrest h) _ hb'
    | flushed c =>
      cases c with
      | output => exact ih (hrest h) _ (.inl rfl)
      | diagnostics =>
        have hb' : b.output = [] ∨ .flushed .output ∈ es := by simpa using hb
        exact ih (hrest h) _ hb'
    | _ => exact ih (hrest h) _ (by simpa using hb)

/-! ### Whole lines -/

theorem WholeLines.append (h : WholeLines es) (h' : WholeLines es') : WholeLines (es ++ es') := by
  obtain ⟨lines, hlines, hbytes⟩ := h
  obtain ⟨lines', hlines', hbytes'⟩ := h'
  refine ⟨lines ++ lines', List.forall_mem_append.2 ⟨hlines, hlines'⟩, ?_⟩
  rw [bytes_append, hbytes, hbytes', List.flatMap_append]

theorem WholeLines.of_none (h : bytes .output es = []) : WholeLines es :=
  ⟨[], List.forall_mem_nil _, h⟩

/-! ### Reads -/

/-- What reads nothing may follow. -/
theorem Timely.append (h : Timely es) (hnone : .reading ∉ es') : Timely (es ++ es') := by
  intro before after heq
  rcases split_append heq with ⟨mid, hes, -⟩ | ⟨mid, -, hes'⟩
  · exact h before mid hes
  · refine absurd ?_ hnone
    rw [hes']
    exact List.mem_append_right _ (List.mem_cons_self ..)

/-- A read may follow when everything is settled. -/
theorem Timely.read (h : Timely es) (hsettled : Settled es) : Timely (es ++ [.reading]) := by
  intro before after heq
  rcases split_concat heq with ⟨mid, hes, -⟩ | ⟨rfl, -⟩
  · exact h before mid hes
  · exact hsettled

end Journal

open Journal (Flushed Settled Timely WholeLines)

namespace Transport

/-! ## Handles -/

/-- From the first handle to the second, whole lines went out, and every read found all that had
    gone out before it flushed. The output takes whatever it is offered. -/
structure Prompt (t t' : Transport) : Prop where
  accepting : t'.output.policy.Accepting
  journal : ∃ es, t'.journal.toList = t.journal.toList ++ es ∧ WholeLines es ∧ Timely es

/-- Besides, all that went out is flushed. -/
structure AtRest (t t' : Transport) : Prop where
  accepting : t'.output.policy.Accepting
  journal : ∃ es, t'.journal.toList = t.journal.toList ++ es ∧ Settled es ∧ Timely es

variable {t u v : Transport}

theorem AtRest.refl (h : t.output.policy.Accepting) : AtRest t t := by
  refine ⟨h, [], (List.append_nil _).symm, ⟨.of_none rfl, Journal.flushed_nil⟩, ?_⟩
  intro before after heq
  simp at heq

theorem AtRest.prompt (h : AtRest t u) : Prompt t u := by
  obtain ⟨es, hes, hsettled, htimely⟩ := h.journal
  exact ⟨h.accepting, es, hes, hsettled.lines, htimely⟩

/-! ### What passes nothing -/

theorem reading_not_mem_of_aside {es : List Event} (h : ∀ e ∈ es, e.IsAside) :
    .reading ∉ es := fun hread => h _ hread

theorem wrote_not_mem_of_aside {es : List Event} (h : ∀ e ∈ es, e.IsAside)
    (taken : List UInt8) : .wrote .output taken ∉ es := fun hwrote => h _ hwrote

theorem bytes_output_of_aside {es : List Event} (h : ∀ e ∈ es, e.IsAside) :
    Journal.bytes .output es = [] := by
  rw [Journal.bytes_output, Journal.signals_of_aside h]
  rfl

theorem Prompt.silent (h : Prompt t u) (hu : Silent u v) : Prompt t v := by
  obtain ⟨es, hes, hlines, htimely⟩ := h.journal
  obtain ⟨es', hes', hall⟩ := hu.journal
  refine ⟨hu.output ▸ h.accepting, es ++ es', ?_, ?_, ?_⟩
  · rw [hes', hes, List.append_assoc]
  · exact hlines.append (WholeLines.of_none (bytes_output_of_aside hall))
  · exact htimely.append (reading_not_mem_of_aside hall)

theorem AtRest.silent (h : AtRest t u) (hu : Silent u v) : AtRest t v := by
  obtain ⟨es, hes, hsettled, htimely⟩ := h.journal
  obtain ⟨es', hes', hall⟩ := hu.journal
  refine ⟨hu.output ▸ h.accepting, es ++ es', ?_, ⟨?_, ?_⟩, ?_⟩
  · rw [hes', hes, List.append_assoc]
  · exact hsettled.lines.append (WholeLines.of_none (bytes_output_of_aside hall))
  · exact hsettled.flushed.append (wrote_not_mem_of_aside hall)
  · exact htimely.append (reading_not_mem_of_aside hall)

/-! ### Reading -/

theorem AtRest.fetchLine (h : AtRest t u) : AtRest t u.fetchLine.2 := by
  obtain ⟨es, hes, hsettled, htimely⟩ := h.journal
  refine ⟨h.accepting, es ++ [.reading], ?_, ⟨?_, ?_⟩, htimely.read hsettled⟩
  · rw [Transport.fetchLine, Array.toList_push, hes, List.append_assoc]
  · exact hsettled.lines.append (WholeLines.of_none rfl)
  · refine hsettled.flushed.append fun taken hwrote => ?_
    cases List.mem_singleton.1 hwrote

theorem AtRest.readLine (h : AtRest t u) : AtRest t u.readLine.2 := by
  have hfetch := h.fetchLine
  rw [Transport.readLine]
  split
  · next heq => rw [heq] at hfetch; exact hfetch
  · next heq => rw [heq] at hfetch; exact hfetch
  · next bytes t₁ heq =>
    rw [heq] at hfetch
    rw [receive]
    split
    · exact hfetch.silent (silent_log _ _ _ _)
    · exact hfetch

/-! ### Writing -/

/-- A line goes out as a whole; when it comes out well, it is flushed. -/
theorem Prompt.sendLine {line : String} (h : Prompt t u)
    (hline : line.toList.any breaksLine = false) :
    Prompt t (u.sendLine .output line).2 ∧
      ((u.sendLine .output line).1 = .ok () → AtRest t (u.sendLine .output line).2) := by
  obtain ⟨v, hwrote, hsend⟩ := sendLine_of_accepting (c := .output) line h.accepting
  obtain ⟨es, hes, hlines, htimely⟩ := h.journal
  obtain ⟨es', hes', hall, hbytes⟩ := hwrote.journal
  have haccepting : v.output.policy.Accepting := by
    have hpolicy : v.output.policy = u.output.policy := hwrote.policy
    rw [hpolicy]
    exact h.accepting
  have hnone : .reading ∉ es' := fun hread => hall _ hread
  have hline' : WholeLines es' := by
    refine ⟨[line], ?_, ?_⟩
    · rw [List.forall_mem_singleton]
      exact hline
    · rw [hbytes, List.flatMap_singleton]
  have hwhole := hlines.append hline'
  have htimely' := htimely.append hnone
  have hjournal : v.journal.toList = t.journal.toList ++ (es ++ es') := by
    rw [hes', hes, List.append_assoc]
  rw [hsend, flush]
  -- A flush that fails leaves the line as it is.
  cases hflush : (v.sink .output).flush with
  | mk answer s =>
    have hs : s.policy = v.output.policy := by
      obtain ⟨-, rfl⟩ := Prod.mk.inj hflush
      rfl
    cases answer with
    | error e =>
      refine ⟨⟨hs ▸ haccepting, es ++ es', hjournal, hwhole, htimely'⟩, fun hok => ?_⟩
      cases hok
    | ok _ =>
      have hrest : AtRest t ((v.withSink .output s).record (.flushed .output)) := by
        refine ⟨hs ▸ haccepting, es ++ es' ++ [.flushed .output], ?_, ⟨?_, ?_⟩, ?_⟩
        · show (v.journal.push _).toList = _
          rw [Array.toList_push, hjournal, List.append_assoc]
        · exact hwhole.append (WholeLines.of_none rfl)
        · exact Journal.flushed_concat _
        · refine htimely'.append fun hread => ?_
          cases List.mem_singleton.1 hread
      exact ⟨hrest.prompt, fun _ => hrest⟩

theorem Prompt.writeMessage (h : Prompt t u) (m : Message) :
    Prompt t (u.writeMessage m).2 ∧
      ((u.writeMessage m).1 = .ok () → AtRest t (u.writeMessage m).2) := by
  have hlog := h.silent (silent_log .trace .transport "-> daemon" [("line", .quoted m.encode)])
  have hsend := hlog.sendLine (any_breaksLine_encode m)
  rw [writeMessage_eq]
  split
  · next heq =>
    rw [heq] at hsend
    exact ⟨hsend.1, fun _ => hsend.2 rfl⟩
  · next heq =>
    rw [heq] at hsend
    refine ⟨hsend.1, fun hok => ?_⟩
    cases hok

/-- An exchange reads only after its request was flushed. -/
theorem Prompt.exchange (h : Prompt t u) (target : CheckpointTarget) :
    Prompt t (u.exchange target).2 := by
  have hlog : Silent u
      (u.log .debug .checkpoint "requesting checkpoint" [positionField target]) :=
    silent_log _ _ _ _
  obtain ⟨hwritten, hrest⟩ := (h.silent hlog).writeMessage target.request
  rw [Transport.exchange]
  split
  · next heq => rw [heq] at hwritten; exact hwritten
  · next t₁ heq =>
    rw [heq] at hrest
    have hread : Prompt t t₁.readAnswer.2 := by
      have h₁ := (hrest rfl).readLine.prompt
      rw [readAnswer]
      split
      · next heq' => rw [heq'] at h₁; exact h₁
      · next heq' => rw [heq'] at h₁; exact h₁
      · next heq' => rw [heq'] at h₁; split <;> exact h₁
    split
    · next heq' => rw [heq'] at hread; exact hread
    · next answer t₂ heq' =>
      rw [heq'] at hread
      cases answer <;> exact hread.silent (silent_log _ _ _ _)

/-- A callback leaves whole lines, of which the last one need not be flushed: the flush may have
    failed, and the callback may keep that to itself. -/
theorem Prompt.activity {access : Access} {σ : Type} (h : Prompt t u) (a : Activity access σ) :
    Prompt t (a.run u).transport :=
  a.keeps (fun r _ h => h.silent (silent_record r.isAside)) (fun target _ h => h.exchange target) h

end Transport

/-! ## Sessions -/

namespace Session

open Transport (Prompt AtRest)

variable {σ : Type} {t u : Transport}

theorem atRest_nextTurn (h : AtRest t u) : AtRest t (nextTurn u).transport := by
  have hread := h.readLine
  rw [nextTurn]
  split
  · next heq =>
    rw [heq] at hread
    exact hread.silent (Transport.silent_log _ _ _ _)
  · next heq =>
    rw [heq] at hread
    split
    · exact hread.silent (Transport.silent_log _ _ _ _)
    · exact hread
  · next heq =>
    rw [heq] at hread
    exact hread
  · next heq =>
    rw [heq] at hread
    rw [Turn.ofLine]
    split
    · exact hread
    · exact hread.silent (Transport.silent_log _ _ _ _)

/-- A session goes on only after its status line was flushed. -/
theorem prompt_ofCallback (action : Action) {e : Activity.Ending σ} (h : Prompt t e.transport) :
    Prompt t (Round.ofCallback action e).transport ∧
      ∀ {state' t'}, Round.ofCallback action e = .goOn state' t' → AtRest t t' := by
  obtain ⟨hwritten, hrest⟩ := h.writeMessage (.status action)
  rw [Round.ofCallback]
  split
  · exact ⟨h, fun hround => by cases hround⟩
  · split
    · next heq =>
      rw [heq] at hwritten
      exact ⟨hwritten, fun hround => by cases hround⟩
    · next heq =>
      rw [heq] at hwritten hrest
      refine ⟨hwritten, fun hround => ?_⟩
      obtain ⟨-, rfl⟩ := Round.goOn.inj hround
      exact hrest rfl

theorem prompt_round (p : Processor σ) (state : σ) (h : AtRest t u) :
    Prompt t (round p state u).transport ∧
      ∀ {state' t'}, round p state u = .goOn state' t' → AtRest t t' := by
  have hturn := atRest_nextTurn h
  rw [round]
  split
  · next heq =>
    rw [heq] at hturn
    exact ⟨hturn.prompt, fun hround => by cases hround⟩
  · next line m t₁ heq =>
    rw [heq] at hturn
    rw [p.callback_eq]
    cases p.callbackFor? state m with
    | none => exact ⟨hturn.prompt, fun hround => by cases hround⟩
    | some a =>
      have hannounced := hturn.silent (m.silent_announce t₁)
      exact prompt_ofCallback m.action (hannounced.prompt.activity a.activity)

theorem prompt_loop (p : Processor σ) (state : σ) (h : AtRest t u) :
    Prompt t (loop p state u).transport := by
  fun_induction loop p state u with
  | case1 state u e hround =>
    have hprompt := (prompt_round p state h).1
    rw [hround] at hprompt
    exact hprompt
  | case2 state u state' u' hround _ ih =>
    have hrest := (prompt_round p state h).2 hround
    exact ih hrest

/-- On an output that takes whatever it is offered, the daemon is never left waiting: whenever the
    session starts to read, at top level or for the answer to a request, all that it has put out are
    whole lines, the output holds nothing of them back, and after each write there was a flush.
    This holds whatever the callbacks and their handlers do, and also if flushes fail. -/
theorem run_prompt (p : Processor σ) (state : σ) (t : Transport)
    (h : t.output.policy.Accepting) :
    ∃ es, (run p state t).transport.journal.toList = t.journal.toList ++ es ∧
      ∀ before after, es = before ++ .reading :: after →
        WholeLines before ∧ (Journal.sightings {} before).2.output = [] ∧ Flushed before := by
  have hprompt := (prompt_loop p state (.refl h)).silent (silent_run p state t)
  obtain ⟨es, hes, -, htimely⟩ := hprompt.journal
  refine ⟨es, hes, fun before after hsplit => ?_⟩
  obtain ⟨hlines, hflushed⟩ := htimely before after hsplit
  exact ⟨hlines, hflushed.held_eq_nil {} (.inl rfl), hflushed⟩

/-- Streams of which the output takes everything and fails its first flush. -/
def flushFails : Transport :=
  shardAtEnd.withSink .output
    (.ofPolicy (Sink.Policy.open.failingFlush 1 ⟨.other, "no flush", .root⟩))

/-- A callback that keeps it to itself that its request was not flushed: the read after it comes
    when the status line was flushed, and the request with it. -/
theorem run_prompt_flushFails :
    flushFails.output.policy.Accepting ∧
      ∃ es, (run closing () flushFails).transport.journal.toList = es ∧
        ∀ before after, es = before ++ .reading :: after → Settled before := by
  have haccepting : flushFails.output.policy.Accepting := fun _ _ offered h => ⟨offered, rfl, h⟩
  obtain ⟨es, hes, hprompt⟩ := run_prompt closing () flushFails haccepting
  refine ⟨haccepting, es, hes, fun before after hsplit => ?_⟩
  obtain ⟨hlines, -, hflushed⟩ := hprompt before after hsplit
  exact ⟨hlines, hflushed⟩

end Session

end ShardBridge
