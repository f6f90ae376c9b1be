/-
  ShardBridge.Proofs.Session.Abreast

  One processor in two sessions, on inputs that give the same lines up to some
  point and then part.  Up to this point the two sessions do the same, whatever
  the callbacks do and however the output answers; they part where both read
  past it, between two messages or for the answer to a request.

    * `Level t t'` -- the same passed on both handles, and the outputs answer
      alike from now on;
    * `Abreast d N t t'` -- besides, what is left of the inputs agrees up to the
      point where they part, which `N` reads in all lead to;
    * `Session.Stops d N p state t t'` -- how the two sessions stop going
      together: they part, or both are over; until then they go on from one
      round to the next (`Session.round_abreast`).
-/
import ShardBridge.Proofs.Session.Coupling
import ShardBridge.Proofs.Session.PassingOn

namespace ShardBridge

open Transport (Frame Silent Took Wrote textOf)

/-! ## Handles on which the same passed -/

namespace Transport

/-- The number of reads so far. -/
def reads (t : Transport) : Nat := (Journal.signals t.journal.toList).count .read

/-- The same passed on both handles, and their outputs are the same. -/
structure Level (t t' : Transport) : Prop where
  signals : Journal.signals t'.journal.toList = Journal.signals t.journal.toList
  output : t'.output = t.output

variable {t t' u u' : Transport}

theorem Later.reads_le (h : Later t u) : t.reads ≤ u.reads := by
  obtain ⟨es, hes⟩ := h
  rw [reads, reads, ← hes, Journal.signals_append, List.count_append]
  exact Nat.le_add_right _ _

theorem reads_silent (h : Silent t u) : u.reads = t.reads := by
  rw [reads, reads, h.signals]

theorem reads_took (h : Took t u) : u.reads = t.reads + 1 := by
  rw [reads, reads, h.signals, List.count_append]
  rfl

theorem Level.reads (h : Level t t') : t'.reads = t.reads := by
  rw [Transport.reads, Transport.reads, h.signals]

theorem Level.silent (h : Level t t') (hu : Silent t u) (hu' : Silent t' u') : Level u u' := by
  refine ⟨?_, ?_⟩
  · rw [hu'.signals, hu.signals, h.signals]
  · rw [hu'.output, hu.output, h.output]

theorem Level.took (h : Level t t') (hu : Took t u) (hu' : Took t' u') : Level u u' := by
  refine ⟨?_, ?_⟩
  · rw [hu'.signals, hu.signals, h.signals]
  · rw [hu'.output, hu.output, h.output]

/-! ### Writing

Both outputs are asked the same, and so they answer the same. -/

theorem Level.withSink (h : Level t t') (s : Sink) :
    Level (t.withSink .output s) (t'.withSink .output s) :=
  ⟨h.signals, rfl⟩

theorem Level.record (h : Level t t') (e : Event) : Level (t.record e) (t'.record e) := by
  refine ⟨?_, h.output⟩
  rw [Transport.record, Transport.record, Array.toList_push, Array.toList_push,
    Journal.signals_append, Journal.signals_append, h.signals]

theorem Level.writeAll (h : Level t t') (bytes : List UInt8) :
    (t'.writeAll .output bytes).1 = (t.writeAll .output bytes).1 ∧
      Level (t.writeAll .output bytes).2 (t'.writeAll .output bytes).2 := by
  generalize hc : Channel.output = c
  fun_induction Transport.writeAll c bytes t generalizing t' with
  | case1 t =>
    subst hc
    rw [Transport.writeAll]
    exact ⟨rfl, h⟩
  | case2 t b rest e s hoffer =>
    subst hc
    have hoffer' : (t'.sink .output).offer (b :: rest) = (.error e, s) := by
      rw [show t'.sink .output = t.sink .output from h.output]
      exact hoffer
    rw [Transport.writeAll, hoffer']
    exact ⟨rfl, h.withSink s⟩
  | case3 t b rest s hoffer =>
    subst hc
    have hoffer' : (t'.sink .output).offer (b :: rest) = (.ok [], s) := by
      rw [show t'.sink .output = t.sink .output from h.output]
      exact hoffer
    rw [Transport.writeAll, hoffer']
    exact ⟨rfl, h.withSink s⟩
  | case4 t b rest x taken s hoffer ih =>
    subst hc
    have hoffer' : (t'.sink .output).offer (b :: rest) = (.ok (x :: taken), s) := by
      rw [show t'.sink .output = t.sink .output from h.output]
      exact hoffer
    rw [Transport.writeAll, hoffer']
    exact ih ((h.withSink s).record _)

theorem Level.flush (h : Level t t') :
    (t'.flush .output).1 = (t.flush .output).1 ∧
      Level (t.flush .output).2 (t'.flush .output).2 := by
  have hsink : (t'.sink .output).flush = (t.sink .output).flush := by
    rw [show t'.sink .output = t.sink .output from h.output]
  rw [Transport.flush, Transport.flush, hsink]
  split
  · exact ⟨rfl, h.withSink _⟩
  · exact ⟨rfl, (h.withSink _).record _⟩

theorem Level.sendLine (h : Level t t') (line : String) :
    (t'.sendLine .output line).1 = (t.sendLine .output line).1 ∧
      Level (t.sendLine .output line).2 (t'.sendLine .output line).2 := by
  obtain ⟨hfirst, hlevel⟩ := h.writeAll (Text.Utf8.bytesOf line)
  rw [Transport.sendLine, Transport.sendLine]
  rcases hwrite : t.writeAll .output (Text.Utf8.bytesOf line) with ⟨_ | _, u⟩ <;>
    rcases hwrite' : t'.writeAll .output (Text.Utf8.bytesOf line) with ⟨_ | _, u'⟩ <;>
    rw [hwrite, hwrite'] at hfirst hlevel <;> cases hfirst
  · exact ⟨rfl, hlevel⟩
  · obtain ⟨hsecond, hlevel'⟩ := hlevel.writeAll [Input.lineFeed]
    dsimp only
    rcases hend : u.writeAll .output [Input.lineFeed] with ⟨_ | _, v⟩ <;>
      rcases hend' : u'.writeAll .output [Input.lineFeed] with ⟨_ | _, v'⟩ <;>
      rw [hend, hend'] at hsecond hlevel' <;> cases hsecond
    · exact ⟨rfl, hlevel'⟩
    · exact hlevel'.flush

theorem Level.log (h : Level t t') (level : LogLevel) (subject : LogSubject) (message : String)
    (fields : List (String × LogValue)) :
    Level (t.log level subject message fields) (t'.log level subject message fields) :=
  h.silent (silent_log _ _ _ _) (silent_log _ _ _ _)

theorem Level.writeMessage (h : Level t t') (m : Message) :
    (t'.writeMessage m).1 = (t.writeMessage m).1 ∧
      Level (t.writeMessage m).2 (t'.writeMessage m).2 := by
  obtain ⟨hresult, hlevel⟩ := (h.log .trace .transport "-> daemon"
    [("line", .quoted m.encode)]).sendLine m.encode
  rw [writeMessage_eq, writeMessage_eq]
  rcases hsend : (t.log .trace .transport "-> daemon" [("line", .quoted m.encode)]).sendLine
      .output m.encode with ⟨_ | _, u⟩ <;>
    rcases hsend' : (t'.log .trace .transport "-> daemon" [("line", .quoted m.encode)]).sendLine
      .output m.encode with ⟨_ | _, u'⟩ <;>
    rw [hsend, hsend'] at hresult hlevel <;> cases hresult
  · exact ⟨rfl, hlevel⟩
  · exact ⟨rfl, hlevel⟩

theorem Level.send (h : Level t t') (target : CheckpointTarget) :
    (t'.send target).1 = (t.send target).1 ∧ Level (t.send target).2 (t'.send target).2 :=
  (h.log _ _ _ _).writeMessage target.request

/-- Writing reads nothing. -/
theorem Wrote.reads {bytes : List UInt8} (h : Wrote .output t t' bytes) : t'.reads = t.reads := by
  obtain ⟨es, hes, hall, -⟩ := h.journal
  have hnone : Signal.read ∉ (Journal.bytes .output es).map Signal.byte := by simp
  rw [Transport.reads, Transport.reads, hes, Journal.signals_append, signals_of_writesTo hall,
    List.count_append, List.count_eq_zero_of_not_mem hnone, Nat.add_zero]

theorem reads_writeMessage (m : Message) (t : Transport) :
    (t.writeMessage m).2.reads = t.reads := by
  have hlog : (t.log .trace .transport "-> daemon" [("line", .quoted m.encode)]).reads = t.reads :=
    reads_silent (silent_log _ _ _ _)
  obtain ⟨done, hdone, -, -⟩ := sendLine_wrote .output m.encode
    (t.log .trace .transport "-> daemon" [("line", .quoted m.encode)])
  have hreads := hdone.reads.trans hlog
  rw [writeMessage_eq]
  split <;> next heq => rw [heq] at hreads; exact hreads

end Transport

open Transport (Level)

/-! ## Inputs that part -/

/-- How two inputs part. -/
structure Parting where
  /-- Lines that the sessions take for the same. -/
  same : Line → Line → Prop
  /-- What is left of the inputs where they part. -/
  parted : Feed → Feed → Prop
  ofLine_eq : ∀ {l l' : Line}, same l l' → Message.ofLine l' = Message.ofLine l

namespace Parting

/-- After so many lines that are the same, the inputs part. -/
def Agree (d : Parting) : Nat → Feed → Feed → Prop
  | 0, f, f' => d.parted f f'
  | n + 1, f, f' => ∃ l l', f.lines = l :: f.rest.lines ∧ f'.lines = l' :: f'.rest.lines ∧
      d.same l l' ∧ d.Agree n f.rest f'.rest

theorem ofLines_eq (d : Parting) {l l' : Line} (h : d.same l l') :
    CheckpointAnswer.ofLines [l'] = CheckpointAnswer.ofLines [l] := by
  rw [CheckpointAnswer.ofLines, CheckpointAnswer.ofLines, d.ofLine_eq h]

end Parting

/-- The same passed on both handles, and after so many reads in all the inputs part. -/
structure Abreast (d : Parting) (N : Nat) (t t' : Transport) : Prop where
  level : Level t t'
  agree : ∃ n, t.reads + n = N ∧ d.Agree n t.input.feed t'.input.feed

/-- Both requests go out, and where the answers should be the inputs part. -/
structure Parts (d : Parting) (N : Nat) (q q' : Request) : Prop where
  sent : (q.handle.send q.target).1 = .ok ()
  sent' : (q'.handle.send q'.target).1 = .ok ()
  parted : d.parted q.handle.input.feed q'.handle.input.feed
  after : Level q.after q'.after
  reads : q.after.reads = N + 1

/-- None of these requests is left without an answer because the stream ends. -/
def Answered (qs : List Request) : Prop := ∀ q ∈ qs, q.outcome ≠ .error .closedDuringCheckpoint

variable {d : Parting} {N : Nat} {t t' u u' : Transport}

namespace Abreast

theorem reads_le (h : Abreast d N t t') : t.reads ≤ N := by
  obtain ⟨n, hn, -⟩ := h.agree
  omega

theorem silent (h : Abreast d N t t') (hu : Silent t u) (hu' : Silent t' u') :
    Abreast d N u u' := by
  refine ⟨h.level.silent hu hu', ?_⟩
  rw [Transport.reads_silent hu, hu.input, hu'.input]
  exact h.agree

/-- The next read finds the inputs parted, or it finds a line that is the same on both, and the
    handles are abreast after it. -/
theorem read (h : Abreast d N t t') :
    (t.reads = N ∧ d.parted t.input.feed t'.input.feed) ∨
      ∃ l l' rest rest', t.input.feed.lines = l :: rest ∧ t'.input.feed.lines = l' :: rest' ∧
        d.same l l' ∧ ∀ {u u'}, Took t u → Took t' u' → Abreast d N u u' := by
  obtain ⟨_ | n, hn, hagree⟩ := h.agree
  · exact .inl ⟨hn, hagree⟩
  · obtain ⟨l, l', hl, hl', hsame, hrest⟩ := hagree
    refine .inr ⟨l, l', _, _, hl, hl', hsame, ?_⟩
    intro u u' hu hu'
    refine ⟨h.level.took hu hu', n, ?_, ?_⟩
    · rw [Transport.reads_took hu]
      omega
    · rw [hu.feed, hu'.feed]
      exact hrest

theorem writeMessage (h : Abreast d N t t') (m : Message) :
    (t'.writeMessage m).1 = (t.writeMessage m).1 ∧
      Abreast d N (t.writeMessage m).2 (t'.writeMessage m).2 := by
  obtain ⟨hresult, hlevel⟩ := h.level.writeMessage m
  refine ⟨hresult, hlevel, ?_⟩
  rw [Transport.reads_writeMessage, Transport.input_writeMessage, Transport.input_writeMessage]
  exact h.agree

theorem send (h : Abreast d N t t') (target : CheckpointTarget) :
    (t'.send target).1 = (t.send target).1 ∧ Abreast d N (t.send target).2 (t'.send target).2 :=
  (h.silent (Transport.silent_log _ _ _ _) (Transport.silent_log _ _ _ _)).writeMessage
    target.request

end Abreast

/-! ## Programs

One program on two handles that are abreast. -/

/-- The program comes out the same, and the handles are still abreast; or it makes a request at
    which the inputs part. -/
inductive Lockstep (d : Parting) (N : Nat) {α : Type} (qs qs' : List Request)
    (a a' : α × Transport) : Prop
  | abreast {result : α} {u u' : Transport} (ha : a = (result, u)) (ha' : a' = (result, u'))
      (h : Abreast d N u u') (hanswered : Answered qs')
  | parts {q q' : Request} (hq : q ∈ qs) (hq' : q' ∈ qs') (h : Parts d N q q')

theorem Abreast.exchange (h : Abreast d N t t') (target : CheckpointTarget) :
    Lockstep d N [⟨target, t⟩] [⟨target, t'⟩] (t.exchange target) (t'.exchange target) := by
  obtain ⟨hsend, hab⟩ := h.send target
  cases hsent : (t.send target).1 with
  | error e =>
    -- The request does not go out, for the same reason on both sides.
    have hsent' := hsend.trans hsent
    have hwrite : t.send target = (.error e, (t.send target).2) := by rw [← hsent]
    rw [Transport.send] at hwrite
    obtain ⟨failure, rfl⟩ := Transport.writeMessage_error hwrite
    have hunsent' := Transport.exchange_of_unsent hsent'
    refine .abreast (Transport.exchange_of_unsent hsent) hunsent' hab ?_
    intro q hq
    rw [List.mem_singleton.1 hq, Request.outcome, hunsent']
    simp
  | ok _ =>
    have hsent' := hsend.trans hsent
    obtain ⟨hanswer, htook⟩ := Transport.exchange_of_sent hsent
    obtain ⟨hanswer', htook'⟩ := Transport.exchange_of_sent hsent'
    have hinput := Transport.input_send target t
    have hinput' := Transport.input_send target t'
    rcases hab.read with ⟨hreads, hparted⟩ | ⟨l, l', rest, rest', hl, hl', hsame, hrest⟩
    · rw [hinput, hinput'] at hparted
      refine .parts (List.mem_singleton_self _) (List.mem_singleton_self _)
        ⟨hsent, hsent', hparted, hab.level.took htook htook', ?_⟩
      rw [Request.after, Transport.reads_took htook, hreads]
    · rw [hinput] at hl
      rw [hinput'] at hl'
      rw [Feed.answer_of_line hl] at hanswer
      rw [Feed.answer_of_line hl', d.ofLines_eq hsame] at hanswer'
      have hx : t.exchange target = (CheckpointAnswer.ofLines [l], (t.exchange target).2) := by
        rw [← hanswer]
      have hx' : t'.exchange target = (CheckpointAnswer.ofLines [l], (t'.exchange target).2) := by
        rw [← hanswer']
      refine .abreast hx hx' (hrest htook htook') ?_
      intro q hq
      -- A line was read, so the stream did not end.
      rw [List.mem_singleton.1 hq, Request.outcome, hanswer', CheckpointAnswer.ofLines]
      split <;> simp

/-- Two runs are compared by their handles being abreast. -/
def Abreast.coupling (d : Parting) (N : Nat) : Coupling where
  related := Abreast d N
  alike := fun _ q' => q'.outcome ≠ .error .closedDuringCheckpoint
  parts := Parts d N

theorem Abreast.lawful (d : Parting) (N : Nat) : (Abreast.coupling d N).Lawful where
  remark := fun r h =>
    h.silent (Transport.silent_record r.isAside) (Transport.silent_record r.isAside)
  exchange := by
    intro t t' target h
    cases Abreast.exchange h target with
    | parts hq hq' hparts => exact .parts hq hq' hparts
    | abreast ha ha' hab hanswered =>
      exact .goes ha ha' hab (.cons (hanswered _ (List.mem_singleton_self _)) .nil)

/-- A callback in lockstep. -/
theorem Activity.lockstep {access : Access} {σ : Type} (a : Activity access σ)
    (h : Abreast d N t t') :
    Lockstep d N (a.requests t) (a.requests t') (a.run t).parts (a.run t').parts := by
  cases (Abreast.lawful d N).activity a h with
  | parts hq hq' hparts => exact .parts hq hq' hparts
  | goes ha ha' hab hqs =>
    have hboth : List.Forall₂ (fun q' _ => q'.outcome ≠ .error .closedDuringCheckpoint ∧ True)
        (a.requests t') (a.requests t) := hqs.flip.imp fun _ _ hq => ⟨hq, trivial⟩
    exact .abreast ha ha' hab ((List.forall₂_and_left ..).1 hboth).1

theorem Callback.lockstep {σ : Type} (a : Callback σ) (h : Abreast d N t t') :
    Lockstep d N (a.requests t) (a.requests t') (a.run t).parts (a.run t').parts :=
  a.activity.lockstep h

/-! ## Sessions -/

namespace Session

variable {σ : Type} {p : Processor σ} {state : σ}

/-- Every call is opened by a read. -/
theorem reads_lt_of_mem_calls {c : Call σ} (h : c ∈ calls p state t) :
    t.reads < c.handle.reads := by
  obtain ⟨before, state₁, t₁, hcomes, hcalled⟩ := exists_called h
  obtain ⟨-, -, -, htook⟩ := of_called hcalled
  have hle := (hcomes.keeps Transport.frame_later).reads_le
  rw [Transport.reads_took htook]
  omega

/-- The calls after the first one are opened by later reads. -/
theorem calls_of_called {c : Call σ} (h : called? p state t = some c) :
    ∃ rest, calls p state t = c :: rest ∧
      ∀ c' ∈ rest, c.ending.transport.reads < c'.handle.reads := by
  rcases hround : round p state t with e | ⟨state', t'⟩
  · refine ⟨[], ?_, fun c' hc' => by cases hc'⟩
    rw [calls_of_over hround, h]
    rfl
  · refine ⟨_, calls_of_goOn h hround, fun c' hc' => ?_⟩
    have hlater := Round.keeps_ofCallback Transport.frame_later c.message.action c.ending
    rw [← round_of_called h, hround] at hlater
    have hle : c.ending.transport.reads ≤ t'.reads := hlater.reads_le
    have hlt := reads_lt_of_mem_calls hc'
    omega

/-- Two calls of the same callback with the same, from abreast handles to abreast handles. -/
structure Alike (d : Parting) (N : Nat) (c c' : Call σ) : Prop where
  view : c'.view = c.view
  handle : Abreast d N c.handle c'.handle
  ending : Abreast d N c.ending.transport c'.ending.transport
  answered : Answered c'.requests

/-- How two sessions stop going together. -/
inductive Stops (d : Parting) (N : Nat) (p : Processor σ) (state : σ) (t t' : Transport) : Prop
  /-- The inputs part where the next message should be. -/
  | parted (h : Level t t') (hreads : t.reads = N) (hparted : d.parted t.input.feed t'.input.feed)
  /-- Both make the same call, and in it the inputs part where an answer should be. -/
  | parts {c c' : Call σ} (hcalled : called? p state t = some c)
      (hcalled' : called? p state t' = some c') (hview : c'.view = c.view)
      (h : Abreast d N c.handle c'.handle) {q q' : Request} (hq : q ∈ c.requests)
      (hq' : q' ∈ c'.requests) (hparts : Parts d N q q')
  /-- Both are over, with errors: with the same ones, if the same lines are equal. -/
  | fails {state₁ : σ} {failure failure' : SessionError} {u u' : Transport}
      (hround : round p state t = .over ⟨state₁, .error failure, u⟩)
      (hround' : round p state t' = .over ⟨state₁, .error failure', u'⟩)
      (hcalls : List.Forall₂ (Alike d N) (called? p state t).toList (called? p state t').toList)
      (h : Abreast d N u u') (hexact : (∀ {l l'}, d.same l l' → l' = l) → failure' = failure)

/-- Both sessions go on after a call. -/
structure GoesOn (d : Parting) (N : Nat) (p : Processor σ) (state : σ) (t t' : Transport)
    (c c' : Call σ) (state₁ : σ) (t₁ t₁' : Transport) : Prop where
  called : called? p state t = some c
  called' : called? p state t' = some c'
  round : round p state t = .goOn state₁ t₁
  round' : Session.round p state t' = .goOn state₁ t₁'
  alike : Alike d N c c'
  abreast : Abreast d N t₁ t₁'

/-- A call that both sessions make: the inputs part in it, or both are over after it, or both go on
    and are abreast again. -/
theorem called_abreast {m : Message} {a : Callback σ} {handle handle' : Transport}
    (hcalled : called? p state t = some ⟨state, m, a, handle⟩)
    (hcalled' : called? p state t' = some ⟨state, m, a, handle'⟩) (h : Abreast d N handle handle') :
    Stops d N p state t t' ∨
      ∃ c c' state₁ t₁ t₁', GoesOn d N p state t t' c c' state₁ t₁ t₁' := by
  have hround : round p state t = .ofCallback m.action (a.run handle) :=
    round_of_called hcalled
  have hround' : round p state t' = .ofCallback m.action (a.run handle') :=
    round_of_called hcalled'
  cases a.lockstep h with
  | parts hq hq' hparts => exact .inl (.parts hcalled hcalled' rfl h hq hq' hparts)
  | @abreast result u u' hx hx' hending hanswered =>
    obtain ⟨state₁, outcome⟩ := result
    have hrun : a.run handle = ⟨state₁, outcome, u⟩ := Activity.Ending.eq_of_parts hx
    have hrun' : a.run handle' = ⟨state₁, outcome, u'⟩ := Activity.Ending.eq_of_parts hx'
    have halike : Alike d N (⟨state, m, a, handle⟩ : Call σ) ⟨state, m, a, handle'⟩ := by
      refine ⟨rfl, h, ?_, hanswered⟩
      rw [Call.ending, Call.ending, hrun, hrun']
      exact hending
    have hcalls : List.Forall₂ (Alike d N) (called? p state t).toList
        (called? p state t').toList := by
      rw [hcalled, hcalled']
      exact .cons halike .nil
    rw [hrun] at hround
    rw [hrun'] at hround'
    obtain ⟨hwrite, hwritten⟩ := hending.writeMessage (.status m.action)
    -- The callback fails, or the status line does, or the session goes on.
    rcases outcome with source | _
    · rw [Round.ofCallback_eq_over rfl] at hround hround'
      exact .inl (.fails hround hround' hcalls hending fun _ => rfl)
    · cases hsent : (u.writeMessage (.status m.action)).1 with
      | error failure =>
        have hsent' := hwrite.trans hsent
        rw [Round.ofCallback_of_unwritten (e := ⟨state₁, .ok (), u⟩) rfl hsent] at hround
        rw [Round.ofCallback_of_unwritten (e := ⟨state₁, .ok (), u'⟩) rfl hsent'] at hround'
        dsimp only at hround hround'
        exact .inl (.fails hround hround' hcalls hwritten fun _ => rfl)
      | ok _ =>
        have hsent' := hwrite.trans hsent
        rw [Round.ofCallback_eq_goOn (e := ⟨state₁, .ok (), u⟩) rfl hsent] at hround
        rw [Round.ofCallback_eq_goOn (e := ⟨state₁, .ok (), u'⟩) rfl hsent'] at hround'
        dsimp only at hround hround'
        exact .inr ⟨_, _, _, _, _, hcalled, hcalled', hround, hround', halike, hwritten⟩

/-- Abreast, two sessions stop going together, or both go on and are abreast again. -/
theorem round_abreast (p : Processor σ) (state : σ) (h : Abreast d N t t') :
    Stops d N p state t t' ∨
      ∃ c c' state₁ t₁ t₁', GoesOn d N p state t t' c c' state₁ t₁ t₁' := by
  rcases h.read with ⟨hreads, hparted⟩ | ⟨l, l', rest, rest', hl, hl', hsame, hrest⟩
  · exact .inl (.parted h.level hreads hparted)
  have hsameline := d.ofLine_eq hsame
  cases hm : Message.ofLine l with
  | error m =>
    obtain ⟨t₁, hturn, htook⟩ := nextTurn_of_bad_line hl hm
    obtain ⟨t₁', hturn', htook'⟩ := nextTurn_of_bad_line hl' (hsameline.trans hm)
    obtain ⟨hcalled, hround⟩ := @called_of_stop _ _ _ p state _ hturn
    obtain ⟨hcalled', hround'⟩ := @called_of_stop _ _ _ p state _ hturn'
    refine .inl (.fails hround hround' ?_ (hrest htook htook') fun _ => rfl)
    rw [hcalled, hcalled']
    exact .nil
  | ok m =>
    have hm' := hsameline.trans hm
    cases ha : p.callbackFor? state m with
    | none =>
      -- The error says which line it was.
      obtain ⟨text, t₁, htext, hturn, htook⟩ := nextTurn_of_good_line hl hm
      obtain ⟨text', t₁', htext', hturn', htook'⟩ := nextTurn_of_good_line hl' hm'
      obtain ⟨hcalled, hround⟩ := called_of_misplaced hturn ha
      obtain ⟨hcalled', hround'⟩ := called_of_misplaced hturn' ha
      refine .inl (.fails hround hround' ?_ (hrest htook htook') ?_)
      · rw [hcalled, hcalled']
        exact .nil
      · intro hexact
        rw [hexact hsame, htext] at htext'
        rw [Except.ok.inj htext']
    | some a =>
      obtain ⟨handle, hcalled, htook⟩ := called_of_line p state hl hm ha
      obtain ⟨handle', hcalled', htook'⟩ := called_of_line p state hl' hm' ha
      exact called_abreast hcalled hcalled' (hrest htook htook')

theorem view_of_alike {cs cs' : List (Call σ)} (h : List.Forall₂ (Alike d N) cs cs') :
    cs'.map Call.view = cs.map Call.view :=
  Coupling.map_eq_of_forall₂ (h.imp fun _ _ halike => halike.view)

theorem answered_of_alike {cs cs' : List (Call σ)} (h : List.Forall₂ (Alike d N) cs cs') :
    Answered (cs'.flatMap Call.requests) := by
  induction h with
  | nil => exact List.forall_mem_nil _
  | cons halike _ ih =>
    intro q hq
    rw [List.flatMap_cons] at hq
    rcases List.mem_append.1 hq with hq | hq
    · exact halike.answered q hq
    · exact ih q hq

theorem reads_le_of_alike {cs cs' : List (Call σ)} (h : List.Forall₂ (Alike d N) cs cs') :
    ∀ c ∈ cs, c.handle.reads ≤ N := by
  have hboth : List.Forall₂ (fun c c' => c.handle.reads ≤ N ∧ Alike d N c c') cs cs' :=
    h.imp fun c c' halike => ⟨halike.handle.reads_le, halike⟩
  exact ((List.forall₂_and_left ..).1 hboth).1

theorem outputOf_level (h : Level t t') : outputOf t' = outputOf t := by
  rw [outputOf, outputOf, Journal.bytes_output, Journal.bytes_output, h.signals]

/-- Two sessions that start abreast make the same calls until they stop going together. -/
theorem exists_stops (p : Processor σ) (state : σ) (h : Abreast d N t t') :
    ∃ cs cs' state₁ t₁ t₁', Comes p state t cs state₁ t₁ ∧ Comes p state t' cs' state₁ t₁' ∧
      List.Forall₂ (Alike d N) cs cs' ∧ Stops d N p state₁ t₁ t₁' := by
  fun_induction loop p state t generalizing t' with
  | case1 state t e hround =>
    rcases round_abreast p state h with hstops | ⟨c, c', state₁, t₁, t₁', hgoes⟩
    · exact ⟨[], [], state, t, t', .refl _ _ _, .refl _ _ _, .nil, hstops⟩
    · rw [hgoes.round] at hround
      cases hround
  | case2 state t state₂ t₂ hround _ ih =>
    rcases round_abreast p state h with hstops | ⟨c, c', state₁, t₁, t₁', hgoes⟩
    · exact ⟨[], [], state, t, t', .refl _ _ _, .refl _ _ _, .nil, hstops⟩
    · rw [hgoes.round] at hround
      obtain ⟨rfl, rfl⟩ := Round.goOn.inj hround
      obtain ⟨cs, cs', state', u, u', hcomes, hcomes', halike, hstops⟩ := ih hgoes.abreast
      exact ⟨c :: cs, c' :: cs', state', u, u', hcomes.head hgoes.called hgoes.round,
        hcomes'.head hgoes.called' hgoes.round', .cons hgoes.alike halike, hstops⟩

end Session

end ShardBridge
