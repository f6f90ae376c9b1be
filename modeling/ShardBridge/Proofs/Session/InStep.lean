/-
  ShardBridge.Proofs.Session.InStep

  One program on two handles that need not have anything in common but what is
  next to be read.  What a program does follows from how its output answers and
  from what its reads find, so it does the same on both handles as long as the
  outputs are interchangeable and the reads find the same; what happened on the
  handles before makes no difference.

    * `Feed.Agree n f f'` -- the next `n` reads find the same in both feeds;
    * `InStep N t t'` -- the outputs are interchangeable, and the reads find the
      same until there were `N` of them on the first handle;
    * `Session.Call.Same c c'` -- two calls of one callback that do the same;
    * `Transport.Drained n t u` -- so many items were read between two handles.
-/
import ShardBridge.Proofs.Session.Abreast
import ShardBridge.Proofs.Transport.Interchange

namespace ShardBridge

open Transport (Frame Silent Took Wrote)

/-! ## Feeds that agree -/

namespace Feed

/-- The next so many reads find the same in both feeds. -/
def Agree : Nat → Feed → Feed → Prop
  | 0, _, _ => True
  | n + 1, f, f' => f'.next = f.next ∧ Agree n f.rest f'.rest

/-- What is left after so many reads. -/
def after (n : Nat) (f : Feed) : Feed := ⟨f.lines.drop n, f.failure⟩

variable {f f' : Feed} {n : Nat}

theorem Agree.refl (n : Nat) (f : Feed) : Agree n f f := by
  induction n generalizing f with
  | zero => exact trivial
  | succ n ih => exact ⟨rfl, ih f.rest⟩

/-- Feeds agree as far as their lines are the same, and beyond their last lines if both end or fail
    alike. -/
theorem agree_of_take (hlines : f'.lines.take n = f.lines.take n)
    (hend : f.lines.length < n → f'.failure = f.failure) : Agree n f f' := by
  induction n generalizing f f' with
  | zero => exact trivial
  | succ n ih =>
    obtain ⟨lines, failure⟩ := f
    obtain ⟨lines', failure'⟩ := f'
    cases lines with
    | nil =>
      have hnil : lines' = [] := by simpa using hlines
      have hfailure : failure' = failure := hend (Nat.succ_pos n)
      rw [hnil, hfailure]
      exact .refl _ _
    | cons line lines =>
      cases lines' with
      | nil => simp at hlines
      | cons line' lines' =>
        obtain ⟨rfl, hrest⟩ := List.cons.inj hlines
        refine ⟨?_, ih hrest ?_⟩
        · rfl
        · intro hlt
          exact hend (Nat.succ_lt_succ hlt)

theorem answer_of_next (h : f'.next = f.next) : f'.answer = f.answer := by
  obtain ⟨lines, failure⟩ := f
  obtain ⟨lines', failure'⟩ := f'
  rcases lines with _ | ⟨line, lines⟩ <;> rcases lines' with _ | ⟨line', lines'⟩ <;>
    rcases failure with _ | e <;> rcases failure' with _ | e' <;> cases h <;> rfl

theorem after_zero (f : Feed) : f.after 0 = f := rfl

theorem after_one (f : Feed) : f.after 1 = f.rest := by
  rw [after, rest, List.drop_one]

theorem after_add (m n : Nat) (f : Feed) : (f.after m).after n = f.after (m + n) := by
  rw [after, after, after, List.drop_drop]

end Feed

namespace Transport

/-! ## What passes -/

/-- From the first handle to `u` and from the second one to `u'`, the same passed. -/
def SamePassed (t t' u u' : Transport) : Prop :=
  ∃ s, Journal.signals u.journal.toList = Journal.signals t.journal.toList ++ s ∧
    Journal.signals u'.journal.toList = Journal.signals t'.journal.toList ++ s

variable {t t' u u' v v' : Transport}

theorem SamePassed.refl (t t' : Transport) : SamePassed t t' t t' :=
  ⟨[], (List.append_nil _).symm, (List.append_nil _).symm⟩

theorem SamePassed.trans (h : SamePassed t t' u u') (h' : SamePassed u u' v v') :
    SamePassed t t' v v' := by
  obtain ⟨s, hs, hs'⟩ := h
  obtain ⟨r, hr, hr'⟩ := h'
  refine ⟨s ++ r, ?_, ?_⟩
  · rw [hr, hs, List.append_assoc]
  · rw [hr', hs', List.append_assoc]

theorem samePassed_silent (h : Silent t u) (h' : Silent t' u') : SamePassed t t' u u' := by
  refine ⟨[], ?_, ?_⟩
  · rw [h.signals, List.append_nil]
  · rw [h'.signals, List.append_nil]

theorem samePassed_took (h : Took t u) (h' : Took t' u') : SamePassed t t' u u' :=
  ⟨[.read], h.signals, h'.signals⟩

theorem samePassed_wrote {done : List UInt8} (h : Wrote .output t u done)
    (h' : Wrote .output t' u' done) : SamePassed t t' u u' := by
  have hsignals : ∀ {t u}, Wrote .output t u done →
      Journal.signals u.journal.toList = Journal.signals t.journal.toList ++ done.map .byte := by
    intro t u h
    obtain ⟨es, hes, hall, hbytes⟩ := h.journal
    rw [hes, Journal.signals_append, signals_of_writesTo hall, hbytes]
  exact ⟨done.map .byte, hsignals h, hsignals h'⟩

/-- On both sides there were as many reads. -/
theorem SamePassed.reads (h : SamePassed t t' u u') :
    ∃ n, u.reads = t.reads + n ∧ u'.reads = t'.reads + n := by
  obtain ⟨s, hs, hs'⟩ := h
  refine ⟨s.count .read, ?_, ?_⟩
  · rw [Transport.reads, hs, List.count_append, Transport.reads]
  · rw [Transport.reads, hs', List.count_append, Transport.reads]

/-- On both sides the same went out. -/
theorem SamePassed.output (h : SamePassed t t' u u') :
    ∃ done, Session.outputOf u = Session.outputOf t ++ done ∧
      Session.outputOf u' = Session.outputOf t' ++ done := by
  obtain ⟨s, hs, hs'⟩ := h
  refine ⟨s.filterMap Signal.byte?, ?_, ?_⟩
  · rw [Session.outputOf, Session.outputOf, Journal.bytes_output, Journal.bytes_output, hs,
      List.filterMap_append]
  · rw [Session.outputOf, Session.outputOf, Journal.bytes_output, Journal.bytes_output, hs',
      List.filterMap_append]

/-- From the first handle to the second, there were so many reads, and each of them took an item
    off the feed. -/
structure Drained (n : Nat) (t u : Transport) : Prop where
  reads : u.reads = t.reads + n
  feed : u.input.feed = t.input.feed.after n

theorem Drained.trans {m n : Nat} (h : Drained m t u) (h' : Drained n u v) :
    Drained (m + n) t v := by
  refine ⟨?_, ?_⟩
  · rw [h'.reads, h.reads, Nat.add_assoc]
  · rw [h'.feed, h.feed, Feed.after_add]

theorem drained_took (h : Took t u) : Drained 1 t u := by
  refine ⟨reads_took h, ?_⟩
  rw [h.feed, Feed.after_one]

theorem drained_silent (h : Silent t u) : Drained 0 t u := by
  refine ⟨reads_silent h, ?_⟩
  rw [h.input, Feed.after_zero]

theorem frame_drained : Frame fun t u => ∃ n, Drained n t u where
  refl := fun t => ⟨0, drained_silent (.refl t)⟩
  trans := by
    rintro t u v ⟨m, h⟩ ⟨n, h'⟩
    exact ⟨m + n, h.trans h'⟩
  remark := fun t r => ⟨0, drained_silent (silent_record r.isAside)⟩
  fetch := fun t => ⟨1, drained_took (fetchLine_took t)⟩
  wrote := fun h => by
    refine ⟨0, h.reads, ?_⟩
    rw [h.input, Feed.after_zero]

/-- Where the same passed, as many items are gone from both feeds. -/
theorem SamePassed.drained {n : Nat} (h : SamePassed t t' u u') (hu : Drained n t u)
    (hu' : ∃ n, Drained n t' u') : Drained n t' u' := by
  obtain ⟨m, hm⟩ := hu'
  obtain ⟨k, hk, hk'⟩ := h.reads
  have hmn : m = n := by
    have hreads := hu.reads
    have hreads' := hm.reads
    omega
  rw [← hmn]
  exact hm

theorem drained_writeMessage (m : Message) (t : Transport) : Drained 0 t (t.writeMessage m).2 := by
  refine ⟨reads_writeMessage m t, ?_⟩
  rw [input_writeMessage, Feed.after_zero]

theorem reads_send (target : CheckpointTarget) (t : Transport) :
    (t.send target).2.reads = t.reads := by
  rw [send, reads_writeMessage, reads_silent (silent_log _ _ _ _)]

end Transport

open Transport (Drained SamePassed)

/-! ## Handles in step -/

/-- The outputs are interchangeable, and the reads find the same until there were so many of them on
    the first handle. -/
structure InStep (N : Nat) (t t' : Transport) : Prop where
  output : t.output.Interchangeable t'.output
  agree : ∃ n, t.reads + n = N ∧ t.input.feed.Agree n t'.input.feed

variable {N : Nat} {t t' u u' : Transport}

namespace InStep

theorem reads_le (h : InStep N t t') : t.reads ≤ N := by
  obtain ⟨n, hn, -⟩ := h.agree
  omega

theorem silent (h : InStep N t t') (hu : Silent t u) (hu' : Silent t' u') : InStep N u u' := by
  refine ⟨?_, ?_⟩
  · rw [hu.output, hu'.output]
    exact h.output
  · rw [Transport.reads_silent hu, hu.input, hu'.input]
    exact h.agree

/-- The next read finds the same, and after it the handles are in step again. -/
theorem took (h : InStep N t t') (hlt : t.reads < N) :
    t'.input.feed.next = t.input.feed.next ∧
      ∀ {u u'}, Took t u → Took t' u' → InStep N u u' := by
  obtain ⟨n, hn, hagree⟩ := h.agree
  cases n with
  | zero => omega
  | succ n =>
    refine ⟨hagree.1, ?_⟩
    intro u u' hu hu'
    refine ⟨?_, n, ?_, ?_⟩
    · rw [hu.output, hu'.output]
      exact h.output
    · rw [Transport.reads_took hu]
      omega
    · rw [hu.feed, hu'.feed]
      exact hagree.2

theorem writeMessage (h : InStep N t t') (m : Message) :
    (t'.writeMessage m).1 = (t.writeMessage m).1 ∧
      InStep N (t.writeMessage m).2 (t'.writeMessage m).2 ∧
      SamePassed t t' (t.writeMessage m).2 (t'.writeMessage m).2 := by
  obtain ⟨hresult, houtput, done, hdone, hdone'⟩ := Transport.writeMessage_interchange m h.output
  refine ⟨hresult, ⟨houtput, ?_⟩, ?_⟩
  · rw [Transport.reads_writeMessage, Transport.input_writeMessage, Transport.input_writeMessage]
    exact h.agree
  · have hlog : ∀ t : Transport,
        Silent t (t.log .trace .transport "-> daemon" [("line", .quoted m.encode)]) :=
      fun t => Transport.silent_log _ _ _ _
    exact (Transport.samePassed_silent (hlog t) (hlog t')).trans
      (Transport.samePassed_wrote hdone hdone')

theorem send (h : InStep N t t') (target : CheckpointTarget) :
    (t'.send target).1 = (t.send target).1 ∧ InStep N (t.send target).2 (t'.send target).2 ∧
      SamePassed t t' (t.send target).2 (t'.send target).2 := by
  have hlog : ∀ t : Transport, Silent t
      (t.log .debug .checkpoint "requesting checkpoint" [Transport.positionField target]) :=
    fun t => Transport.silent_log _ _ _ _
  obtain ⟨hresult, hstep, hpassed⟩ := (h.silent (hlog t) (hlog t')).writeMessage target.request
  exact ⟨hresult, hstep, (Transport.samePassed_silent (hlog t) (hlog t')).trans hpassed⟩

end InStep

/-! ## Requests -/

namespace Request

/-- What is read for the answer, if the request goes out. -/
def read? (q : Request) : Option Input.Fetched :=
  match (q.handle.send q.target).1 with
  | .ok () => some q.handle.input.nextLine.1
  | .error _ => none

/-- What a request asks for, what is read for its answer, and what comes of it. -/
def view (q : Request) :
    CheckpointTarget × Option Input.Fetched × Except SessionError CheckpointAnswer :=
  (q.target, q.read?, q.outcome)

variable {q : Request}

theorem view_of_unsent {e : SessionError} (h : (q.handle.send q.target).1 = .error e) :
    q.view = (q.target, none, .error e) := by
  rw [view, read?, outcome, h, Transport.exchange_of_unsent h]

theorem view_of_sent (h : (q.handle.send q.target).1 = .ok ()) :
    q.view = (q.target, some q.handle.input.feed.next, q.handle.input.feed.answer) := by
  rw [view, read?, outcome, h, (Transport.exchange_of_sent h).1, q.handle.input.nextLine_feed.1]

end Request

/-- The requests that go out do so before there were so many reads. -/
def Sooner (N : Nat) (qs : List Request) : Prop :=
  ∀ q ∈ qs, (q.handle.send q.target).1 = .ok () → q.handle.reads < N

/-! ## Programs in step -/

/-- The program does the same on both handles, and they are still in step. -/
structure Matches (N : Nat) {α : Type} (t t' : Transport) (qs qs' : List Request)
    (a a' : α × Transport) : Prop where
  result : a'.1 = a.1
  requests : qs'.map Request.view = qs.map Request.view
  passed : SamePassed t t' a.2 a'.2
  inStep : InStep N a.2 a'.2

theorem InStep.exchange (h : InStep N t t') (target : CheckpointTarget)
    (hsooner : (t.send target).1 = .ok () → t.reads < N) :
    Matches N t t' [⟨target, t⟩] [⟨target, t'⟩] (t.exchange target) (t'.exchange target) := by
  obtain ⟨hsend, hstep, hpassed⟩ := h.send target
  cases hsent : (t.send target).1 with
  | error e =>
    have hsent' := hsend.trans hsent
    have hview : [Request.view ⟨target, t'⟩] = [Request.view ⟨target, t⟩] := by
      rw [Request.view_of_unsent (q := ⟨target, t⟩) hsent,
        Request.view_of_unsent (q := ⟨target, t'⟩) hsent']
    rw [Transport.exchange_of_unsent hsent, Transport.exchange_of_unsent hsent']
    refine ⟨rfl, hview, ?_, ?_⟩ <;> dsimp only
    · exact hpassed
    · exact hstep
  | ok _ =>
    have hsent' := hsend.trans hsent
    obtain ⟨hanswer, htook⟩ := Transport.exchange_of_sent hsent
    obtain ⟨hanswer', htook'⟩ := Transport.exchange_of_sent hsent'
    -- The read for the answer comes soon enough to find the same.
    have hlt : (t.send target).2.reads < N := by
      rw [Transport.reads_send]
      exact hsooner hsent
    obtain ⟨hnext, hrest⟩ := hstep.took hlt
    rw [Transport.input_send, Transport.input_send] at hnext
    have hview : [Request.view ⟨target, t'⟩] = [Request.view ⟨target, t⟩] := by
      rw [Request.view_of_sent (q := ⟨target, t⟩) hsent,
        Request.view_of_sent (q := ⟨target, t'⟩) hsent', hnext, Feed.answer_of_next hnext]
    refine ⟨?_, hview, ?_, hrest htook htook'⟩
    · rw [hanswer, hanswer', Feed.answer_of_next hnext]
    · exact hpassed.trans (Transport.samePassed_took htook htook')

/-- Two runs are compared by their handles being in step, and by what passed since these handles. An
    exchange that reads too late sets them apart. -/
def InStep.coupling (N : Nat) (t t' : Transport) : Coupling where
  related := fun u u' => SamePassed t t' u u' ∧ InStep N u u'
  alike := fun q q' => q'.view = q.view
  parts := fun q _ => (q.handle.send q.target).1 = .ok () ∧ ¬ q.handle.reads < N

theorem InStep.lawful (N : Nat) (t t' : Transport) : (InStep.coupling N t t').Lawful where
  remark := by
    rintro u u' r ⟨hpassed, hstep⟩
    have hr : ∀ u : Transport, Silent u (u.record r.event) :=
      fun u => Transport.silent_record r.isAside
    exact ⟨hpassed.trans (Transport.samePassed_silent (hr u) (hr u')), hstep.silent (hr u) (hr u')⟩
  exchange := by
    rintro u u' target ⟨hpassed, hstep⟩
    by_cases hsooner : (u.send target).1 = .ok () → u.reads < N
    · have hmatches := hstep.exchange target hsooner
      have hview : Request.view ⟨target, u'⟩ = Request.view ⟨target, u⟩ :=
        List.singleton_inj.1 hmatches.requests
      generalize u.exchange target = x at hmatches ⊢
      generalize u'.exchange target = x' at hmatches ⊢
      obtain ⟨result, u₁⟩ := x
      obtain ⟨result', u₁'⟩ := x'
      obtain rfl : result' = result := hmatches.result
      exact .goes rfl rfl ⟨hpassed.trans hmatches.passed, hmatches.inStep⟩ (.cons hview .nil)
    · obtain ⟨hsent, hlate⟩ := Classical.not_imp.1 hsooner
      exact .parts (List.mem_singleton_self _) (List.mem_singleton_self _) ⟨hsent, hlate⟩

/-- A callback on handles in step. -/
theorem Activity.matches {access : Access} {σ : Type} (a : Activity access σ)
    (h : InStep N t t') (hsooner : Sooner N (a.requests t)) :
    Matches N t t' (a.requests t) (a.requests t') (a.run t).parts (a.run t').parts := by
  cases (InStep.lawful N t t').activity a ⟨.refl t t', h⟩ with
  | parts hq hq' hparts => exact absurd (hsooner _ hq hparts.1) hparts.2
  | goes ha ha' hrelated hqs =>
    rw [ha, ha']
    exact ⟨rfl, Coupling.map_eq_of_forall₂ hqs, hrelated.1, hrelated.2⟩

/-! ## Calls in step -/

namespace Session

variable {σ : Type} {p : Processor σ} {state : σ}

/-- Two calls of one callback in one state: they make the same requests, which find the same
    answers, and they come out the same. -/
structure Call.Same (c c' : Call σ) : Prop where
  state : c'.state = c.state
  callback : c'.callback = c.callback
  requests : c'.requests.map Request.view = c.requests.map Request.view
  left : c'.ending.state = c.ending.state
  outcome : c'.ending.outcome = c.ending.outcome

/-- On handles in step, the calls are the same. -/
theorem Call.same_of_inStep {c c' : Call σ} (hstate : c'.state = c.state)
    (hcallback : c'.callback = c.callback) (h : InStep N c.handle c'.handle)
    (hsooner : Sooner N c.requests) :
    c.Same c' ∧ SamePassed c.handle c'.handle c.ending.transport c'.ending.transport ∧
      InStep N c.ending.transport c'.ending.transport := by
  have hmatches := c.callback.activity.matches h hsooner
  obtain ⟨hleft, houtcome⟩ := Prod.mk.inj hmatches.result
  obtain ⟨state', m', a, handle'⟩ := c'
  obtain rfl : a = c.callback := hcallback
  exact ⟨⟨hstate, rfl, hmatches.requests, hleft, houtcome⟩, hmatches.passed, hmatches.inStep⟩

/-- The requests of a call that go out do so before the call is over. -/
theorem Call.sooner (c : Call σ) : Sooner c.ending.transport.reads c.requests := by
  intro q hq hsent
  have htook := Transport.reads_took (Transport.exchange_of_sent hsent).2
  rw [Transport.reads_send] at htook
  have hle : q.after.reads ≤ c.ending.transport.reads :=
    (Call.keeps_request Transport.frame_later hq).2.reads_le
  rw [Request.after] at hle
  omega

/-- Up to the end of the next call, reads take items off the feed. -/
theorem Call.exists_drained {c : Call σ} (h : called? p state t = some c) :
    ∃ n, Drained n t c.ending.transport := by
  obtain ⟨-, -, -, htook⟩ := of_called h
  obtain ⟨n, hended⟩ := Transport.frame_drained.activity c.callback.activity c.handle
  exact ⟨1 + n, (Transport.drained_took htook).trans hended⟩

/-- When the lines that are next open calls of one callback, and what comes after them agrees as far
    as the first call has answers, both sessions make the same call. -/
theorem exists_same_call {c : Call σ} {line' : Line} {rest' : List Line} {m' : Message} {n : Nat}
    (hcalled : called? p state t = some c) (hlines' : t'.input.feed.lines = line' :: rest')
    (hm' : Message.ofLine line' = .ok m') (hcallback' : p.callbackFor? state m' = some c.callback)
    (hout : t.output.Interchangeable t'.output)
    (hagree : t.input.feed.rest.Agree n t'.input.feed.rest)
    (hsooner : Sooner (c.handle.reads + n) c.requests) :
    ∃ c', called? p state t' = some c' ∧ c'.message = m' ∧ c.Same c' ∧
      SamePassed t t' c.ending.transport c'.ending.transport ∧
      InStep (c.handle.reads + n) c.ending.transport c'.ending.transport := by
  obtain ⟨hstate, -, -, htook⟩ := of_called hcalled
  obtain ⟨handle', hcalled', htook'⟩ := called_of_line p state hlines' hm' hcallback'
  have hstep : InStep (c.handle.reads + n) c.handle handle' := by
    refine ⟨?_, n, rfl, ?_⟩
    · rw [htook.output, htook'.output]
      exact hout
    · rw [htook.feed, htook'.feed]
      exact hagree
  let c' : Call σ := ⟨state, m', c.callback, handle'⟩
  have hboth : c.Same c' ∧ _ := Call.same_of_inStep hstate.symm rfl hstep hsooner
  obtain ⟨hsame, hpassed, hended⟩ := hboth
  exact ⟨c', hcalled', rfl, hsame, (Transport.samePassed_took htook htook').trans hpassed, hended⟩

/-- A round without a call is over in the same way on every handle with this feed. -/
theorem over_of_not_called (h : called? p state t = none)
    (hfeed : t'.input.feed = t.input.feed) :
    called? p state t' = none ∧ ∃ outcome u u',
      round p state t = .over ⟨state, outcome, u⟩ ∧
        round p state t' = .over ⟨state, outcome, u'⟩ ∧ Took t u ∧ Took t' u' := by
  cases hlines : t.input.feed.lines with
  | nil =>
    have hlines' : t'.input.feed.lines = [] := by rw [hfeed, hlines]
    obtain ⟨u, hturn, htook⟩ := nextTurn_of_no_line hlines
    obtain ⟨u', hturn', htook'⟩ := nextTurn_of_no_line hlines'
    obtain ⟨hcalled', hround'⟩ := @called_of_stop _ _ _ p state _ hturn'
    rw [hfeed] at hround'
    exact ⟨hcalled', _, u, u', (called_of_stop hturn).2, hround', htook, htook'⟩
  | cons line rest =>
    have hlines' : t'.input.feed.lines = line :: rest := by rw [hfeed, hlines]
    cases hm : Message.ofLine line with
    | error m =>
      obtain ⟨u, hturn, htook⟩ := nextTurn_of_bad_line hlines hm
      obtain ⟨u', hturn', htook'⟩ := nextTurn_of_bad_line hlines' hm
      obtain ⟨hcalled', hround'⟩ := @called_of_stop _ _ _ p state _ hturn'
      exact ⟨hcalled', _, u, u', (called_of_stop hturn).2, hround', htook, htook'⟩
    | ok m =>
      obtain ⟨text, u, htext, hturn, htook⟩ := nextTurn_of_good_line hlines hm
      obtain ⟨text', u', htext', hturn', htook'⟩ := nextTurn_of_good_line hlines' hm
      obtain rfl := Except.ok.inj (htext.symm.trans htext')
      -- The message has no place here, or there would be a call.
      have hnone : p.callbackFor? state m = none := by
        rw [called?, hturn] at h
        exact Option.map_eq_none_iff.1 h
      obtain ⟨hcalled', hround'⟩ := called_of_misplaced hturn' hnone
      exact ⟨hcalled', _, u, u', (called_of_misplaced hturn hnone).2, hround', htook, htook'⟩

end Session

end ShardBridge
