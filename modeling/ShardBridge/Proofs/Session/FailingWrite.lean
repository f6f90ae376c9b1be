/-
  ShardBridge.Proofs.Session.FailingWrite

  One processor in two sessions with the same input, of which the first writes
  to a healthy output and the second to one that takes so many bytes and refuses
  the next one.  As long as the bytes go in, the sessions do the same.  The
  refusal can meet a status line or a request, and any byte of it; a processor
  that passes errors on ends with it, and nothing is tried after it
  (`Session.run_of_limited_output`).

    * `Alongside b t t'` -- the same went out so far on both handles;
    * `Overruns b u last v' e` -- the first session has put out more than the
      second output takes, and the second one is over with its refusal;
    * `Session.RoundsAlongside` -- how one round on each side comes out.
-/
import ShardBridge.Proofs.Session.Composition
import ShardBridge.Proofs.Session.Coupling
import ShardBridge.Proofs.Transport.Limited

namespace ShardBridge

open Session (outputOf outputOf_silent outputOf_took)
open Transport (Later PutOut Refused Silent Took)

/-! ## Handles alongside -/

/-- Where two sessions start, the number of bytes that the output of the second one takes, and how
    it fails after that. -/
structure Limit where
  start : Transport
  start' : Transport
  room : Nat
  kind : StreamFailureKind

/-- The same went out on both handles, and the same is left to be read. The first output is healthy;
    the second one has not yet refused anything. -/
structure Alongside (b : Limit) (t t' : Transport) : Prop where
  feed : t'.input.feed = t.input.feed
  output : ∃ done, outputOf t = outputOf b.start ++ done ∧ outputOf t' = outputOf b.start' ++ done ∧
    t'.output.taken = b.start'.output.taken + done.length
  healthy : t.output.policy.Healthy
  limited : t'.output.policy.Limited (b.start'.output.taken + b.room) b.kind
  within : t'.output.taken ≤ b.start'.output.taken + b.room

/-- On the handle `u` of the first session, more went out than the second output takes. On its
    handle `last`, the second session has put out as much of this as there was room for; there its
    output refuses the rest, and nothing else is tried up to the handle `v'`. -/
structure Overruns (b : Limit) (u last v' : Transport) (e : StreamFailure) : Prop where
  output : ∃ out, outputOf u = outputOf b.start ++ out ∧ b.room < out.length ∧
    outputOf last = outputOf b.start' ++ out.take b.room
  refused : Refused last v' e
  kind : e.kind = b.kind

variable {b : Limit} {t t' u u' last v' w w' : Transport} {e : StreamFailure}

/-- It makes no difference what else the first session puts out. -/
theorem Overruns.mono (h : Overruns b u last v' e) (hw : outputOf u <+: outputOf w) :
    Overruns b w last v' e := by
  obtain ⟨out, hout, hlt, hlast⟩ := h.output
  obtain ⟨more, hmore⟩ := hw
  refine ⟨⟨out ++ more, ?_, ?_, ?_⟩, h.refused, h.kind⟩
  · rw [← List.append_assoc, ← hout]
    exact hmore.symm
  · rw [List.length_append]
    omega
  · rw [List.take_append_of_le_length (by omega)]
    exact hlast

theorem Overruns.silent (h : Overruns b u last v' e) (hw : Silent v' w') :
    Overruns b u last w' e :=
  ⟨h.output, h.refused.silent hw, h.kind⟩

namespace Alongside

theorem silent (h : Alongside b t t') (hu : Silent t u) (hu' : Silent t' u') :
    Alongside b u u' := by
  obtain ⟨done, hdone, hdone', htaken⟩ := h.output
  refine ⟨?_, ⟨done, ?_, ?_, ?_⟩, ?_, ?_, ?_⟩
  · rw [hu.input, hu'.input, h.feed]
  · rw [outputOf_silent hu, hdone]
  · rw [outputOf_silent hu', hdone']
  · rw [hu'.output, htaken]
  · exact hu.output ▸ h.healthy
  · exact hu'.output ▸ h.limited
  · exact hu'.output ▸ h.within

theorem took (h : Alongside b t t') (hu : Took t u) (hu' : Took t' u') : Alongside b u u' := by
  obtain ⟨done, hdone, hdone', htaken⟩ := h.output
  refine ⟨?_, ⟨done, ?_, ?_, ?_⟩, ?_, ?_, ?_⟩
  · rw [hu.feed, hu'.feed, h.feed]
  · rw [outputOf_took hu, hdone]
  · rw [outputOf_took hu', hdone']
  · rw [hu'.output, htaken]
  · exact hu.output ▸ h.healthy
  · exact hu'.output ▸ h.limited
  · exact hu'.output ▸ h.within

/-- A message goes out on both handles, or it overruns the second output. -/
theorem writeMessage (h : Alongside b t t') (m : Message) :
    ((t.writeMessage m).1 = .ok () ∧ (t'.writeMessage m).1 = .ok () ∧
        Alongside b (t.writeMessage m).2 (t'.writeMessage m).2) ∨
      ∃ e last, (t'.writeMessage m).1 = .error (.write e) ∧ Later t' last ∧
        Overruns b (t.writeMessage m).2 last (t'.writeMessage m).2 e := by
  obtain ⟨done, hdone, hdone', htaken⟩ := h.output
  have hok := Transport.writeMessage_ok m h.healthy
  have hout := outputOf_writeMessage hok
  have hhealthy := Transport.frame_healthy.writeMessage m t h.healthy
  have hinput : (t.writeMessage m).2.input = t.input := Transport.input_writeMessage m t
  have hpours := Transport.writeMessage_limited m h.limited h.within
  rw [hdone, List.append_assoc] at hout
  generalize t'.writeMessage m = r at hpours ⊢
  cases hpours with
  | fits hfits hput =>
    refine .inl ⟨hok, rfl, ?_, ⟨done ++ Transport.messageBytes m, hout, ?_, ?_⟩, hhealthy, ?_, ?_⟩
    · rw [hput.input, hinput, h.feed]
    · rw [outputOf, hput.output, ← outputOf, hdone', List.append_assoc]
    · rw [hput.taken, htaken, List.length_append, Nat.add_assoc]
    · exact hput.policy ▸ h.limited
    · rw [hput.taken]
      exact hfits
  | @breaks last _ e hlt hput hrefused hkind =>
    have hwithin := h.within
    refine .inr ⟨e, last, rfl, hput.later, ⟨_, hout, ?_, ?_⟩, hrefused, hkind⟩
    · rw [List.length_append]
      omega
    · -- What went out before fits, and the message gets the room that is left.
      have hroom : b.room - done.length =
          b.start'.output.taken + b.room - t'.output.taken := by omega
      rw [outputOf, hput.output, ← outputOf, hdone', List.append_assoc, List.take_append,
        List.take_of_length_le (l := done) (by omega), hroom]

/-- So does a request. -/
theorem send (h : Alongside b t t') (target : CheckpointTarget) :
    ((t.send target).1 = .ok () ∧ (t'.send target).1 = .ok () ∧
        Alongside b (t.send target).2 (t'.send target).2) ∨
      ∃ e last, (t'.send target).1 = .error (.write e) ∧ Later t' last ∧
        Overruns b (t.send target).2 last (t'.send target).2 e := by
  have hlog : ∀ t : Transport, Silent t
      (t.log .debug .checkpoint "requesting checkpoint" [Transport.positionField target]) :=
    fun t => Transport.silent_log _ _ _ _
  rcases (h.silent (hlog t) (hlog t')).writeMessage target.request with
    hsent | ⟨e, last, herror, hlater, hoverruns⟩
  · exact .inl hsent
  · exact .inr ⟨e, last, herror, Transport.frame_later.trans (hlog t').later hlater, hoverruns⟩

/-! ### Programs -/

/-- Two runs are compared by their handles being alongside. A request that overruns the second
    output sets them apart. -/
def coupling (b : Limit) : Coupling where
  related := Alongside b
  alike := fun q q' => q'.view = q.view
  parts := fun q q' => ∃ e last, q'.outcome = .error (.write e) ∧ Later q'.handle last ∧
    Overruns b q.after last q'.after e

theorem lawful (b : Limit) : (coupling b).Lawful where
  remark := fun r h =>
    h.silent (Transport.silent_record r.isAside) (Transport.silent_record r.isAside)
  exchange := by
    intro t t' target h
    rcases h.send target with ⟨hsent, hsent', hwritten⟩ | ⟨e, last, hunsent, hlater, hoverruns⟩
    · -- The request is out on both handles, and the answer is the same.
      obtain ⟨hanswer, htook⟩ := Transport.exchange_of_sent hsent
      obtain ⟨hanswer', htook'⟩ := Transport.exchange_of_sent hsent'
      rw [h.feed] at hanswer'
      have hx : t.exchange target = (t.input.feed.answer, (t.exchange target).2) := by
        rw [← hanswer]
      have hx' : t'.exchange target = (t.input.feed.answer, (t'.exchange target).2) := by
        rw [← hanswer']
      have hview : Request.view ⟨target, t'⟩ = Request.view ⟨target, t⟩ := by
        rw [Request.view_of_sent (q := ⟨target, t⟩) hsent,
          Request.view_of_sent (q := ⟨target, t'⟩) hsent', h.feed]
      exact .goes hx hx' (hwritten.took htook htook') (.cons hview .nil)
    · -- The first session reads its answer; the second one tries nothing more.
      have hsent : (t.send target).1 = .ok () := Transport.send_ok target h.healthy
      have hread := outputOf_took (Transport.exchange_of_sent hsent).2
      have hmore : outputOf (t.send target).2 <+: outputOf (t.exchange target).2 := by
        rw [hread]
      refine .parts (List.mem_singleton_self _) (List.mem_singleton_self _)
        ⟨e, last, ?_, hlater, ?_⟩
      · rw [Request.outcome, Transport.exchange_of_unsent hunsent]
      · show Overruns b (t.exchange target).2 last (t'.exchange target).2 e
        rw [Transport.exchange_of_unsent hunsent]
        dsimp only
        exact hoverruns.mono hmore

end Alongside

/-! ## Rounds alongside -/

namespace Session

variable {σ : Type} {p : Processor σ} {state : σ}

/-- On handles alongside, the same call comes next. -/
theorem called_alongside {c : Call σ} (h : Alongside b t t')
    (hcalled : called? p state t = some c) :
    ∃ handle', called? p state t' = some ⟨c.state, c.message, c.callback, handle'⟩ ∧
      Alongside b c.handle handle' := by
  obtain ⟨hstate, hcallback, ⟨line, rest, hlines, hm⟩, htook⟩ := of_called hcalled
  have hlines' : t'.input.feed.lines = line :: rest := by rw [h.feed, hlines]
  obtain ⟨handle', hcalled', htook'⟩ := called_of_line p state hlines' hm hcallback
  rw [hstate]
  exact ⟨handle', hcalled', h.took htook htook'⟩

/-- How one round on each side comes out: with the same calls, both are over in the same way or both
    go on; or the second one is over because its output refused something in it. -/
inductive RoundsAlongside (b : Limit) :
    Option (Call σ) → Option (Call σ) → Round σ → Round σ → Prop
  | ends {called called' : Option (Call σ)} {state : σ} {outcome : Except SessionError Unit}
      {u u' : Transport} (hcalls : List.Forall₂ Call.Repeats called.toList called'.toList)
      (h : Alongside b u u') :
      RoundsAlongside b called called' (.over ⟨state, outcome, u⟩) (.over ⟨state, outcome, u'⟩)
  | goOn {c c' : Call σ} {state : σ} {u u' : Transport} (hc : c.Repeats c')
      (hlater : Later c'.handle u') (h : Alongside b u u') :
      RoundsAlongside b (some c) (some c') (.goOn state u) (.goOn state u')
  | breaks {c c' : Call σ} {round : Round σ} {state : σ} {last v' : Transport} {e : StreamFailure}
      (hview : c'.view = c.view) (hlater : Later c'.handle last)
      (h : Overruns b round.transport last v' e) :
      RoundsAlongside b (some c) (some c') round (.over ⟨state, .error (.write e), v'⟩)

/-- A call that both sessions make, with a callback that passes errors on. -/
theorem call_alongside {c c' : Call σ} (hview : c'.view = c.view)
    (hcallback : c'.callback = c.callback) (ha : c.callback.activity.PassesOn)
    (h : Alongside b c.handle c'.handle) :
    RoundsAlongside b (some c) (some c') (.ofCallback c.message.action c.ending)
      (.ofCallback c'.message.action c'.ending) := by
  obtain ⟨hstate, hmessage⟩ := Prod.mk.inj hview
  obtain ⟨state', m', a, handle'⟩ := c'
  dsimp only at hstate hmessage hcallback
  subst hstate hmessage hcallback
  cases (Alongside.lawful b).activity c.callback.activity h with
  | @parts q q' hq hq' hparts =>
    -- A request overruns the output: the callback comes out with that, and so does the session.
    obtain ⟨e, last, houtcome, hlater, hoverruns⟩ := hparts
    obtain ⟨hresult, hsilent, -⟩ := Activity.run_of_error ha hq' houtcome
    have hbefore := (Transport.frame_later.activity_request hq').1
    have hafter := (Transport.frame_later.activity_request hq).2
    have hround := Round.keeps_ofCallback Transport.frame_later c.message.action c.ending
    have hmore := (Transport.frame_later.trans hafter hround).output
    rw [Round.ofCallback_eq_over (e := Call.ending ⟨c.state, c.message, c.callback, handle'⟩)
      hresult]
    exact .breaks rfl (Transport.frame_later.trans hbefore hlater)
      ((hoverruns.mono hmore).silent hsilent)
  | @goes result u u' hx hx' hended hqs =>
    obtain ⟨state₁, outcome⟩ := result
    have hrun : c.ending = ⟨state₁, outcome, u⟩ := Activity.Ending.eq_of_parts hx
    have hrun' : Call.ending ⟨c.state, c.message, c.callback, handle'⟩ = ⟨state₁, outcome, u'⟩ :=
      Activity.Ending.eq_of_parts hx'
    have hrepeats : c.Repeats ⟨c.state, c.message, c.callback, handle'⟩ := by
      refine ⟨rfl, rfl, rfl, Coupling.map_eq_of_forall₂ hqs, ?_, ?_⟩
      · rw [hrun, hrun']
      · rw [hrun, hrun']
    have hlater : Later handle' u' := by
      have hlater := Transport.frame_later.activity c.callback.activity handle'
      rwa [show c.callback.activity.run handle' = ⟨state₁, outcome, u'⟩ from hrun'] at hlater
    rw [hrun, hrun']
    rcases outcome with source | _
    · rw [Round.ofCallback_eq_over rfl, Round.ofCallback_eq_over rfl]
      exact .ends (.cons hrepeats .nil) hended
    · rcases hended.writeMessage (.status c.message.action) with
        ⟨hsent, hsent', hwritten⟩ | ⟨e, last, hunsent, hlast, hoverruns⟩
      · rw [Round.ofCallback_eq_goOn (e := ⟨state₁, .ok (), u⟩) rfl hsent,
          Round.ofCallback_eq_goOn (e := ⟨state₁, .ok (), u'⟩) rfl hsent']
        have hwrite := Transport.frame_later.writeMessage (.status c.message.action) u'
        exact .goOn hrepeats (Transport.frame_later.trans hlater hwrite) hwritten
      · -- The status line overruns the output, and the first session goes on.
        have hsent := Transport.writeMessage_ok (.status c.message.action) hended.healthy
        rw [Round.ofCallback_eq_goOn (e := ⟨state₁, .ok (), u⟩) rfl hsent,
          Round.ofCallback_of_unwritten (e := ⟨state₁, .ok (), u'⟩) rfl hunsent]
        exact .breaks rfl (Transport.frame_later.trans hlater hlast) hoverruns

theorem round_alongside (hp : p.PassesOn) (state : σ) (h : Alongside b t t') :
    RoundsAlongside b (called? p state t) (called? p state t') (round p state t)
      (round p state t') := by
  cases hcalled : called? p state t with
  | none =>
    obtain ⟨hcalled', outcome, u, u', hround, hround', htook, htook'⟩ :=
      over_of_not_called hcalled h.feed
    rw [hcalled', hround, hround']
    exact .ends .nil (h.took htook htook')
  | some c =>
    obtain ⟨handle', hcalled', hhandle⟩ := called_alongside h hcalled
    obtain ⟨-, hcallback, -⟩ := of_called hcalled
    rw [hcalled', round_of_called hcalled, round_of_called hcalled']
    exact call_alongside rfl rfl (hp.callback hcallback) hhandle

/-! ## Sessions alongside -/

/-- How two sessions come out that start alongside: in the same way, or with an output that refused
    something, after which the second one makes no call. -/
inductive EndsAlongside (b : Limit) (p : Processor σ) (state : σ) (t t' : Transport) : Prop
  | same (hstate : (loop p state t').state = (loop p state t).state)
      (houtcome : (loop p state t').outcome = (loop p state t).outcome)
      (hcalls : List.Forall₂ Call.Repeats (calls p state t) (calls p state t'))
      (h : Alongside b (loop p state t).transport (loop p state t').transport)
  | breaks {e : StreamFailure} {last : Transport}
      (houtcome : (loop p state t').outcome = .error (.write e)) (hlater : Later t' last)
      (hcalls : ∀ c ∈ calls p state t', Later c.handle last)
      (hviews : (calls p state t').map Call.view <+: (calls p state t).map Call.view)
      (h : Overruns b (loop p state t).transport last (loop p state t').transport e)

/-- What a round puts out, the loop puts out. -/
theorem later_loop_of_round (p : Processor σ) (state : σ) (t : Transport) :
    Later (round p state t).transport (loop p state t).transport := by
  rcases hround : round p state t with e | ⟨state', t'⟩
  · rw [loop_of_over hround]
    exact List.prefix_refl _
  · rw [loop_of_goOn hround]
    exact keeps_loop Transport.frame_later p state' t'

/-- The refusal of its output ends the second session, whatever the first one goes on to do. -/
theorem endsAlongside_of_breaks {c c' : Call σ} {state' : σ} (hcalled : called? p state t = some c)
    (hcalled' : called? p state t' = some c') (hview : c'.view = c.view)
    (hround' : round p state t' = .over ⟨state', .error (.write e), v'⟩)
    (hlater : Later c'.handle last) (h : Overruns b (round p state t).transport last v' e) :
    EndsAlongside b p state t t' := by
  obtain ⟨rest, hcalls, -⟩ := calls_of_called hcalled
  have hcalls' : calls p state t' = [c'] := by
    rw [calls_of_over hround', hcalled']
    rfl
  have hloop' := loop_of_over hround'
  have hbefore := keeps_called Transport.frame_later hcalled'
  have hmore := (later_loop_of_round p state t).output
  refine .breaks (e := e) ?_ (Transport.frame_later.trans hbefore hlater) ?_ ?_ ?_
  · rw [hloop']
  · intro c₁ hc₁
    rw [hcalls'] at hc₁
    rw [List.mem_singleton.1 hc₁]
    exact hlater
  · rw [hcalls, hcalls', List.map_cons, List.map_cons, hview]
    exact List.prefix_append [c.view] _
  · rw [hloop']
    exact h.mono hmore

theorem loop_alongside (hp : p.PassesOn) (state : σ) (h : Alongside b t t') :
    EndsAlongside b p state t t' := by
  -- Along the loop of the first session, which the second one follows until its output refuses
  -- something.
  fun_induction loop p state t generalizing t' with
  | case1 state t e hround =>
    have hrounds := round_alongside hp state h
    generalize hcalled : called? p state t = called at hrounds
    generalize hcalled' : called? p state t' = called' at hrounds
    generalize hround' : round p state t' = r at hrounds
    generalize hround₀ : round p state t = r₀ at hrounds
    cases hrounds with
    | ends hrepeats hended =>
      have hloop := loop_of_over hround₀
      have hloop' := loop_of_over hround'
      refine .same ?_ ?_ ?_ ?_
      · rw [hloop, hloop']
      · rw [hloop, hloop']
      · rw [calls_of_over hround₀, calls_of_over hround', hcalled, hcalled']
        exact hrepeats
      · rw [hloop, hloop']
        exact hended
    | goOn hrepeats hlater hended =>
      rw [hround] at hround₀
      cases hround₀
    | breaks hview hlater hoverruns =>
      exact endsAlongside_of_breaks hcalled hcalled' hview hround' hlater (hround₀ ▸ hoverruns)
  | case2 state t state₁ t₁ hround _ ih =>
    have hrounds := round_alongside hp state h
    generalize hcalled : called? p state t = called at hrounds
    generalize hcalled' : called? p state t' = called' at hrounds
    generalize hround' : round p state t' = r at hrounds
    generalize hround₀ : round p state t = r₀ at hrounds
    cases hrounds with
    | ends hrepeats hended =>
      rw [hround] at hround₀
      cases hround₀
    | @goOn c c' _ _ t₁' hrepeats hlater hended =>
      obtain ⟨rfl, rfl⟩ := Round.goOn.inj (hround.symm.trans hround₀)
      have hloop := loop_of_goOn hround
      have hloop' := loop_of_goOn hround'
      have hcalls := calls_of_goOn hcalled hround
      have hcalls' := calls_of_goOn hcalled' hround'
      cases ih hended with
      | same hstate houtcome hrest hends =>
        refine .same ?_ ?_ ?_ ?_
        · rw [hloop, hloop', hstate]
        · rw [hloop, hloop', houtcome]
        · rw [hcalls, hcalls']
          exact .cons hrepeats hrest
        · rw [hloop, hloop']
          exact hends
      | @breaks e _ houtcome hlast hrest hviews hoverruns =>
        have hview : c'.view = c.view := Prod.ext hrepeats.same.state hrepeats.message
        have hfirst := Transport.frame_later.trans hlater hlast
        have hbefore := keeps_called Transport.frame_later hcalled'
        refine .breaks (e := e) ?_ (Transport.frame_later.trans hbefore hfirst) ?_ ?_ ?_
        · rw [hloop', houtcome]
        · rw [hcalls']
          exact List.forall_mem_cons.2 ⟨hfirst, hrest⟩
        · rw [hcalls, hcalls', List.map_cons, List.map_cons, hview, List.cons_prefix_cons]
          exact ⟨rfl, hviews⟩
        · rw [hloop, hloop']
          exact hoverruns
    | breaks hview hlater hoverruns =>
      exact endsAlongside_of_breaks hcalled hcalled' hview hround' hlater (hround₀ ▸ hoverruns)

/-- When every callback passes errors on, an output that takes so many bytes and refuses the next
    one makes a difference only beyond these bytes.  They are the first ones of what the session
    puts out on a healthy output; if there are no more of them, both sessions make the same calls
    and end the same.  If there are more, the session ends with the failure of its output: on some
    handle the output refuses something, and from then on no message is handled, nothing is read,
    and nothing more is offered to the output. -/
theorem run_of_limited_output (p : Processor σ) (hp : p.PassesOn) (state : σ) (t : Transport)
    (s : Sink) {n : Nat} {kind : StreamFailureKind}
    (hlimited : t.output.policy.Limited (t.output.taken + n) kind) (hs : s.policy.Healthy) :
    let limited := run p state t
    let healthy := run p state (t.withSink .output s)
    ∃ out, outputOf healthy.transport = outputOf t ++ out ∧
      outputOf limited.transport = outputOf t ++ out.take n ∧
      (out.length ≤ n → limited.outcome = healthy.outcome ∧ limited.state = healthy.state ∧
        List.Forall₂ Call.Repeats (calls p state (t.withSink .output s)) (calls p state t)) ∧
      (n < out.length → ∃ e last, e.kind = kind ∧ limited.outcome = .error (.write e) ∧
        Later t last ∧ outputOf last = outputOf t ++ out.take n ∧
        Refused last limited.transport e ∧ (∀ c ∈ calls p state t, Later c.handle last) ∧
        (calls p state t).map Call.view <+:
          (calls p state (t.withSink .output s)).map Call.view) := by
  intro limited healthy
  let b : Limit := ⟨t.withSink .output s, t, n, kind⟩
  have hstart : Alongside b (t.withSink .output s) t := by
    refine ⟨rfl, ⟨[], ?_, ?_, rfl⟩, hs, hlimited, Nat.le_add_right _ _⟩
    · rw [List.append_nil]
    · rw [List.append_nil]
  have hsilent := silent_run p state t
  have hsilent' := silent_run p state (t.withSink .output s)
  cases loop_alongside hp state hstart with
  | same hstate houtcome hcalls h =>
    obtain ⟨done, hdone, hdone', htaken⟩ := h.output
    have hfits : done.length ≤ n := by
      have hwithin := h.within
      rw [htaken] at hwithin
      exact Nat.le_of_add_le_add_left hwithin
    refine ⟨done, ?_, ?_, ?_, ?_⟩
    · rw [outputOf_silent hsilent', hdone]
      rfl
    · rw [outputOf_silent hsilent, hdone', List.take_of_length_le hfits]
    · intro _
      refine ⟨?_, ?_, hcalls⟩
      · rw [outcome_run, outcome_run, houtcome]
      · rw [state_run, state_run, hstate]
    · intro hlt
      omega
  | @breaks e last houtcome hlater hcalls hviews h =>
    obtain ⟨out, hout, hlt, hlast⟩ := h.output
    have hrefused := h.refused.silent hsilent
    refine ⟨out, ?_, ?_, ?_, ?_⟩
    · rw [outputOf_silent hsilent', hout]
      rfl
    · rw [← hlast]
      exact Transport.outputOf_refused hrefused
    · intro hle
      have hroom : n < out.length := hlt
      omega
    · intro _
      refine ⟨e, last, h.kind, ?_, hlater, hlast, hrefused, hcalls, hviews⟩
      rw [outcome_run, houtcome]

/-- Streams of which the output is closed by its reader after ten bytes. -/
def cutShort : Transport :=
  shardAtEnd.withSink .output
    (.ofPolicy (Sink.Policy.open.failingAfter 10 ⟨.brokenPipe, "broken pipe", .root⟩))

/-- The request breaks off after its first ten bytes, and the session ends with that. -/
theorem run_of_limited_output_cutShort :
    ∃ e, e.kind = .brokenPipe ∧ (run careful () cutShort).outcome = .error (.write e) ∧
      outputOf (run careful () cutShort).transport =
        (Transport.messageBytes CheckpointTarget.lastDelivered.request).take 10 := by
  have hlimited : cutShort.output.policy.Limited (cutShort.output.taken + 10) .brokenPipe :=
    Sink.Policy.limited_failingAfter Sink.healthy_healthy Sink.Policy.open_honest 10
      ⟨.brokenPipe, "broken pipe", .root⟩
  obtain ⟨out, hout, hlimit, -, hbreaks⟩ := run_of_limited_output careful careful_passesOn ()
    cutShort .healthy hlimited Sink.healthy_healthy
  -- On a healthy output, the request is what comes first.
  have hlong : 10 < (Transport.messageBytes CheckpointTarget.lastDelivered.request).length := by
    cbv
  have hrequest : out = Transport.messageBytes CheckpointTarget.lastDelivered.request ++
      Transport.messageBytes (.status .shardEnded) := hout.symm.trans output_careful_shardAtEnd.2
  have hlonger : 10 < out.length := by
    rw [hrequest, List.length_append]
    omega
  obtain ⟨e, last, hkind, houtcome, -⟩ := hbreaks hlonger
  refine ⟨e, hkind, houtcome, hlimit.trans ?_⟩
  rw [hrequest, List.take_append_of_le_length (Nat.le_of_lt hlong)]
  rfl

end Session

end ShardBridge
