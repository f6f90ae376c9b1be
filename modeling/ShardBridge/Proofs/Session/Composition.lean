/-
  ShardBridge.Proofs.Session.Composition

  Sessions one after the other.  A stream that is cut between two lines can be
  given to two sessions, the second of which goes on with the processor as the
  first one left it, and they do together what one session does with the whole
  of it (`Session.run_append`).  The first one has to end well, and it must not
  have missed an answer: a request that finds the end of the first part takes
  the first line of the second one when there is no cut, so a callback that
  keeps the error to itself makes the difference (`Session.run_closing_parted`).

    * `Session.Ahead f t t'` -- `t'` brings what `t` brings, and then `f`.
-/
import ShardBridge.Proofs.Session.CallOutput
import ShardBridge.Proofs.Session.InStep
import ShardBridge.Proofs.Session.PassingOn
import ShardBridge.Proofs.Stream.Cutting

namespace ShardBridge

open Transport (Drained SamePassed Silent Took)

/-! ## Streams one after the other -/

/-- The feed of two streams, one after the other. -/
theorem Input.feed_append {i a b : Input} (hpending : i.pending = a.pending ++ b.pending)
    (hcut : a.pending = [] ∨ ∃ init, a.pending = init ++ [lineFeed]) (hends : a.failure = none)
    (hfailure : i.failure = b.failure) :
    i.feed = ⟨a.feed.lines ++ b.feed.lines, b.feed.failure⟩ := by
  rw [feed_of_ends hends]
  cases hb : b.failure with
  | none =>
    rw [feed_of_ends (hfailure.trans hb), feed_of_ends hb, lines, hpending,
      linesOf_append b.pending hcut]
    rfl
  | some e =>
    -- The last line feed is that of the second stream, or else that of the first one.
    have hwhole : whole (a.pending ++ b.pending) = a.pending ++ whole b.pending := by
      rw [whole, rdropWhile_append]
      by_cases hall : b.pending.all (· ≠ lineFeed)
      · have hnone : whole b.pending = [] := by
          rw [whole, List.rdropWhile_eq_nil_iff]
          intro x hx
          exact List.all_eq_true.1 hall x hx
        rw [if_pos hall, hnone, List.append_nil]
        rcases hcut with hnil | ⟨init, hinit⟩
        · rw [hnil]
          rfl
        · rw [hinit]
          exact List.rdropWhile_concat_neg _ _ _ (by simp)
      · rw [if_neg hall]
        rfl
    rw [feed_of_fails (hfailure.trans hb), feed_of_fails hb, hpending, hwhole,
      linesOf_append (whole b.pending) hcut]
    rfl

variable {t t' u u' : Transport} {N n : Nat}

/-- Requests of which none misses its answer go out while there are lines. -/
theorem sooner_of_answered {qs : List Request} (hends : t.input.feed.failure = none)
    (hqs : ∀ q ∈ qs, ∃ n, Drained n t q.handle) (hanswered : Answered qs) :
    Sooner (t.reads + t.input.feed.lines.length) qs := by
  intro q hq hsent
  obtain ⟨n, hdrained⟩ := hqs q hq
  rw [hdrained.reads]
  -- Otherwise the request would find the end.
  by_contra hle
  apply hanswered q hq
  have hfeed : q.handle.input.feed = ⟨[], none⟩ := by
    rw [hdrained.feed, Feed.after, hends, List.drop_eq_nil_of_le (by omega)]
  rw [Request.outcome, (Transport.exchange_of_sent hsent).1, hfeed]
  rfl

namespace Session

variable {σ : Type} {p : Processor σ} {state : σ} {c c' : Call σ}

/-- The second stream brings what the first one brings, and then this; the first one ends. -/
structure Ahead (f : Feed) (t t' : Transport) : Prop where
  output : t.output.Interchangeable t'.output
  ends : t.input.feed.failure = none
  feed : t'.input.feed = ⟨t.input.feed.lines ++ f.lines, f.failure⟩

/-- Two calls for one message that are the same. -/
structure Call.Repeats (c c' : Call σ) : Prop where
  message : c'.message = c.message
  same : c.Same c'

/-! ## Rounds -/

/-- After a call that two sessions make, both are over with an error, or both go on. -/
inductive RoundsAlike (N : Nat) (t t' : Transport) : Round σ → Round σ → Prop
  | fails {state : σ} {failure : SessionError} {u u' : Transport} (h : SamePassed t t' u u') :
      RoundsAlike N t t' (.over ⟨state, .error failure, u⟩) (.over ⟨state, .error failure, u'⟩)
  | goOn {state : σ} {u u' : Transport} (h : SamePassed t t' u u') (hstep : InStep N u u') :
      RoundsAlike N t t' (.goOn state u) (.goOn state u')

theorem rounds_alike (hcalled : called? p state t = some c)
    (hcalled' : called? p state t' = some c') (h : c.Repeats c')
    (hpassed : SamePassed t t' c.ending.transport c'.ending.transport)
    (hstep : InStep N c.ending.transport c'.ending.transport) :
    RoundsAlike N t t' (round p state t) (round p state t') := by
  rw [round_of_called hcalled, round_of_called hcalled', h.message]
  cases houtcome : c.ending.outcome with
  | error source =>
    rw [Round.ofCallback_eq_over houtcome,
      Round.ofCallback_eq_over (h.same.outcome.trans houtcome), h.same.left]
    exact .fails hpassed
  | ok _ =>
    have houtcome' := h.same.outcome.trans houtcome
    obtain ⟨hwrite, hstep', hwritten⟩ := hstep.writeMessage (.status c.message.action)
    cases hsent : (c.ending.transport.writeMessage (.status c.message.action)).1 with
    | error failure =>
      rw [Round.ofCallback_of_unwritten houtcome hsent,
        Round.ofCallback_of_unwritten houtcome' (hwrite.trans hsent), h.same.left]
      exact .fails (hpassed.trans hwritten)
    | ok _ =>
      rw [Round.ofCallback_eq_goOn houtcome hsent,
        Round.ofCallback_eq_goOn houtcome' (hwrite.trans hsent), h.same.left]
      exact .goOn (hpassed.trans hwritten) hstep'

/-- When both streams bring the same line, and agree after it as far as the call has answers, both
    sessions make the same call. -/
theorem repeats_of_line (hcalled : called? p state t = some c)
    (hline : t'.input.feed.lines.head? = t.input.feed.lines.head?)
    (hout : t.output.Interchangeable t'.output)
    (hagree : t.input.feed.rest.Agree n t'.input.feed.rest)
    (hsooner : Sooner (c.handle.reads + n) c.requests) :
    ∃ c', called? p state t' = some c' ∧ c.Repeats c' ∧
      RoundsAlike (c.handle.reads + n) t t' (round p state t) (round p state t') := by
  obtain ⟨-, hcallback, ⟨line, rest, hlines, hm⟩, -⟩ := of_called hcalled
  rw [hlines, List.head?_cons] at hline
  obtain ⟨rest', hlines'⟩ := List.head?_eq_some_iff.1 hline
  obtain ⟨c', hcalled', hmessage, hsame, hpassed, hstep⟩ :=
    exists_same_call hcalled hlines' hm hcallback hout hagree hsooner
  have hc : c.Repeats c' := ⟨hmessage, hsame⟩
  exact ⟨c', hcalled', hc, rounds_alike hcalled hcalled' hc hpassed hstep⟩

/-! ## The same stream twice -/

theorem repeats_of_same_feed (hcalled : called? p state t = some c)
    (hfeed : t'.input.feed = t.input.feed) (hout : t.output.Interchangeable t'.output) :
    ∃ c', called? p state t' = some c' ∧ c.Repeats c' ∧
      ∃ N, RoundsAlike N t t' (round p state t) (round p state t') := by
  obtain ⟨n, hended⟩ := Transport.frame_drained.activity c.callback.activity c.handle
  have hagree : t.input.feed.rest.Agree n t'.input.feed.rest := by
    rw [hfeed]
    exact .refl n _
  have hsooner : Sooner (c.handle.reads + n) c.requests := by
    rw [← hended.reads]
    exact c.sooner
  obtain ⟨c', hcalled', hc, hrounds⟩ :=
    repeats_of_line hcalled (by rw [hfeed]) hout hagree hsooner
  exact ⟨c', hcalled', hc, _, hrounds⟩

/-- A session does with one stream what it does with another one that brings the same. -/
theorem loop_of_same_feed (p : Processor σ) (state : σ) (hfeed : t'.input.feed = t.input.feed)
    (hout : t.output.Interchangeable t'.output) :
    (loop p state t').state = (loop p state t).state ∧
      (loop p state t').outcome = (loop p state t).outcome ∧
      SamePassed t t' (loop p state t).transport (loop p state t').transport ∧
      List.Forall₂ Call.Repeats (calls p state t) (calls p state t') := by
  fun_induction loop p state t generalizing t' with
  | case1 state t e hround =>
    cases hcalled : called? p state t with
    | none =>
      obtain ⟨hcalled', outcome, u, u', hover, hover', htook, htook'⟩ :=
        over_of_not_called hcalled hfeed
      obtain rfl := Round.over.inj (hround.symm.trans hover)
      rw [loop_of_over hover', calls_of_over hround, calls_of_over hover', hcalled, hcalled']
      exact ⟨rfl, rfl, Transport.samePassed_took htook htook', .nil⟩
    | some c =>
      obtain ⟨c', hcalled', hc, N, hrounds⟩ := repeats_of_same_feed hcalled hfeed hout
      generalize hround' : round p state t' = r at hrounds
      rw [hround] at hrounds
      cases hrounds with
      | fails hpassed =>
        rw [loop_of_over hround', calls_of_over hround, calls_of_over hround', hcalled, hcalled']
        exact ⟨rfl, rfl, hpassed, .cons hc .nil⟩
  | case2 state t state₁ t₁ hround _ ih =>
    obtain ⟨c, hcalled⟩ := called_of_goOn hround
    obtain ⟨c', hcalled', hc, N, hrounds⟩ := repeats_of_same_feed hcalled hfeed hout
    have hdrained := keeps_round Transport.frame_drained p state t
    have hdrained' := keeps_round Transport.frame_drained p state t'
    generalize hround' : round p state t' = r at hrounds hdrained'
    rw [hround] at hrounds hdrained
    cases hrounds with
    | @goOn _ _ t₁' hpassed hstep =>
      -- As much is gone from both streams, so the same is left of them.
      obtain ⟨n, hdrained⟩ := hdrained
      have hdrained' := hpassed.drained hdrained hdrained'
      have hfeed₁ : t₁'.input.feed = t₁.input.feed := by
        rw [show t₁'.input.feed = _ from hdrained'.feed, hfeed]
        exact hdrained.feed.symm
      obtain ⟨hstate, houtcome, hrest, hcalls⟩ := ih hfeed₁ hstep.output
      rw [loop_of_goOn hround', calls_of_goOn hcalled hround, calls_of_goOn hcalled' hround']
      exact ⟨hstate, houtcome, hpassed.trans hrest, .cons hc hcalls⟩

/-! ## The first part -/

/-- A session that is over well found no line any more. -/
theorem lines_of_ended {e : Ending σ} (hround : round p state t = .over e)
    (hok : e.outcome = .ok ()) : t.input.feed.lines = [] := by
  rcases round_cases p state t with hcloses | ⟨failure, hfails⟩ | ⟨state', t', hhandles⟩
  · have hnext := t.input.nextLine_feed.1
    rcases hcloses with hended | ⟨failure, hfailed, -⟩
    · rw [Feed.eq_of_next_ended (hnext.symm.trans hended)]
    · rw [Feed.eq_of_next_failed (hnext.symm.trans hfailed)]
  · obtain ⟨state', t', hover⟩ := round_of_fails hfails
    obtain rfl := Round.over.inj (hround.symm.trans hover)
    cases hok
  · have hgoOn := round_of_handles hhandles
    rw [hround] at hgoOn
    cases hgoOn

/-- The next call is the same when more follows, as long as it has its answers. -/
theorem repeats_of_ahead {f : Feed} (h : Ahead f t t') (hcalled : called? p state t = some c)
    (hanswered : Answered c.requests) :
    ∃ c', called? p state t' = some c' ∧ c.Repeats c' ∧
      RoundsAlike (t.reads + t.input.feed.lines.length) t t' (round p state t)
        (round p state t') := by
  obtain ⟨-, -, ⟨line, rest, hlines, -⟩, htook⟩ := of_called hcalled
  have hleft : c.handle.input.feed.lines = rest := by
    rw [htook.feed, Feed.rest, hlines, List.tail_cons]
  have hreads : c.handle.reads + rest.length = t.reads + t.input.feed.lines.length := by
    rw [Transport.reads_took htook, hlines, List.length_cons]
    omega
  have hsooner : Sooner (c.handle.reads + rest.length) c.requests := by
    rw [← hleft]
    refine sooner_of_answered ?_ (fun q hq => ?_) hanswered
    · rw [htook.feed]
      exact h.ends
    · exact (Call.keeps_request Transport.frame_drained hq).1
  have hagree : t.input.feed.rest.Agree rest.length t'.input.feed.rest := by
    apply Feed.agree_of_take
    · rw [h.feed, Feed.rest, Feed.rest, hlines, List.cons_append, List.tail_cons, List.tail_cons,
        List.take_length, List.take_left]
    · rw [Feed.rest, hlines, List.tail_cons]
      intro hlt
      exact absurd hlt (Nat.lt_irrefl _)
  have hline : t'.input.feed.lines.head? = t.input.feed.lines.head? := by
    rw [h.feed, hlines]
    rfl
  obtain ⟨c', hcalled', hc, hrounds⟩ := repeats_of_line hcalled hline h.output hagree hsooner
  rw [hreads] at hrounds
  exact ⟨c', hcalled', hc, hrounds⟩

/-- While the first stream still has lines, the second one stays ahead. -/
theorem Ahead.drained {f : Feed} (h : Ahead f t t') (hu : Drained n t u) (hu' : Drained n t' u')
    (hle : n ≤ t.input.feed.lines.length) (hout : u.output.Interchangeable u'.output) :
    Ahead f u u' := by
  refine ⟨hout, ?_, ?_⟩
  · rw [hu.feed]
    exact h.ends
  · rw [hu.feed, hu'.feed, h.feed, Feed.after, Feed.after, List.drop_append_of_le_length hle]

/-- A session that ends well with the first stream, and has all its answers from it, comes with the
    second one to where the rest begins. -/
theorem comes_of_ahead {f : Feed} (p : Processor σ) (state : σ) (h : Ahead f t t')
    (hok : (loop p state t).outcome = .ok ()) (hanswered : Answered (requests p state t)) :
    ∃ cs' t₁', Comes p state t' cs' (loop p state t).state t₁' ∧ t₁'.input.feed = f ∧
      (loop p state t).transport.output.Interchangeable t₁'.output ∧
      List.Forall₂ Call.Repeats (calls p state t) cs' ∧
      ∃ done, outputOf (loop p state t).transport = outputOf t ++ done ∧
        outputOf t₁' = outputOf t' ++ done := by
  fun_induction loop p state t generalizing t' with
  | case1 state t e hround =>
    -- Nothing is left of the first stream, so what follows in the second one is next.
    have hlines := lines_of_ended hround hok
    obtain ⟨u, hloop, hcalls, htook⟩ := loop_of_no_line p state hlines
    rw [loop_of_over hround] at hloop
    have hfeed := h.feed
    rw [hlines, List.nil_append] at hfeed
    rw [hloop, hcalls]
    refine ⟨[], t', .refl p state t', hfeed, ?_, .nil, [], ?_, (List.append_nil _).symm⟩
    · dsimp only
      rw [htook.output]
      exact h.output
    · rw [outputOf_took htook, List.append_nil]
  | case2 state t state₁ t₁ hround _ ih =>
    obtain ⟨c, hcalled⟩ := called_of_goOn hround
    have hsplit : requests p state t = c.requests ++ requests p state₁ t₁ := by
      rw [requests, calls_of_goOn hcalled hround, List.flatMap_cons]
      rfl
    rw [hsplit] at hanswered
    obtain ⟨hfirst, hlater⟩ := List.forall_mem_append.1 hanswered
    obtain ⟨c', hcalled', hc, hrounds⟩ := repeats_of_ahead h hcalled hfirst
    have hdrained := keeps_round Transport.frame_drained p state t
    have hdrained' := keeps_round Transport.frame_drained p state t'
    generalize hround' : round p state t' = r at hrounds hdrained'
    rw [hround] at hrounds hdrained
    cases hrounds with
    | @goOn _ _ t₁' hpassed hstep =>
      -- All that was read so far is from the first stream.
      obtain ⟨n, hdrained⟩ := hdrained
      have hle : n ≤ t.input.feed.lines.length := by
        have hreads : t₁.reads = t.reads + n := hdrained.reads
        have hbound := hstep.reads_le
        omega
      have hahead := h.drained hdrained (hpassed.drained hdrained hdrained') hle hstep.output
      obtain ⟨cs', t₂', hcomes, hfeed, hout, hcalls, done, hdone, hdone'⟩ := ih hahead hok hlater
      obtain ⟨begun, hbegun, hbegun'⟩ := hpassed.output
      rw [calls_of_goOn hcalled hround]
      refine ⟨c' :: cs', t₂', hcomes.head hcalled' hround', hfeed, hout, .cons hc hcalls,
        begun ++ done, ?_, ?_⟩
      · rw [hdone, hbegun, List.append_assoc]
      · rw [hdone', hbegun', List.append_assoc]

/-! ## Both parts -/

/-- When every callback passes errors on, a session that ends well has missed no answer. -/
theorem answered_of_ok (hp : p.PassesOn) (hok : (run p state t).outcome = .ok ()) :
    Answered (requests p state t) := by
  intro q hq hclosed
  have herror := (run_of_error hp hq hclosed).1
  rw [hok] at herror
  cases herror

/-- What ends well with the first part of a stream, and has missed no answer there, can be taken up
    with the second one: both sessions together make the calls of one session with the whole stream,
    leave the same state, end as it does, and put out what it puts out.  The parts are cut after a
    line, and neither the bytes nor the reads before the cut make a difference to what comes after
    it. -/
theorem run_append (p : Processor σ) (state : σ) {ta tb t : Transport}
    (hpending : t.input.pending = ta.input.pending ++ tb.input.pending)
    (hcut : ta.input.pending = [] ∨ ∃ init, ta.input.pending = init ++ [Input.lineFeed])
    (hends : ta.input.failure = none) (hfailure : t.input.failure = tb.input.failure)
    (hout : ta.output.Interchangeable t.output)
    (hout' : (run p state ta).transport.output.Interchangeable tb.output)
    (hok : (run p state ta).outcome = .ok ()) (hanswered : Answered (requests p state ta)) :
    let first := run p state ta
    let second := run p first.state tb
    let both := run p state t
    both.state = second.state ∧ both.outcome = second.outcome ∧
      List.Forall₂ Call.Repeats (calls p state ta ++ calls p first.state tb) (calls p state t) ∧
      ∃ begun done, outputOf first.transport = outputOf ta ++ begun ∧
        outputOf second.transport = outputOf tb ++ done ∧
          outputOf both.transport = outputOf t ++ (begun ++ done) := by
  intro first second both
  have hahead : Ahead tb.input.feed ta t := by
    refine ⟨hout, ?_, Input.feed_append hpending hcut hends hfailure⟩
    rw [Input.feed_of_ends hends]
  rw [outcome_run] at hok
  have hloop : (loop p state ta).transport.output.Interchangeable tb.output := by
    rw [← (silent_run p state ta).output]
    exact hout'
  -- The session with the whole stream comes to where the second part begins,
  obtain ⟨cs, t₁, hcomes, hfeed, hout₁, hcalls, begun, hbegun, hbegun₁⟩ :=
    comes_of_ahead p state hahead hok hanswered
  -- and from there it does what the session with the second part does.
  obtain ⟨hstate, houtcome, hpassed, hrest⟩ :=
    loop_of_same_feed p (loop p state ta).state hfeed (hloop.symm.trans hout₁)
  obtain ⟨done, hdone, hdone₁⟩ := hpassed.output
  have hfirst : first.state = (loop p state ta).state := state_run
  refine ⟨?_, ?_, ?_, begun, done, ?_, ?_, ?_⟩
  · rw [state_run, state_run, hcomes.loop, hfirst]
    exact hstate
  · rw [outcome_run, outcome_run, hcomes.loop, hfirst]
    exact houtcome
  · rw [hcomes.calls, hfirst]
    exact List.rel_append hcalls hrest
  · rw [outputOf_silent (silent_run p state ta)]
    exact hbegun
  · rw [outputOf_silent (silent_run p first.state tb), hfirst]
    exact hdone
  · rw [outputOf_silent (silent_run p state t), hcomes.loop, hdone₁, hbegun₁, List.append_assoc]

/-! ### One message -/

/-- A session with a single message, of which the callback does not fail and leaves nothing to be
    read. -/
theorem run_of_one_message (h : t.Reliable) {line : Line} {rest : List Line} {m : Message}
    {state' : σ} {handshakes : List Handshake}
    {talk : List Line → Dialogue (σ × Except ProcessorError Unit)}
    (hlines : t.input.lines = line :: rest) (hm : Message.ofLine line = .ok m)
    (htalk : p.talk? state m = some talk)
    (hrest : talk rest = ⟨(state', .ok ()), handshakes, []⟩) :
    (run p state t).outcome = .ok () ∧
      outputOf (run p state t).transport = outputOf t ++
        (handshakes.flatMap Handshake.output ++ Transport.messageBytes (.status m.action)) := by
  obtain ⟨s, hcourse, hout, hpasses⟩ := run_course p state h
  have hopens : Opens p state (line :: rest) _ _ _ := .intro hm htalk
  rw [hrest] at hopens
  have hcourse' := hcourse
  rw [hlines] at hcourse'
  obtain rfl := Course.unique (.handled hopens rfl (.ended state')) hcourse'
  have hblock : Block.output ⟨line, m, handshakes, .ok ()⟩ =
      handshakes.flatMap Handshake.output ++ Transport.messageBytes (.status m.action) := by
    rw [Block.output, Block.status, Block.isAnswered, if_pos rfl]
  refine ⟨hout, ?_⟩
  rw [outputOf, outputOf, (hcourse.transcribes hpasses).output, Transcript.output,
    Transcript.after, List.flatMap_cons, List.flatMap_nil, List.append_nil]
  dsimp only
  rw [hblock]

/-- The answer to a request, and then the loss of the lease. -/
def endedAndLost : Transport := bringing [shardEndedText, "", recordedText, leaseLostText]

theorem feed_shardAtEnd_append : endedAndLost.input.pending =
    shardAtEnd.input.pending ++ (bringing [leaseLostText]).input.pending := by cbv

/-- With the answer, the session ends well; the request goes out, and then the status line. -/
theorem output_careful_shardAtEnd :
    (run careful () shardAtEnd).outcome = .ok () ∧
      outputOf (run careful () shardAtEnd).transport =
        Transport.messageBytes CheckpointTarget.lastDelivered.request ++
          Transport.messageBytes (.status .shardEnded) := by
  have hlines : shardAtEnd.input.lines =
      [Text.Utf8.bytesOf shardEndedText, Text.Utf8.bytesOf recordedText] := by cbv
  have hrest : (careful.shardEnded ()).talk [Text.Utf8.bytesOf recordedText] =
      ⟨((), .ok ()), [⟨.lastDelivered, some (Text.Utf8.bytesOf recordedText)⟩], []⟩ := by
    simp only [careful, Activity.talk, Recovery.talk, Dialogue.andThen, Dialogue.ask,
      CheckpointAnswer.ofLines, ofLine_recorded]
    rfl
  obtain ⟨hok, houtput⟩ :=
    run_of_one_message ⟨rfl, Sink.healthy_healthy⟩ hlines ofLine_shardEnded rfl hrest
  rw [List.flatMap_singleton] at houtput
  exact ⟨hok, houtput⟩

theorem run_careful_shardAtEnd : (run careful () shardAtEnd).outcome = .ok () :=
  output_careful_shardAtEnd.1

/-- The position is recorded in the first session, and the loss of the lease is for the second. -/
theorem run_append_careful :
    (run careful () endedAndLost).outcome =
        (run careful () (bringing [leaseLostText])).outcome ∧
      List.Forall₂ Call.Repeats
        (calls careful () shardAtEnd ++ calls careful () (bringing [leaseLostText]))
        (calls careful () endedAndLost) := by
  have hcut : ∃ init, shardAtEnd.input.pending = init ++ [Input.lineFeed] :=
    ⟨shardAtEnd.input.pending.dropLast, by cbv⟩
  have hhealthy : (run careful () shardAtEnd).transport.output.policy.Healthy := by
    rw [(silent_run careful () shardAtEnd).output]
    exact keeps_loop Transport.frame_healthy careful () shardAtEnd Sink.healthy_healthy
  have hends : ∀ texts, (bringing texts).input.failure = none := fun _ => rfl
  have hfailure : endedAndLost.input.failure = (bringing [leaseLostText]).input.failure :=
    (hends _).trans (hends _).symm
  obtain ⟨-, houtcome, hcalls, -⟩ := run_append careful () feed_shardAtEnd_append (.inr hcut) rfl
    hfailure (Sink.interchangeable_of_healthy Sink.healthy_healthy Sink.healthy_healthy)
    (Sink.interchangeable_of_healthy hhealthy Sink.healthy_healthy) run_careful_shardAtEnd
    (answered_of_ok careful_passesOn run_careful_shardAtEnd)
  exact ⟨houtcome, hcalls⟩

/-- A callback that keeps every error to itself makes its request and is acknowledged, whatever it
    finds in place of the answer, and also if it finds nothing. -/
theorem run_closing_of_lines (h : t.Reliable) {rest : List Line}
    (hlines : t.input.lines = Text.Utf8.bytesOf shardEndedText :: rest) (hlast : rest.tail = []) :
    (run closing () t).outcome = .ok () ∧
      outputOf (run closing () t).transport = outputOf t ++
        ([⟨.lastDelivered, rest.head?⟩].flatMap Handshake.output ++
          Transport.messageBytes (.status .shardEnded)) := by
  have hrest : (closing.shardEnded ()).talk rest =
      ⟨((), .ok ()), [⟨.lastDelivered, rest.head?⟩], []⟩ := by
    rw [← hlast]
    simp only [closing, Activity.done, Activity.talk, Recovery.talk, Dialogue.andThen,
      Dialogue.ask]
    rcases CheckpointAnswer.ofLines rest with e | _ | error <;> rfl
  exact (run_of_one_message h hlines ofLine_shardEnded rfl hrest :)

/-- When the first part of a stream ends in place of the answer, and the callback keeps that to
    itself, the two parts lead to one more status line than the whole of it: there the first line of
    the second part is taken for the answer. -/
theorem run_closing_parted :
    (bringing [shardEndedText, leaseLostText]).input.pending =
        (bringing [shardEndedText]).input.pending ++ (bringing [leaseLostText]).input.pending ∧
      (run closing () (bringing [shardEndedText])).outcome = .ok () ∧
      outputOf (run closing () (bringing [shardEndedText])).transport ++
          outputOf (run closing () (bringing [leaseLostText])).transport =
        outputOf (run closing () (bringing [shardEndedText, leaseLostText])).transport ++
          Transport.messageBytes (.status .leaseLost) ∧
      Transport.messageBytes (.status .leaseLost) ≠ [] := by
  have hfirst : (bringing [shardEndedText]).input.lines = [Text.Utf8.bytesOf shardEndedText] := by
    cbv
  have hsecond : (bringing [leaseLostText]).input.lines = [Text.Utf8.bytesOf leaseLostText] := by
    cbv
  have hwhole : (bringing [shardEndedText, leaseLostText]).input.lines =
      [Text.Utf8.bytesOf shardEndedText, Text.Utf8.bytesOf leaseLostText] := by cbv
  have hrest : (closing.leaseLost ()).talk [] = ⟨((), .ok ()), [], []⟩ := rfl
  obtain ⟨hok, houtput⟩ := run_closing_of_lines ⟨rfl, Sink.healthy_healthy⟩ hfirst rfl
  obtain ⟨-, houtput₂⟩ := run_of_one_message (p := closing) ⟨rfl, Sink.healthy_healthy⟩ hsecond
    ofLine_leaseLost rfl hrest
  obtain ⟨-, houtput₃⟩ := run_closing_of_lines ⟨rfl, Sink.healthy_healthy⟩ hwhole rfl
  have hnone : ∀ texts, outputOf (bringing texts) = [] := fun _ => rfl
  refine ⟨by cbv, hok, ?_, ?_⟩
  · rw [houtput, houtput₂, houtput₃, hnone, hnone, hnone]
    simp only [List.nil_append, List.flatMap_singleton, List.flatMap_nil, Handshake.output,
      Message.action]
  · exact List.append_ne_nil_of_right_ne_nil _ (List.cons_ne_nil _ _)

end Session

end ShardBridge
