/-
  ShardBridge.Proofs.Session.LegacyNotice

  The one notice of older daemons against the three messages that took its
  place.  Two streams that differ only in lines that open a call, and there only
  in how they say it, lead to the same calls, the same state and the same end of
  the session (`Session.run_of_restated`).  What does tell them apart is the
  action of those messages: each is acknowledged, and blamed for an error of its
  callback, under its own.

    * `Message.current m` -- what newer daemons say for `m`;
    * `Session.Call.OpenedBy t k c` -- line `k` of what `t` has left opens `c`;
    * `Session.Restated cs t t'` -- the streams differ only in lines that open
      one of the calls `cs`.
-/
import ShardBridge.Proofs.Session.CallOutput
import ShardBridge.Proofs.Session.InStep
import ShardBridge.Proofs.Session.PassingOn

namespace ShardBridge

open Transport (Drained Silent Took)

/-! ## What the one notice says -/

/-- The message of newer daemons for what older ones say with their one notice. -/
def Message.current : Message → Message
  | .shutdown .terminate => .shardEnded
  | .shutdown .zombie => .leaseLost
  | .shutdown .requested => .shutdownRequested
  | m => m

/-- Both have the same callback. -/
theorem Processor.callbackFor?_current {σ : Type} (p : Processor σ) (state : σ) (m : Message) :
    p.callbackFor? state m.current = p.callbackFor? state m := by
  cases m with
  | shutdown reason => cases reason <;> rfl
  | _ => rfl

/-- Both lines are messages, and these say the same. -/
def Restates (line line' : Line) : Prop :=
  ∃ m m', Message.ofLine line = .ok m ∧ Message.ofLine line' = .ok m' ∧ m'.current = m.current

namespace Session

variable {σ : Type} {p : Processor σ} {state : σ} {t t' u u' : Transport} {c : Call σ}
  {cs : List (Call σ)} {k n : Nat}

/-! ## The line that opens a call -/

/-- The call is opened by the line with this number. -/
structure Call.OpenedBy (t : Transport) (k : Nat) (c : Call σ) : Prop where
  reads : c.handle.reads = t.reads + (k + 1)
  line : ∃ line, t.input.feed.lines[k]? = some line ∧ Message.ofLine line = .ok c.message

theorem Call.openedBy_of_called (h : called? p state t = some c) : c.OpenedBy t 0 := by
  obtain ⟨-, -, ⟨line, rest, hlines, hm⟩, htook⟩ := of_called h
  refine ⟨Transport.reads_took htook, line, ?_, hm⟩
  rw [hlines]
  rfl

/-- Seen from a handle after some reads, the lines have smaller numbers. -/
theorem Call.openedBy_drained (h : Drained n t u) : c.OpenedBy u k ↔ c.OpenedBy t (n + k) := by
  have hreads : u.reads + (k + 1) = t.reads + (n + k + 1) := by
    rw [h.reads]
    omega
  have hline : u.input.feed.lines[k]? = t.input.feed.lines[n + k]? := by
    rw [h.feed, Feed.after, List.getElem?_drop]
  constructor
  · intro hopened
    exact ⟨hreads ▸ hopened.reads, hline ▸ hopened.line⟩
  · intro hopened
    exact ⟨hreads ▸ hopened.reads, hline ▸ hopened.line⟩

/-- While a call lasts, no line opens another one. -/
theorem Call.not_openedBy_within (hcalled : called? p state t = some c)
    (hended : Drained n c.handle c.ending.transport) (hk : k < n) {b : Call σ}
    (hb : b ∈ calls p state t) : ¬ b.OpenedBy t (k + 1) := by
  intro hopened
  obtain ⟨rest, hcalls, hlater⟩ := calls_of_called hcalled
  have hb_reads := hopened.reads
  have hc_reads := (Call.openedBy_of_called hcalled).reads
  have hended_reads := hended.reads
  rw [hcalls] at hb
  rcases List.mem_cons.1 hb with rfl | hb
  · omega
  · have hlt := hlater b hb
    omega

/-! ## Streams that say the same -/

/-- The streams differ only in lines that open one of these calls, and these lines say the same. -/
structure Restated (cs : List (Call σ)) (t t' : Transport) : Prop where
  length : t'.input.feed.lines.length = t.input.feed.lines.length
  failure : t'.input.feed.failure = t.input.feed.failure
  lines : ∀ k line line', t.input.feed.lines[k]? = some line →
    t'.input.feed.lines[k]? = some line' →
      line' = line ∨ Restates line line' ∧ ∃ c ∈ cs, c.OpenedBy t k

namespace Restated

/-- A line that opens none of the calls is on both streams. -/
theorem line_eq (h : Restated cs t t') (hnot : ∀ c ∈ cs, ¬ c.OpenedBy t k) :
    t'.input.feed.lines[k]? = t.input.feed.lines[k]? := by
  cases hline : t.input.feed.lines[k]? with
  | none =>
    have hle := List.getElem?_eq_none_iff.1 hline
    rw [List.getElem?_eq_none_iff, h.length]
    exact hle
  | some line =>
    have hlt : k < t'.input.feed.lines.length := by
      rw [h.length]
      exact (List.getElem?_eq_some_iff.1 hline).1
    have hline' := List.getElem?_eq_getElem hlt
    rcases h.lines k line _ hline hline' with heq | ⟨-, c, hc, hopened⟩
    · rw [hline', heq]
    · exact absurd hopened (hnot c hc)

/-- Without a call, the streams are the same. -/
theorem feed_eq (h : Restated ([] : List (Call σ)) t t') : t'.input.feed = t.input.feed := by
  have hlines : t'.input.feed.lines = t.input.feed.lines := by
    apply List.ext_getElem?
    intro k
    apply h.line_eq
    intro c hc
    cases hc
  have hfailure := h.failure
  generalize t.input.feed = f at hlines hfailure ⊢
  generalize t'.input.feed = f' at hlines hfailure ⊢
  obtain ⟨lines, failure⟩ := f
  obtain ⟨lines', failure'⟩ := f'
  obtain rfl : lines' = lines := hlines
  obtain rfl : failure' = failure := hfailure
  rfl

/-- After as many reads from both streams, only the lines of later calls can differ. -/
theorem drained {cs' : List (Call σ)} (h : Restated cs t t') (hu : Drained n t u)
    (hu' : Drained n t' u') (hlater : ∀ c ∈ cs, ∀ k, c.OpenedBy t (n + k) → c ∈ cs') :
    Restated cs' u u' := by
  refine ⟨?_, ?_, ?_⟩
  · rw [hu.feed, hu'.feed, Feed.after, Feed.after, List.length_drop, List.length_drop, h.length]
  · rw [hu.feed, hu'.feed]
    exact h.failure
  · intro k line line' hline hline'
    rw [hu.feed, Feed.after, List.getElem?_drop] at hline
    rw [hu'.feed, Feed.after, List.getElem?_drop] at hline'
    rcases h.lines (n + k) line line' hline hline' with heq | ⟨hsame, c, hc, hopened⟩
    · exact .inl heq
    · exact .inr ⟨hsame, c, hlater c hc k hopened, (Call.openedBy_drained hu).2 hopened⟩

/-- Within a call, both streams bring the same. -/
theorem agree (h : Restated (calls p state t) t t') (hcalled : called? p state t = some c)
    (hended : Drained n c.handle c.ending.transport) :
    t.input.feed.rest.Agree n t'.input.feed.rest := by
  apply Feed.agree_of_take
  · apply List.ext_getElem?
    intro k
    rw [Feed.rest, Feed.rest, List.getElem?_take, List.getElem?_take, List.getElem?_tail,
      List.getElem?_tail]
    by_cases hk : k < n
    · rw [if_pos hk, if_pos hk]
      apply h.line_eq
      intro b hb
      exact Call.not_openedBy_within hcalled hended hk hb
    · rw [if_neg hk, if_neg hk]
  · intro _
    exact h.failure

end Restated

/-! ## Calls -/

/-- The call of the second session is the same, sends the same, and is opened by the line with the
    same number. -/
structure Call.Restated (t t' : Transport) (c c' : Call σ) : Prop where
  same : c.Same c'
  asked : c'.asked = c.asked
  opened : ∃ k, c.OpenedBy t k ∧ c'.OpenedBy t' k

/-- The same requests have the same lines. -/
theorem Call.Same.asked {c' : Call σ} (h : c.Same c') : c'.asked = c.asked := by
  have htargets := congrArg (List.flatMap fun v => Transport.messageBytes v.1.request) h.requests
  rw [List.flatMap_map, List.flatMap_map] at htargets
  exact htargets

theorem Call.Restated.drained {c' : Call σ} (h : c.Restated u u' c') (hu : Drained n t u)
    (hu' : Drained n t' u') : c.Restated t t' c' := by
  obtain ⟨k, hopened, hopened'⟩ := h.opened
  exact ⟨h.same, h.asked, n + k, (Call.openedBy_drained hu).1 hopened,
    (Call.openedBy_drained hu').1 hopened'⟩

/-- The next call is one of both sessions. -/
theorem called_of_restated (h : Restated (calls p state t) t t')
    (hout : t.output.Interchangeable t'.output) (hcalled : called? p state t = some c) :
    ∃ c' n, called? p state t' = some c' ∧ Call.Restated t t' c c' ∧ 0 < n ∧
      Drained n t c.ending.transport ∧ Drained n t' c'.ending.transport := by
  obtain ⟨-, hcallback, ⟨line, rest, hlines, hm⟩, htook⟩ := of_called hcalled
  -- The second stream has a line at this place, and a message with the same callback.
  obtain ⟨line', rest', hlines'⟩ : ∃ line' rest', t'.input.feed.lines = line' :: rest' := by
    have hlength := h.length
    rw [hlines] at hlength
    exact List.exists_cons_of_length_eq_add_one hlength
  obtain ⟨m', hm', hcurrent⟩ :
      ∃ m', Message.ofLine line' = .ok m' ∧ m'.current = c.message.current := by
    have hline : t.input.feed.lines[0]? = some line := by rw [hlines]; rfl
    have hline' : t'.input.feed.lines[0]? = some line' := by rw [hlines']; rfl
    rcases h.lines 0 line line' hline hline' with rfl | ⟨⟨m, m', hm₁, hm', hcurrent⟩, -⟩
    · exact ⟨_, hm, rfl⟩
    · obtain rfl := Except.ok.inj (hm.symm.trans hm₁)
      exact ⟨m', hm', hcurrent⟩
  have hcallback' : p.callbackFor? state m' = some c.callback := by
    rw [← p.callbackFor?_current, hcurrent, p.callbackFor?_current, hcallback]
  -- As far as the call reads, both streams bring the same.
  obtain ⟨n, hended⟩ := Transport.frame_drained.activity c.callback.activity c.handle
  have hsooner : Sooner (c.handle.reads + n) c.requests := by
    rw [← hended.reads]
    exact c.sooner
  obtain ⟨c', hcalled', -, hsame, hpassed, -⟩ := exists_same_call hcalled hlines' hm' hcallback'
    hout (h.agree hcalled hended) hsooner
  have hdrained := (Transport.drained_took htook).trans hended
  have hopened : ∃ k, c.OpenedBy t k ∧ c'.OpenedBy t' k :=
    ⟨0, Call.openedBy_of_called hcalled, Call.openedBy_of_called hcalled'⟩
  exact ⟨c', 1 + n, hcalled', ⟨hsame, hsame.asked, hopened⟩, Nat.add_pos_left Nat.one_pos n,
    hdrained, hpassed.drained hdrained (Call.exists_drained hcalled')⟩

/-- Lines after the first call open later ones. -/
theorem mem_later_of_openedBy {rest : List (Call σ)} (hcalled : called? p state t = some c)
    (hn : 0 < n) {b : Call σ} (hb : b ∈ c :: rest) (hopened : b.OpenedBy t (n + k)) :
    b ∈ rest := by
  rcases List.mem_cons.1 hb with rfl | hb
  · have hb_reads := hopened.reads
    have hc_reads := (Call.openedBy_of_called hcalled).reads
    omega
  · exact hb

/-! ## Sessions -/

/-- What two sessions have in common that are told the same: the calls, the state, what is left to
    be read, and how it ends.  Only an error of the last callback can be put down to another
    action. -/
structure EndsAlike (t t' : Transport) (cs cs' : List (Call σ)) (e e' : Ending σ) : Prop where
  calls : List.Forall₂ (Call.Restated t t') cs cs'
  state : e'.state = e.state
  left : e'.transport.input.feed = e.transport.input.feed
  outcome : e'.outcome = e.outcome ∨ ∃ c c' source, cs.getLast? = some c ∧
    cs'.getLast? = some c' ∧ c.ending.outcome = .error source ∧
      e.outcome = .error (.ofProcessor c.message.action source) ∧
        e'.outcome = .error (.ofProcessor c'.message.action source)

/-- A call before two sessions that end alike. -/
theorem EndsAlike.cons {c' : Call σ} {cs' : List (Call σ)} {e e' : Ending σ}
    (h : EndsAlike u u' cs cs' e e') (hc : Call.Restated t t' c c') (hu : Drained n t u)
    (hu' : Drained n t' u') : EndsAlike t t' (c :: cs) (c' :: cs') e e' := by
  refine ⟨.cons hc (h.calls.imp fun _ _ hb => hb.drained hu hu'), h.state, h.left, ?_⟩
  rcases h.outcome with heq | ⟨last, last', source, hlast, hlast', hfailed⟩
  · exact .inl heq
  · refine .inr ⟨last, last', source, ?_, ?_, hfailed⟩
    · rw [List.getLast?_cons, hlast]
      rfl
    · rw [List.getLast?_cons, hlast']
      rfl

theorem loop_of_restated (p : Processor σ) (state : σ) (h : Restated (calls p state t) t t')
    (hout : t.output.policy.Healthy) (hout' : t'.output.policy.Healthy) :
    EndsAlike t t' (calls p state t) (calls p state t') (loop p state t) (loop p state t') := by
  -- Along the first session: the second one keeps up with it, call by call.
  fun_induction loop p state t generalizing t' with
  | case1 state t e hround =>
    cases hcalled : called? p state t with
    | none =>
      have hcalls : calls p state t = [] := by
        rw [calls_of_over hround, hcalled]
        rfl
      rw [hcalls] at h ⊢
      obtain ⟨hcalled', outcome, u, u', hover, hover', htook, htook'⟩ :=
        over_of_not_called hcalled h.feed_eq
      obtain rfl := Round.over.inj (hround.symm.trans hover)
      rw [loop_of_over hover', calls_of_over hover', hcalled']
      refine ⟨.nil, rfl, ?_, .inl rfl⟩
      rw [htook.feed, htook'.feed, h.feed_eq]
    | some c =>
      obtain ⟨c', n, hcalled', hc, hn, hended, hended'⟩ :=
        called_of_restated h (Sink.interchangeable_of_healthy hout hout') hcalled
      -- The session would have gone on after a callback that does not fail.
      cases houtcome : c.ending.outcome with
      | ok _ =>
        rw [round_of_healthy hout hcalled houtcome] at hround
        cases hround
      | error source =>
        have hover := round_of_failed hcalled houtcome
        have hover' := round_of_failed hcalled' (hc.same.outcome.trans houtcome)
        obtain rfl := Round.over.inj (hround.symm.trans hover)
        have hcalls : calls p state t = [c] := by
          rw [calls_of_over hround, hcalled]
          rfl
        have hcalls' : calls p state t' = [c'] := by
          rw [calls_of_over hover', hcalled']
          rfl
        rw [hcalls] at h ⊢
        have hrest : Restated ([] : List (Call σ)) c.ending.transport c'.ending.transport :=
          h.drained hended hended' fun b hb k => mem_later_of_openedBy hcalled hn hb
        rw [hcalls', loop_of_over hover']
        exact ⟨.cons hc .nil, hc.same.left, hrest.feed_eq,
          .inr ⟨c, c', source, rfl, rfl, houtcome, rfl, rfl⟩⟩
  | case2 state t state₁ t₁ hround _ ih =>
    obtain ⟨c, hcalled⟩ := called_of_goOn hround
    obtain ⟨c', n, hcalled', hc, hn, hended, hended'⟩ :=
      called_of_restated h (Sink.interchangeable_of_healthy hout hout') hcalled
    cases houtcome : c.ending.outcome with
    | error source =>
      rw [round_of_failed hcalled houtcome] at hround
      cases hround
    | ok _ =>
      obtain ⟨hstate, ht₁⟩ :=
        Round.goOn.inj (hround.symm.trans (round_of_healthy hout hcalled houtcome))
      have hround' := round_of_healthy hout' hcalled' (hc.same.outcome.trans houtcome)
      rw [hc.same.left, ← hstate] at hround'
      -- The status lines differ, but nothing is read meanwhile.
      have hafter : Drained (n + 0) t t₁ := by
        rw [ht₁]
        exact hended.trans (Transport.drained_writeMessage _ _)
      have hafter' := hended'.trans (Transport.drained_writeMessage
        (.status c'.message.action) c'.ending.transport)
      have hhealthy := keeps_round Transport.frame_healthy p state t hout
      have hhealthy' := keeps_round Transport.frame_healthy p state t' hout'
      rw [hround, Round.transport] at hhealthy
      rw [hround', Round.transport] at hhealthy'
      rw [calls_of_goOn hcalled hround] at h ⊢
      rw [calls_of_goOn hcalled' hround', loop_of_goOn hround']
      have hrest := h.drained hafter hafter' fun b hb k => mem_later_of_openedBy hcalled hn hb
      exact (ih hrest hhealthy hhealthy').cons hc hafter hafter'

/-- Two sessions that are told the same, only that one of them is now and then told it in the words
    of older daemons: they make the same calls with the same requests and answers, leave the same
    state, read as far, and end alike.  Each puts out the requests of its calls and the status lines
    for its own messages, so that an old notice is acknowledged as such; and an error of its
    callback is put down to it.

    The outputs are healthy because a stream that breaks off after so many bytes would tell a status
    line from the longer one in its place. -/
theorem run_of_restated (p : Processor σ) (state : σ) (t t' : Transport)
    (h : Restated (calls p state t) t t') (hout : t.output.policy.Healthy)
    (hout' : t'.output.policy.Healthy) :
    EndsAlike t t' (calls p state t) (calls p state t') (run p state t) (run p state t') ∧
      outputOf (run p state t).transport = outputOf t ++ (calls p state t).flatMap Call.output ∧
      outputOf (run p state t').transport =
        outputOf t' ++ (calls p state t').flatMap Call.output := by
  obtain ⟨hcalls, hstate, hleft, houtcome⟩ := loop_of_restated p state h hout hout'
  refine ⟨⟨hcalls, ?_, ?_, ?_⟩, outputOf_run p state hout, outputOf_run p state hout'⟩
  · rw [state_run, state_run]
    exact hstate
  · rw [(silent_run p state t).input, (silent_run p state t').input]
    exact hleft
  · rw [outcome_run, outcome_run]
    exact houtcome

/-- The notice of older daemons that the shard is at its end. -/
def terminateText : String := "\x7b\"action\":\"shutdown\",\"reason\":\"TERMINATE\"\x7d"

theorem ofLine_terminate :
    Message.ofLine (Text.Utf8.bytesOf terminateText) = .ok (.shutdown .terminate) :=
  (Message.ofLine_of_text (by cbv)).trans (by cbv : Message.decode terminateText = _)

/-- Streams that bring this notice, and then the answer to the request that is made. -/
def terminating : Transport :=
  { shardAtEnd with input := .ofBytes ([terminateText, recordedText].flatMap Transport.lineBytes) }

theorem feed_terminating : terminating.input.feed =
    ⟨[Text.Utf8.bytesOf terminateText, Text.Utf8.bytesOf recordedText], none⟩ := by cbv

theorem feed_shardAtEnd : shardAtEnd.input.feed =
    ⟨[Text.Utf8.bytesOf shardEndedText, Text.Utf8.bytesOf recordedText], none⟩ := by cbv

/-- The notice opens a call, and says what the newer message says in its place. -/
theorem restated_terminating :
    Restated (calls careful () terminating) terminating shardAtEnd := by
  obtain ⟨handle, hcalled, -⟩ := called_of_line careful () (congrArg Feed.lines feed_terminating)
    ofLine_terminate rfl
  refine ⟨?_, ?_, ?_⟩
  · rw [feed_terminating, feed_shardAtEnd, List.length_cons, List.length_cons, List.length_cons,
      List.length_cons]
  · rw [feed_terminating, feed_shardAtEnd]
  · intro k line line' hline hline'
    rw [feed_terminating] at hline
    rw [feed_shardAtEnd] at hline'
    rcases k with _ | _ | k
    · obtain rfl := Option.some.inj hline
      obtain rfl := Option.some.inj hline'
      exact .inr ⟨⟨_, _, ofLine_terminate, ofLine_shardEnded, rfl⟩, _, mem_calls_of_called hcalled,
        Call.openedBy_of_called hcalled⟩
    · obtain rfl := Option.some.inj hline
      obtain rfl := Option.some.inj hline'
      exact .inl rfl
    · cases hline

/-- Both sessions make the one call, in which the position is recorded. -/
theorem run_of_restated_terminating :
    Restated (calls careful () terminating) terminating shardAtEnd ∧
      List.Forall₂ (Call.Restated terminating shardAtEnd) (calls careful () terminating)
        (calls careful () shardAtEnd) := by
  refine ⟨restated_terminating, ?_⟩
  exact (run_of_restated careful () terminating shardAtEnd restated_terminating
    Sink.healthy_healthy Sink.healthy_healthy).1.calls

end Session

end ShardBridge
