/-
  ShardBridge.Proofs.Session.Torn

  An input that is cut somewhere, against the whole of it, in which every line
  is a message.  The cut leaves the messages before it, and of the line in which
  it falls a fragment (`Session.lines_of_cut`).  A session does on the torn
  input what it does on the whole one, up to the fragment; the fragment, if it
  has lost the end of its message, is neither handled as a message nor taken
  for an answer, and a session that reads it fails (`Session.run_of_torn`).
-/
import ShardBridge.Proofs.Message.Tearing
import ShardBridge.Proofs.Session.Abreast
import ShardBridge.Proofs.Stream.Cutting

namespace ShardBridge

open Input (content fragment isBlankLine lineOf linesOf lostAt whole)
open Transport (Frame Later Level Silent Took)

/-- The messages that an input brings. -/
def Input.messages (i : Input) : List Message :=
  i.lines.filterMap fun line => (Message.ofLine line).toOption

/-! ## What a cut leaves -/

/-- The lines are the same message. -/
def SameMessage (l l' : Line) : Prop := ∃ m, Message.ofLine l = .ok m ∧ Message.ofLine l' = .ok m

/-- What is left of a line is not read as anything. -/
def Lost (last : Option Line) : Prop := ∀ g ∈ last, ∃ e, Message.ofLine g = .error e ∧ e.Unreadable

theorem lost_none : Lost none := fun _ hg => by cases hg

/-- A cut leaves the messages before it, and at most a fragment after them that is no message: there
    is one if it is not blank and has lost the end of its message. -/
theorem lines_of_cut {bytes : List UInt8} (n : Nat)
    (hall : ∀ line ∈ linesOf bytes, ∃ m, Message.ofLine line = .ok m) :
    ∃ before before' later last, linesOf bytes = before ++ later ∧
      linesOf (bytes.take n) = before' ++ last.toList ∧ List.Forall₂ SameMessage before before' ∧
      Lost last ∧ (closingBrace ∈ lostAt n bytes → isBlankLine (fragment (bytes.take n)) = false →
        last = some (content (fragment (bytes.take n)))) := by
  obtain ⟨later, hlines⟩ := Input.linesOf_of_cut n bytes
  have htorn := Input.linesOf_take n bytes
  generalize linesOf (whole (bytes.take n)) = intact at hlines htorn
  generalize fragment (bytes.take n) = left at hlines htorn ⊢
  have hintact : List.Forall₂ SameMessage intact intact := by
    rw [List.forall₂_same]
    intro line hline
    obtain ⟨m, hm⟩ := hall line (by rw [hlines]; exact List.mem_append_left _ hline)
    exact ⟨m, hm, hm⟩
  cases hblank : isBlankLine left with
  | true =>
    refine ⟨intact, intact, _, none, hlines, ?_, hintact, lost_none, ?_⟩
    · rw [htorn, lineOf, if_pos hblank]
      rfl
    · intro _ hnot
      cases hnot
  | false =>
    have hblank' : isBlankLine (left ++ lostAt n bytes) = false := by
      rw [← Bool.not_eq_true] at hblank ⊢
      exact fun h => hblank (Input.isBlankLine_of_append h)
    rw [lineOf, hblank', if_neg Bool.false_ne_true] at hlines
    rw [lineOf, hblank, if_neg Bool.false_ne_true] at htorn
    obtain ⟨lost, hcontent, hlost⟩ := Input.content_append left (lostAt n bytes)
    obtain ⟨m, hm⟩ := hall (content (left ++ lostAt n bytes)) (by simp [hlines])
    rw [hcontent] at hm
    by_cases hbrace : closingBrace ∈ lostAt n bytes
    · -- The end of the message is lost.
      have hunread := Message.ofLine_of_torn hm ((hlost _ (by decide)).2 hbrace)
      refine ⟨intact, intact, _, some (content left), hlines, htorn, hintact, ?_, fun _ _ => rfl⟩
      rintro g ⟨⟩
      exact hunread
    · have hkept := Message.ofLine_of_trimmed hm fun h => hbrace ((hlost _ (by decide)).1 h)
      refine ⟨intact ++ [content (left ++ lostAt n bytes)], intact ++ [content left], later, none,
        ?_, ?_, ?_, lost_none, fun h => absurd h hbrace⟩
      · rw [hlines, List.append_assoc]
      · rw [htorn]
        exact (List.append_nil _).symm
      · refine List.rel_append hintact (.cons ⟨m, ?_, hkept⟩ .nil)
        rw [hcontent]
        exact hm

/-- The second input brings the same messages as the first one, then what is left of a line, and
    then it ends. -/
def tornAt (last : Option Line) : Parting where
  same := SameMessage
  parted _ f' := f' = ⟨last.toList, none⟩
  ofLine_eq := fun ⟨_, hm, hm'⟩ => hm'.trans hm.symm

theorem agree_tornAt {last : Option Line} {before before' : List Line}
    (h : List.Forall₂ SameMessage before before') (later : List Line)
    (failure : Option StreamFailure) :
    (tornAt last).Agree before'.length ⟨before ++ later, failure⟩
      ⟨before' ++ last.toList, none⟩ := by
  induction h with
  | nil => exact rfl
  | @cons l l' _ _ hsame _ ih => exact ⟨l, l', rfl, rfl, hsame, ih⟩

/-- As long as the inputs agree, what is left of the line is still to be read. -/
theorem lines_of_agree {last : Option Line} {n : Nat} {f f' : Feed}
    (h : (tornAt last).Agree n f f') : ∃ before, f'.lines = before ++ last.toList := by
  induction n generalizing f f' with
  | zero => exact ⟨[], congrArg Feed.lines h⟩
  | succ n ih =>
    obtain ⟨l, l', -, hl', -, hrest⟩ := h
    obtain ⟨before, hbefore⟩ := ih hrest
    exact ⟨l' :: before, by rw [hl', hbefore]; rfl⟩

theorem length_messages {i : Input} {before before' : List Line} {last : Option Line}
    (hlines : i.lines = before' ++ last.toList) (hbefore : List.Forall₂ SameMessage before before')
    (hlost : Lost last) : i.messages.length = before'.length := by
  have hnone : last.toList.filterMap (fun line => (Message.ofLine line).toOption) = [] := by
    cases last with
    | none => rfl
    | some g =>
      obtain ⟨e, he, -⟩ := hlost g rfl
      simp [he, Except.toOption]
  rw [Input.messages, hlines, List.filterMap_append, hnone, List.append_nil]
  clear hlines hnone
  induction hbefore with
  | nil => rfl
  | cons hsame _ ih =>
    obtain ⟨m, -, hm⟩ := hsame
    rw [List.filterMap_cons, hm, Except.toOption, List.length_cons, ih, List.length_cons]

namespace Session

variable {σ : Type} {p : Processor σ} {state : σ} {t : Transport} {i : Input} {n : Nat}

/-- The torn input goes along with the whole one up to what is left of the line. -/
theorem abreast_of_torn (hends : t.input.failure = none) (hends' : i.failure = none)
    (hcut : i.pending = t.input.pending.take n)
    (hall : ∀ line ∈ t.input.lines, ∃ m, Message.ofLine line = .ok m) :
    ∃ last, Abreast (tornAt last) (t.reads + i.messages.length) t { t with input := i } ∧
      Lost last ∧ (closingBrace ∈ lostAt n t.input.pending →
        isBlankLine (fragment i.pending) = false → last = some (content (fragment i.pending))) := by
  obtain ⟨before, before', later, last, hlines, hlines', hsame, hlost, hlast⟩ := lines_of_cut n hall
  rw [← hcut] at hlines' hlast
  refine ⟨last, ⟨⟨rfl, rfl⟩, before'.length, ?_, ?_⟩, hlost, hlast⟩
  · rw [length_messages hlines' hsame hlost]
  · show (tornAt last).Agree before'.length t.input.feed i.feed
    rw [Input.feed_of_ends hends, Input.feed_of_ends hends', Input.lines, Input.lines, hlines,
      hlines']
    exact agree_tornAt hsame later none

/-! ## Where the inputs part -/

/-- What a request finds in place of a line of which the end is lost, or at the end of the input. -/
theorem answer_of_lost {last : Option Line} (h : Lost last) :
    ∃ failure, (⟨last.toList, none⟩ : Feed).answer = .error failure ∧
      ∀ g, last = some g → ∃ e, failure = .malformed e ∧ e.Unreadable := by
  cases last with
  | none =>
    refine ⟨.closedDuringCheckpoint, rfl, ?_⟩
    intro g hg
    cases hg
  | some g =>
    obtain ⟨e, he, hunread⟩ := h g rfl
    refine ⟨.malformed e, ?_, fun _ _ => ⟨e, rfl, hunread⟩⟩
    have hlines : (⟨[g], none⟩ : Feed).lines = g :: [] := rfl
    rw [Option.toList_some, Feed.answer_of_line hlines, CheckpointAnswer.ofLines, he]

/-- A session that finds such a line where a message should be is over, and so is one that finds the
    end of the input. -/
theorem loop_of_lost {last : Option Line} (p : Processor σ) (state : σ) (h : Lost last)
    (hfeed : t.input.feed = ⟨last.toList, none⟩) :
    ∃ outcome u, loop p state t = ⟨state, outcome, u⟩ ∧ calls p state t = [] ∧ Took t u ∧
      ∀ g, last = some g → ∃ e, outcome = .error (.malformed e) ∧ e.Unreadable := by
  cases last with
  | none =>
    obtain ⟨u, hloop, hcalls, htook⟩ := loop_of_no_line p state (congrArg Feed.lines hfeed)
    refine ⟨_, u, hloop, hcalls, htook, ?_⟩
    intro g hg
    cases hg
  | some g =>
    obtain ⟨e, he, hunread⟩ := h g rfl
    obtain ⟨u, hloop, hcalls, htook⟩ := loop_of_bad_line p state (congrArg Feed.lines hfeed) he
    exact ⟨_, u, hloop, hcalls, htook, fun _ _ => ⟨e, rfl, hunread⟩⟩

/-- From where the sessions stop going together, that on the torn input puts out no more than that
    on the whole one, and makes the same calls up to the last read that both have; if it reads what
    is left of a line, it fails. -/
theorem loop_of_stops {last : Option Line} {N : Nat} {t' : Transport} (hp : p.PassesOn)
    (hlost : Lost last) (h : Stops (tornAt last) N p state t t') :
    outputOf (loop p state t').transport <+: outputOf (loop p state t).transport ∧
      (∃ before after, calls p state t = before ++ after ∧
        (calls p state t').map Call.view = before.map Call.view ∧
        (∀ c ∈ before, c.handle.reads ≤ N) ∧ ∀ c ∈ after, N < c.handle.reads) ∧
      ∀ g, last = some g → (loop p state t').transport.input.feed.lines = [] →
        ∃ e, (loop p state t').outcome = .error (.malformed e) ∧ e.Unreadable := by
  cases h with
  | parted hlevel hreads hparted =>
    -- The torn session makes no further call; the other one may go on, but only later.
    obtain ⟨outcome, u, hloop, hcalls, htook, hread⟩ := loop_of_lost p state hlost hparted
    rw [hloop, hcalls]
    refine ⟨?_, ⟨[], calls p state t, rfl, rfl, List.forall_mem_nil _, ?_⟩, ?_⟩
    · rw [outputOf_took htook, outputOf_level hlevel]
      exact outputOf_later (keeps_loop Transport.frame_later p state t)
    · intro c hc
      rw [← hreads]
      exact reads_lt_of_mem_calls hc
    · intro g hg _
      exact hread g hg
  | @parts c c' hcalled hcalled' hview hab q q' hq hq' hparts =>
    -- The torn session ends with this call, which the other one makes as well.
    obtain ⟨failure, hanswer, hread⟩ := answer_of_lost hlost
    have hfailed : q'.outcome = .error failure := by
      rw [Request.outcome, (Transport.exchange_of_sent hparts.sent').1, hparts.parted, hanswer]
    obtain ⟨hloop, hsilent, hcalls, -⟩ := loop_of_error hp hcalled' hq' hfailed
    obtain ⟨rest, hrest, hlater⟩ := calls_of_called hcalled
    have hafter := (Call.keeps_request Transport.frame_later hq).2
    rw [hloop, hcalls]
    refine ⟨?_, ⟨[c], rest, hrest, ?_, ?_, ?_⟩, ?_⟩
    · rw [outputOf_silent hsilent, outputOf_level hparts.after]
      exact (outputOf_later hafter).trans
        (outputOf_later (keeps_after_called Transport.frame_later hcalled))
    · rw [List.map_singleton, List.map_singleton, hview]
    · intro b hb
      rw [List.mem_singleton.1 hb]
      exact hab.reads_le
    · intro b hb
      have hlt := hlater b hb
      have hle := hafter.reads_le
      rw [hparts.reads] at hle
      omega
    · intro g hg _
      obtain ⟨e, rfl, hunread⟩ := hread g hg
      exact ⟨e, rfl, hunread⟩
  | fails hround hround' hcalls hab hexact =>
    rw [loop_of_over hround, loop_of_over hround', calls_of_over hround, calls_of_over hround']
    refine ⟨?_, ⟨_, [], (List.append_nil _).symm, view_of_alike hcalls, reads_le_of_alike hcalls,
      List.forall_mem_nil _⟩, ?_⟩
    · rw [outputOf_level hab.level]
    · -- What is left of the line is still to be read.
      intro g hg hnil
      obtain ⟨n, -, hagree⟩ := hab.agree
      obtain ⟨before, hbefore⟩ := lines_of_agree hagree
      rw [hg, hnil] at hbefore
      simp at hbefore

/-! ## What is left of the line -/

theorem getLast_of_suffix {before rest : List Line} {line g : Line}
    (h : line :: rest <:+ before ++ [g]) (hne : line ≠ g) : rest.getLast? = some g := by
  obtain ⟨init, hinit⟩ := h
  have hlast : (init ++ line :: rest).getLast? = some g := by
    rw [hinit, List.getLast?_concat]
  rw [List.getLast?_append_cons] at hlast
  cases rest with
  | nil => exact absurd (Option.some.inj hlast) hne
  | cons line' rest => exact hlast

/-- The last line of an input, if it is no message, is neither handled nor taken for an answer: it
    is still to be read whenever a callback starts, and whenever a request has an answer. -/
theorem unread_of_lost {before : List Line} {g : Line} {e : MalformedLine} (p : Processor σ)
    (state : σ) (hlines : t.input.feed.lines = before ++ [g]) (he : Message.ofLine g = .error e) :
    (∀ c ∈ calls p state t, c.handle.input.feed.lines.getLast? = some g) ∧
      ∀ q ∈ requests p state t, ∀ a, q.outcome = .ok a →
        q.after.input.feed.lines.getLast? = some g := by
  have hne : ∀ {line m}, Message.ofLine line = .ok m → line ≠ g := by
    rintro line m hm rfl
    rw [he] at hm
    cases hm
  refine ⟨fun c hc => ?_, fun q hq a ha => ?_⟩
  · obtain ⟨_, state₁, t₁, hcomes, hcalled⟩ := exists_called hc
    obtain ⟨-, -, ⟨line, rest, hopens, hm⟩, htook⟩ := of_called hcalled
    have hsuffix := hcomes.keeps Transport.frame_unread
    rw [hopens, hlines] at hsuffix
    rw [htook.feed, Feed.rest, hopens]
    exact getLast_of_suffix hsuffix (hne hm)
  · obtain ⟨line, m, hanswer, hm⟩ := Request.of_answered ha
    have hsuffix := (keeps_of_mem_requests Transport.frame_unread hq).1
    rw [hanswer, hlines] at hsuffix
    exact getLast_of_suffix hsuffix (hne hm)

/-- A torn input is never acted upon.

    When every callback passes errors on, and every line of the whole input is a message, the
    session on the input that is cut puts out a beginning of what the session on the whole one puts
    out, and makes the same calls up to the cut: those that are opened by the reads that bring the
    messages before it.

    What is left of the line in which the cut falls is not acted upon, if it has lost the closing
    bracket of its message and is not blank.  It is still the last line to be read whenever a
    callback starts, and whenever a request has an answer; and a session that reads it fails,
    because it is not text or not JSON. -/
theorem run_of_torn (p : Processor σ) (hp : p.PassesOn) (state : σ) (t : Transport) (i : Input)
    (n : Nat) (hends : t.input.failure = none) (hends' : i.failure = none)
    (hcut : i.pending = t.input.pending.take n)
    (hall : ∀ line ∈ t.input.lines, ∃ m, Message.ofLine line = .ok m) :
    let torn : Transport := { t with input := i }
    let cut := t.reads + i.messages.length
    let left := content (fragment i.pending)
    outputOf (run p state torn).transport <+: outputOf (run p state t).transport ∧
      (∃ before after, calls p state t = before ++ after ∧
        (calls p state torn).map Call.view = before.map Call.view ∧
        (∀ c ∈ before, c.handle.reads ≤ cut) ∧ ∀ c ∈ after, cut < c.handle.reads) ∧
      (closingBrace ∈ lostAt n t.input.pending → isBlankLine (fragment i.pending) = false →
        (∀ c ∈ calls p state torn, c.handle.input.feed.lines.getLast? = some left) ∧
        (∀ q ∈ requests p state torn, ∀ a, q.outcome = .ok a →
          q.after.input.feed.lines.getLast? = some left) ∧
        ((run p state torn).transport.input.feed.lines = [] →
          ∃ e, (run p state torn).outcome = .error (.malformed e) ∧ e.Unreadable)) := by
  intro torn cut left
  obtain ⟨last, hab, hlost, hlast⟩ := abreast_of_torn hends hends' hcut hall
  -- The same calls up to where the sessions stop going together, and from there by the cases.
  obtain ⟨cs, cs', state₁, t₁, t₁', hcomes, hcomes', halike, hstops⟩ := exists_stops p state hab
  obtain ⟨houtput, ⟨before, after, hcalls, hviews, hbefore, hafter⟩, hread⟩ :=
    loop_of_stops hp hlost hstops
  obtain ⟨-, hsilent⟩ := run_of_comes hcomes
  obtain ⟨houtcome, hsilent'⟩ := run_of_comes hcomes'
  refine ⟨?_, ⟨cs ++ before, after, ?_, ?_, ?_, hafter⟩, ?_⟩
  · rw [outputOf_silent hsilent, outputOf_silent hsilent']
    exact houtput
  · rw [hcomes.calls, hcalls, List.append_assoc]
  · rw [hcomes'.calls, List.map_append, List.map_append, hviews, view_of_alike halike]
  · intro c hc
    rcases List.mem_append.1 hc with hc | hc
    · exact reads_le_of_alike halike c hc
    · exact hbefore c hc
  · intro hbrace hblank
    have hleft : last = some left := hlast hbrace hblank
    obtain ⟨e, he, -⟩ := hlost left hleft
    obtain ⟨m, -, hagree⟩ := hab.agree
    obtain ⟨whole, hwhole⟩ := lines_of_agree hagree
    rw [hleft] at hwhole
    obtain ⟨hcalled, hanswered⟩ := unread_of_lost (t := torn) p state hwhole he
    refine ⟨hcalled, hanswered, fun hnil => ?_⟩
    rw [hsilent'.input] at hnil
    rw [houtcome]
    exact hread left hleft hnil

/-- The announcement that the shard is at its end, and the answer to the request that is made
    then. -/
def answered : Transport :=
  { unanswered with
    input := .ofBytes ([shardEndedText, recordedText].flatMap Transport.lineBytes) }

/-- The same, broken off within the answer. -/
def answeredInPart : Transport :=
  { answered with input := .ofBytes (answered.input.pending.take 30) }

/-- What is left of the answer. -/
def answerInPart : String := "\x7b\"acti"

theorem lines_answered : answered.input.lines =
    [Text.Utf8.bytesOf shardEndedText, Text.Utf8.bytesOf recordedText] := by cbv

theorem feed_answeredInPart : answeredInPart.input.feed =
    ⟨[Text.Utf8.bytesOf shardEndedText, Text.Utf8.bytesOf answerInPart], none⟩ := by cbv

theorem ofLine_answerInPart :
    ∃ e, Message.ofLine (Text.Utf8.bytesOf answerInPart) = .error e :=
  ⟨_, (Message.ofLine_of_text (by cbv)).trans (by cbv : Message.decode answerInPart = _)⟩

/-- The request reads what is left of its answer, and nothing is read after it. -/
theorem feed_run_answeredInPart :
    (run careful () answeredInPart).transport.input.feed = ⟨[], none⟩ := by
  obtain ⟨e, he⟩ := ofLine_answerInPart
  obtain ⟨q, hq, hsent, hrest⟩ := request_of_line careful () feed_answeredInPart
    ofLine_shardEnded rfl Sink.healthy_healthy
  have hbreaks : q.Breaks (.malformed e) := by
    refine .undecodable hsent ?_ he
    rw [q.handle.input.nextLine_feed.1, hrest]
    rfl
  have hsilent := (run_of_error careful_passesOn hq (Request.outcome_of_breaks hbreaks)).2.1
  rw [hsilent.input, Request.feed_after hsent, hrest]
  rfl

/-- The session that reads what is left of the answer fails, and has put out no more than the one
    that gets the answer. -/
theorem run_of_torn_answeredInPart :
    outputOf (run careful () answeredInPart).transport <+:
        outputOf (run careful () answered).transport ∧
      ∃ e, (run careful () answeredInPart).outcome = .error (.malformed e) ∧ e.Unreadable := by
  have hall : ∀ line ∈ answered.input.lines, ∃ m, Message.ofLine line = .ok m := by
    rw [lines_answered]
    exact List.forall_mem_cons.2 ⟨⟨_, ofLine_shardEnded⟩,
      List.forall_mem_singleton.2 ⟨_, ofLine_recorded⟩⟩
  have hcut : answeredInPart.input.pending = answered.input.pending.take 30 := by cbv
  have hbrace : (lostAt 30 answered.input.pending).contains closingBrace = true := by cbv
  have hblank : isBlankLine (fragment answeredInPart.input.pending) = false := by cbv
  obtain ⟨houtput, -, hlost⟩ := run_of_torn careful careful_passesOn () answered
    answeredInPart.input 30 rfl rfl hcut hall
  have hread := (hlost (List.contains_iff_mem.1 hbrace) hblank).2.2
  exact ⟨houtput, hread (congrArg Feed.lines feed_run_answeredInPart)⟩

end Session

end ShardBridge
