/-
  ShardBridge.Proofs.Session.Report

  The report on what ended a session.  It has one line for the error and one for
  every error that led to it, down to the root, and a stream that takes
  everything is flushed after each of them (`Transport.report_lines`).

    * `ErrorLink.Descends l ls` -- the links behind a link are these, the nearest
      first;
    * `Trail.wordings locate trail` -- the words for the errors behind the failure
      of a stream;
    * `Flattens entry line` -- the line is the entry with a blank in the place of
      each line end;
    * `Journal.Diagnosed lines es` -- the lines went to the diagnostics one by
      one, each with its end and flushed before the next, and nothing else
      happened.
-/
import ShardBridge.Proofs.Transport.Lossless

namespace ShardBridge

/-! ## Chains -/

namespace ErrorLink

/-- The links behind a link: each is the source of the one before it, and the last has none. -/
inductive Descends : ErrorLink → List ErrorLink → Prop
  | root {l : ErrorLink} (h : l.source? = none) : Descends l []
  | link {l l' : ErrorLink} {ls : List ErrorLink} (h : l.source? = some l')
    (hrest : Descends l' ls) : Descends l (l' :: ls)

variable {l l' : ErrorLink} {ls : List ErrorLink}

theorem sources_of_root (h : l.source? = none) : l.sources = [] := by
  rw [sources]
  split
  · next heq =>
    rw [h] at heq
    cases heq
  · rfl

theorem sources_of_link (h : l.source? = some l') : l.sources = l' :: l'.sources := by
  rw [sources]
  split
  · next heq =>
    rw [h] at heq
    obtain rfl := Option.some.inj heq
    rfl
  · next heq =>
    rw [h] at heq
    cases heq

/-- The walk from source to source meets each of them, and ends at the root. -/
theorem descends_sources (l : ErrorLink) : l.Descends l.sources := by
  -- Every link is nearer to the root than the one it led to.
  induction hheight : l.height using Nat.strongRecOn generalizing l with
  | _ n ih =>
    cases hsource : l.source? with
    | none =>
      rw [sources_of_root hsource]
      exact .root hsource
    | some l' =>
      have hlt : l'.height < n := hheight ▸ height_lt_of_source? hsource
      rw [sources_of_link hsource]
      exact .link hsource (ih l'.height hlt l' rfl)

theorem Descends.of_root (h : l.Descends ls) (hsource : l.source? = none) : ls = [] := by
  cases h with
  | root _ => rfl
  | link hsome _ =>
    rw [hsource] at hsome
    cases hsome

theorem Descends.of_link (h : l.Descends ls) (hsource : l.source? = some l') :
    ∃ rest, ls = l' :: rest ∧ l'.Descends rest := by
  cases h with
  | root hnone =>
    rw [hsource] at hnone
    cases hnone
  | link hsome hrest =>
    rw [hsource] at hsome
    obtain rfl := Option.some.inj hsome
    exact ⟨_, rfl, hrest⟩

theorem Descends.unique {ls' : List ErrorLink} (h : l.Descends ls) (h' : l.Descends ls') :
    ls = ls' := by
  induction h generalizing ls' with
  | root hnone => rw [h'.of_root hnone]
  | link hsome _ ih =>
    obtain ⟨rest, rfl, hrest⟩ := h'.of_link hsome
    rw [ih hrest]

/-- In the chain of a link, what comes after a later link is the chain of that one. -/
theorem Descends.after {before after : List ErrorLink} (h : l.Descends ls)
    (hsplit : l :: ls = before ++ l' :: after) : l'.Descends after := by
  induction before generalizing l ls with
  | nil =>
    obtain ⟨rfl, rfl⟩ := List.cons.inj hsplit
    exact h
  | cons first before ih =>
    obtain ⟨-, hls⟩ := List.cons.inj hsplit
    cases h with
    | root _ => simp at hls
    | link _ hrest => exact ih hrest hls

/-- The link is the malformed line: what ended the session, what a callback reports, or what a
    callback reports because it ended a handshake. -/
inductive Tells : ErrorLink → MalformedLine → Prop
  | ending (m : MalformedLine) : Tells (.session (.malformed m)) m
  | reported (m : MalformedLine) : Tells (.processor (.malformed m)) m
  | passedOn (m : MalformedLine) : Tells (.processor (.session (.malformed m))) m

variable {locate : Locator}

theorem Tells.message_eq {m : MalformedLine} (h : l.Tells m) :
    l.message locate = m.message locate := by
  cases h with
  | ending => rfl
  | reported => rfl
  | passedOn => rfl

theorem Tells.source?_eq {m : MalformedLine} (h : l.Tells m) : l.source? = some (.cause m) := by
  cases h with
  | ending => rw [source?]
  | reported => rw [source?]
  | passedOn => rw [source?, source?]

end ErrorLink

/-- The words for the cause of a malformed line and, if a reader stopped there, for its error. -/
def MalformedLine.behind (locate : Locator) (m : MalformedLine) : List String :=
  m.cause.message (locate m) :: (m.cause.reason?.map (·.message (locate m))).toList

/-- The words for the errors behind the failure of a stream, the nearest first. -/
def Trail.wordings (locate : Locator) : Trail → List String
  | .root => []
  | .error text behind => text :: behind.wordings locate
  | .malformed m => m.message locate :: m.behind locate

namespace ErrorLink

variable {l : ErrorLink} {ls : List ErrorLink} {locate : Locator}

/-- Behind the cause of a malformed line stands the error of the reader that stopped, if one did. -/
theorem Descends.cause_eq {m : MalformedLine} (h : (ErrorLink.cause m).Descends ls) :
    ls.map (message locate) = (m.cause.reason?.map (·.message (locate m))).toList := by
  have hsource : (ErrorLink.cause m).source? = m.cause.reason?.map fun r => .reason r m := by
    rw [source?]
  cases hreason : m.cause.reason? with
  | none =>
    rw [hreason] at hsource
    rw [h.of_root hsource]
    rfl
  | some r =>
    rw [hreason] at hsource
    obtain ⟨rest, rfl, hrest⟩ := h.of_link hsource
    rw [hrest.of_root (by rw [source?])]
    rfl

/-- A malformed line is told once, and after it come its cause and the error of the reader. -/
theorem Descends.malformed_eq {m : MalformedLine} (h : l.Descends ls) (hm : l.Tells m) :
    ls.map (message locate) = m.behind locate := by
  obtain ⟨rest, rfl, hrest⟩ := h.of_link hm.source?_eq
  rw [List.map_cons, hrest.cause_eq]
  rfl

/-- After the failure of a stream comes every error of its trail. -/
theorem Descends.words_eq {text : String} {trail : Trail}
    (h : (ErrorLink.words text trail).Descends ls) :
    ls.map (message locate) = trail.wordings locate := by
  have hsource : (ErrorLink.words text trail).source? = trail.link? := by rw [source?]
  -- Along the trail. A malformed line ends it, and goes on as such a line does anywhere.
  induction trail generalizing text ls with
  | root =>
    rw [h.of_root hsource]
    rfl
  | error text' behind ih =>
    obtain ⟨rest, rfl, hrest⟩ := h.of_link hsource
    rw [List.map_cons, ih hrest (by rw [source?])]
    rfl
  | malformed m =>
    obtain ⟨rest, rfl, hrest⟩ := h.of_link hsource
    rw [List.map_cons, hrest.malformed_eq (.reported m)]
    rfl

end ErrorLink

/-! ## Lines -/

/-- The line is the entry, with a blank in the place of each line feed and carriage return. -/
def Flattens (entry line : String) : Prop :=
  List.Forall₂ (fun c d => (if c = '\n' ∨ c = '\r' then ' ' else c) = d) entry.toList line.toList

namespace Transport

theorem flattens_iff {entry line : String} : Flattens entry line ↔ line = flatten entry := by
  have hchar : (fun c => if breaksLine c then ' ' else c) =
      fun c => if c = '\n' ∨ c = '\r' then ' ' else c := by
    funext c
    simp [breaksLine]
  rw [Flattens, ← List.forall₂_map_left_iff, List.forall₂_eq_eq_eq, flatten, hchar,
    ← String.toList_inj, String.toList_ofList]
  exact eq_comm

theorem forall₂_flattens_iff {entries lines : List String} :
    List.Forall₂ Flattens entries lines ↔ lines = entries.map flatten := by
  have hflattens : Flattens = fun entry line => flatten entry = line := by
    funext entry line
    rw [flattens_iff]
    exact propext eq_comm
  rw [hflattens, ← List.forall₂_map_left_iff, List.forall₂_eq_eq_eq, eq_comm]

theorem breaks_flatten (entry : String) : breaks (flatten entry) = false := by
  rw [breaks, flatten, String.toList_ofList, List.any_eq_false]
  intro d hd
  obtain ⟨c, -, rfl⟩ := List.mem_map.1 hd
  -- What stands in the place of a line end is a blank, and everything else was none.
  by_cases hc : breaksLine c = true
  · rw [if_pos hc]
    decide
  · rwa [if_neg hc]

end Transport

/-! ## Writing -/

namespace Journal

open Transport (lineBytes)

/-- The lines went to the diagnostics one by one: the bytes of each with its end, in one piece or in
    several, and then a flush. Nothing else happened. -/
inductive Diagnosed : List String → List Event → Prop
  | nil : Diagnosed [] []
  | line {line : String} {lines : List String} {pieces : List (List UInt8)} {es : List Event}
    (hbytes : pieces.flatten = lineBytes line) (hrest : Diagnosed lines es) :
    Diagnosed (line :: lines) (pieces.map (.wrote .diagnostics) ++ .flushed .diagnostics :: es)

end Journal

namespace Transport

open Journal (Diagnosed)

variable {c : Channel} {t : Transport}

theorem journal_withSink (t : Transport) (c : Channel) (s : Sink) :
    (t.withSink c s).journal = t.journal := by
  cases c <;> rfl

theorem journal_record (t : Transport) (e : Event) :
    (t.record e).journal.toList = t.journal.toList ++ [e] :=
  Array.toList_push

/-- Bytes go out in pieces, with nothing between them, and make up what was to be written when the
    writing goes well. -/
theorem writeAll_pieces (c : Channel) (bytes : List UInt8) (t : Transport) :
    ∃ pieces : List (List UInt8),
      (t.writeAll c bytes).2.journal.toList = t.journal.toList ++ pieces.map (.wrote c) ∧
        ((t.writeAll c bytes).1 = .ok () → pieces.flatten = bytes) := by
  -- A failure, and a stream that takes nothing, leave the journal as it is.
  fun_induction writeAll c bytes t with
  | case1 t => exact ⟨[], (List.append_nil _).symm, fun _ => rfl⟩
  | case2 t b rest e s h =>
    refine ⟨[], ?_, fun hok => by cases hok⟩
    rw [journal_withSink, List.map_nil, List.append_nil]
  | case3 t b rest s h =>
    refine ⟨[], ?_, fun hok => by cases hok⟩
    rw [journal_withSink, List.map_nil, List.append_nil]
  | case4 t b rest x taken s h ih =>
    obtain ⟨pieces, hjournal, hall⟩ := ih
    refine ⟨(x :: taken) :: pieces, ?_, fun hok => ?_⟩
    · rw [hjournal, journal_record, journal_withSink, List.append_assoc, List.map_cons]
      rfl
    · rw [List.flatten_cons, hall hok]
      exact taken_append_drop h

theorem flush_journal (h : (t.sink c).policy.Healthy) :
    (t.flush c).2.journal.toList = t.journal.toList ++ [.flushed c] := by
  have hok := flush_ok h
  rw [flush] at hok ⊢
  split
  · next heq =>
    rw [heq] at hok
    cases hok
  · rw [journal_record, journal_withSink]

/-- A healthy stream takes a line in pieces, and then it is flushed. -/
theorem sendLine_pieces (line : String) (h : (t.sink c).policy.Healthy) :
    ∃ pieces : List (List UInt8), pieces.flatten = lineBytes line ∧
      (t.sendLine c line).2.journal.toList =
        t.journal.toList ++ (pieces.map (.wrote c) ++ [.flushed c]) := by
  have hfirst := writeAll_ok (Text.Utf8.bytesOf line) h.accepting
  obtain ⟨body, hbody, hallbody⟩ := writeAll_pieces c (Text.Utf8.bytesOf line) t
  obtain ⟨done, hwrote, -, -⟩ := writeAll_wrote c (Text.Utf8.bytesOf line) t
  rw [sendLine]
  split
  · next heq =>
    rw [heq] at hfirst
    cases hfirst
  · next t₁ heq =>
    rw [heq] at hbody hallbody hwrote
    have h₁ : (t₁.sink c).policy.Healthy := hwrote.policy ▸ h
    have hsecond := writeAll_ok [Input.lineFeed] h₁.accepting
    obtain ⟨tail, htail, halltail⟩ := writeAll_pieces c [Input.lineFeed] t₁
    obtain ⟨done', hwrote', -, -⟩ := writeAll_wrote c [Input.lineFeed] t₁
    split
    · next heq' =>
      rw [heq'] at hsecond
      cases hsecond
    · next t₂ heq' =>
      rw [heq'] at htail halltail hwrote'
      have h₂ : (t₂.sink c).policy.Healthy := hwrote'.policy ▸ h₁
      refine ⟨body ++ tail, ?_, ?_⟩
      · rw [List.flatten_append, hallbody rfl, halltail rfl]
        rfl
      · rw [flush_journal h₂, htail, hbody, List.map_append, List.append_assoc, List.append_assoc,
          List.append_assoc]

/-- Entries are diagnosed one by one, each on a line of its own. -/
theorem writeDiagnostics_diagnosed (entries : List String) (h : t.diagnostics.policy.Healthy) :
    (t.writeDiagnostics entries).1 = .ok () ∧
      ∃ es, (t.writeDiagnostics entries).2.journal.toList = t.journal.toList ++ es ∧
        Diagnosed (entries.map flatten) es := by
  induction entries generalizing t with
  | nil => exact ⟨rfl, [], (List.append_nil _).symm, .nil⟩
  | cons entry entries ih =>
    have hok := @sendLine_ok .diagnostics t (flatten entry) h
    obtain ⟨pieces, hbytes, hjournal⟩ := @sendLine_pieces .diagnostics t (flatten entry) h
    obtain ⟨done, hwrote, -, -⟩ := sendLine_wrote .diagnostics (flatten entry) t
    rw [writeDiagnostics, writeDiagnostic]
    split
    · next t₁ heq =>
      rw [heq] at hjournal hwrote
      -- The stream is as healthy after the first entry as it was before it.
      have h₁ : t₁.diagnostics.policy.Healthy := by
        have hpolicy : t₁.diagnostics.policy = t.diagnostics.policy := hwrote.policy
        rwa [hpolicy]
      obtain ⟨hrest, es, hes, hdiagnosed⟩ := ih h₁
      refine ⟨hrest, pieces.map (.wrote .diagnostics) ++ .flushed .diagnostics :: es, ?_, ?_⟩
      · rw [hes, hjournal, List.append_assoc, List.append_assoc]
        rfl
      · exact .line hbytes hdiagnosed
    · next heq =>
      rw [heq] at hok
      cases hok

/-! ## The report -/

/-- The report on an error has a line for the error and one for each error behind it, down to the
    root.  On a healthy stream they are written one by one, each flushed on its own, and with a
    blank in the place of each line end within an entry.  A malformed line is told once, wherever in
    the chain it stands; what follows it is its cause and, if a reader stopped there, the error of
    the reader.  What follows the failure of a stream is all of its trail. -/
theorem report_lines (e : SessionError) (h : t.diagnostics.policy.Healthy) :
    ∃ sources lines es, (ErrorLink.session e).Descends sources ∧
      lines.length = 1 + sources.length ∧
      List.Forall₂ Flattens (("kcl bridge terminated: " ++ e.message t.locate) ::
        sources.map fun l => "caused by: " ++ l.message t.locate) lines ∧
      (∀ line ∈ lines, breaks line = false) ∧
      (t.report e).1 = .ok () ∧ (t.report e).2.journal.toList = t.journal.toList ++ es ∧
      Diagnosed lines es ∧
      (∀ before l after m, .session e :: sources = before ++ l :: after → l.Tells m →
        l.message t.locate = m.message t.locate ∧
          after.map (ErrorLink.message t.locate) = m.cause.message (t.locate m) ::
            (m.cause.reason?.map (·.message (t.locate m))).toList) ∧
      ∀ before text trail after, .session e :: sources = before ++ .words text trail :: after →
        after.map (ErrorLink.message t.locate) = trail.wordings t.locate := by
  have hchain := (ErrorLink.session e).descends_sources
  obtain ⟨hok, es, hes, hdiagnosed⟩ := writeDiagnostics_diagnosed (e.report t.locate) h
  refine ⟨(ErrorLink.session e).sources, (e.report t.locate).map flatten, es, hchain, ?_, ?_, ?_,
    hok, hes, hdiagnosed, ?_, ?_⟩
  · simp [SessionError.report, Nat.add_comm]
  · have hheading : reportHeading ++ ": " = "kcl bridge terminated: " := by decide
    rw [forall₂_flattens_iff, SessionError.report, hheading]
  · intro line hline
    obtain ⟨entry, -, rfl⟩ := List.mem_map.1 hline
    exact breaks_flatten entry
  · intro before l after m hsplit hm
    exact ⟨hm.message_eq, (hchain.after hsplit).malformed_eq hm⟩
  · intro before text trail after hsplit
    exact (hchain.after hsplit).words_eq

/-- A line that is no message, from its first character on. -/
def scrawl : MalformedLine := ⟨"x", .invalidJson (.fault .expectedValue)⟩

/-- A failure, in words of two lines, of a stream that relays another, on which such a line came. -/
def relayed : StreamFailure :=
  ⟨.other, "relay\nclosed", .error "no frame" (.malformed scrawl)⟩

/-- A callback failed, in words of two lines as well, because of that. -/
def wrapped : SessionError :=
  .processor .shardEnded (.because "no flush\r\nat shard 7" (.session (.read relayed)))

theorem descends_wrapped : (ErrorLink.session wrapped).Descends
    [.processor (.because "no flush\r\nat shard 7" (.session (.read relayed))),
      .processor (.session (.read relayed)), .words relayed.text relayed.trail,
      .words "no frame" (.malformed scrawl), .processor (.malformed scrawl), .cause scrawl,
      .reason (.json (.fault .expectedValue)) scrawl] := by
  refine .link ?_ (.link ?_ (.link ?_ (.link ?_ (.link ?_ (.link ?_ (.link ?_ (.root ?_)))))))
  · rw [wrapped, ErrorLink.source?]
  · rw [ErrorLink.source?]
  · rw [ErrorLink.source?, ErrorLink.source?]
  · rw [ErrorLink.source?]
    rfl
  · rw [ErrorLink.source?]
    rfl
  · rw [ErrorLink.source?]
  · rw [ErrorLink.source?]
    rfl
  · rw [ErrorLink.source?]

/-- All line ends are flattened, the trail of the stream is told to its end, and the line that is no
    message once. -/
theorem report_lines_wrapped :
    ∃ es, (Session.garbled.report wrapped).2.journal.toList = es ∧ Diagnosed
      ["kcl bridge terminated: record processor failed during shardEnded: no flush  at shard 7",
        "caused by: no flush  at shard 7", "caused by: failed to read from daemon: relay closed",
        "caused by: relay closed", "caused by: no frame",
        "caused by: malformed message `x`: invalid JSON: expected value at line 1 column 1",
        "caused by: invalid JSON: expected value at line 1 column 1",
        "caused by: expected value at line 1 column 1"] es := by
  obtain ⟨sources, lines, es, hchain, -, hlines, -, -, hes, hdiagnosed, -, -⟩ :=
    @report_lines Session.garbled wrapped Sink.healthy_healthy
  obtain rfl := hchain.unique descends_wrapped
  rw [forall₂_flattens_iff] at hlines
  refine ⟨es, hes, ?_⟩
  convert hdiagnosed using 1
  rw [hlines]
  decide +kernel

end Transport

end ShardBridge
