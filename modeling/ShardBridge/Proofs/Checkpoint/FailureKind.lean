/-
  ShardBridge.Proofs.Checkpoint.FailureKind

  What the kind of a failed checkpoint says about the answer.  The kind is read
  off the words of the failure, and the words for an answer that is another
  message are made here, while all other words are the daemon's.  So every
  answer that is another message is told by its kind; but a daemon whose own
  words begin with the same heading is taken for one
  (`Transport.checkpoint_kind`, `Transport.checkpoint_kind_borrowed`).
-/
import ShardBridge.Proofs.Checkpoint.Handshake

namespace ShardBridge

open CheckpointFailureKind (unexpectedResponseHeading)

/-! ## Headings -/

namespace CheckpointFailureKind

/-- A text is of this kind exactly when it begins with the heading: no other sign tells it. -/
theorem classify_eq_unexpectedResponse_iff {error : String} :
    classify error = .unexpectedResponse ↔
      unexpectedResponseHeading.toList <+: error.toList := by
  rw [classify]
  by_cases hheading : unexpectedResponseHeading.toList.isPrefixOf error.toList = true
  · rw [if_pos hheading]
    exact iff_of_true rfl (List.isPrefixOf_iff_prefix.1 hheading)
  · have hprefix : ¬ unexpectedResponseHeading.toList <+: error.toList :=
      fun h => hheading (List.isPrefixOf_iff_prefix.2 h)
    rw [if_neg hheading, iff_false_right hprefix]
    -- The signs tell the other kinds.
    cases hsign : signs.find? fun s => occursIn s.1.toList error.toList with
    | none => exact CheckpointFailureKind.noConfusion
    | some s =>
      have hsigns : ∀ s ∈ signs, s.2 ≠ .unexpectedResponse := by decide
      exact hsigns s (List.mem_of_find?_eq_some hsign)

end CheckpointFailureKind

namespace Message

/-- The words of the daemon begin with the heading for an answer that is another message. -/
inductive Borrows : Message → Prop
  | intro {c : CheckpointNotice} {error : String} (h : c.error = some error)
    (hwords : unexpectedResponseHeading.toList <+: error.toList) : Borrows (.checkpoint c)

theorem not_records_iff {m : Message} : ¬ m.Records ↔ ∃ error, m.Refuses error := by
  constructor
  · intro h
    exact m.records_or_refuses.resolve_left h
  · rintro ⟨error, h⟩ hrecords
    have hanswer := hrecords.answer
    rw [h.answer] at hanswer
    cases hanswer

/-- The words of a refusal begin with the heading when it is another message, and when the daemon
    begins its own words so. -/
theorem Refuses.heading_iff {m : Message} {error : String} (h : m.Refuses error) :
    unexpectedResponseHeading.toList <+: error.toList ↔ m.action ≠ .checkpoint ∨ m.Borrows := by
  cases h with
  | error h hne =>
    constructor
    · intro hwords
      exact .inr (.intro h hwords)
    · rintro (hother | ⟨herror, hwords⟩)
      · exact absurd rfl hother
      · rw [h] at herror
        cases herror
        exact hwords
  | other h =>
    refine iff_of_true ?_ (.inl h)
    show unexpectedResponseHeading.toList <+:
      ("unexpected response to checkpoint: " ++ _ : String).toList
    rw [String.toList_append]
    exact (by decide : unexpectedResponseHeading.toList <+:
      "unexpected response to checkpoint: ".toList).trans (List.prefix_append _ _)

end Message

namespace Transport

/-! ## The kind that the handler sees -/

variable {t : Transport} {target : CheckpointTarget} {line : Line} {m : Message}

/-- Once the request is sent, a refusal is brought to the handler in its words. -/
theorem exists_checkpoint_of_refuses {error : String} (hsent : (t.send target).1 = .ok ())
    (hnext : t.input.feed.next = .line line) (hm : Message.ofLine line = .ok m)
    (h : m.Refuses error) :
    ∃ t', ∀ handler, t.checkpoint target handler = (handler target error).run t' := by
  have hanswer : (t.exchange target).1 = .ok (.failed error) := by
    rw [(exchange_of_sent hsent).1]
    exact (Feed.Answers.failed hnext hm h).eq.symm
  refine ⟨(t.exchange target).2, fun handler => checkpoint_of_refused ?_⟩
  rw [← hanswer]

/-- Whatever line answers a request and does not say that the position is recorded, the handler is
    called with the words of the failure, and their kind says that the answer was another message
    exactly when it was, or when the daemon borrowed the heading for its own words. -/
theorem checkpoint_kind (hsent : (t.send target).1 = .ok ())
    (hnext : t.input.feed.next = .line line) (hm : Message.ofLine line = .ok m)
    (hfails : ¬ m.Records) :
    ∃ error t', m.Refuses error ∧
      (∀ handler, t.checkpoint target handler = (handler target error).run t') ∧
      (CheckpointFailureKind.classify error = .unexpectedResponse ↔
        m.action ≠ .checkpoint ∨ m.Borrows) := by
  obtain ⟨error, h⟩ := Message.not_records_iff.1 hfails
  obtain ⟨t', hcalled⟩ := exists_checkpoint_of_refuses hsent hnext hm h
  refine ⟨error, t', h, hcalled, ?_⟩
  rw [CheckpointFailureKind.classify_eq_unexpectedResponse_iff, h.heading_iff]

/-- The loss of the lease is not about the checkpoint, and its kind says so. -/
theorem checkpoint_kind_lease_lost :
    ∃ error t', Message.leaseLost.Refuses error ∧
      (∀ handler, lossAtOnce.checkpoint .lastDelivered handler =
        (handler .lastDelivered error).run t') ∧
      CheckpointFailureKind.classify error = .unexpectedResponse := by
  have hsent : (lossAtOnce.send .lastDelivered).1 = .ok () :=
    send_ok .lastDelivered Sink.healthy_healthy
  have hfails : ¬ Message.leaseLost.Records := by
    rintro ⟨⟩
  obtain ⟨error, t', h, hcalled, hkind⟩ :=
    checkpoint_kind hsent (congrArg Feed.next feed_lossAtOnce) Session.ofLine_leaseLost hfails
  exact ⟨error, t', h, hcalled, hkind.2 (.inl (by decide))⟩

/-- The words of a daemon whose table did not answer. -/
def borrowedWords : String := "unexpected response to checkpoint from the lease table"

/-- The daemon answers that it could not record the position, in words that begin with the
    heading. -/
def borrowedText : String :=
  "\x7b\"action\":\"checkpoint\",\"error\":" ++
    "\"unexpected response to checkpoint from the lease table\"\x7d"

def borrowedAnswer : Message := .checkpoint ⟨none, none, some borrowedWords⟩

theorem ofLine_borrowed : Message.ofLine (Text.Utf8.bytesOf borrowedText) = .ok borrowedAnswer :=
  (Message.ofLine_of_text (by cbv)).trans (by cbv : Message.decode borrowedText = _)

/-- The daemon answers about the checkpoint, and the kind says that it did not. -/
theorem checkpoint_kind_borrowed :
    ∃ line t', (Session.bringing [borrowedText]).input.feed.next = .line line ∧
      Message.ofLine line = .ok borrowedAnswer ∧ ¬ borrowedAnswer.Records ∧
      (∀ handler, (Session.bringing [borrowedText]).checkpoint .lastDelivered handler =
        (handler .lastDelivered borrowedWords).run t') ∧
      ¬ (CheckpointFailureKind.classify borrowedWords = .unexpectedResponse ↔
        borrowedAnswer.action ≠ .checkpoint) := by
  have hsent : ((Session.bringing [borrowedText]).send .lastDelivered).1 = .ok () :=
    send_ok .lastDelivered Sink.healthy_healthy
  have hfeed : (Session.bringing [borrowedText]).input.feed =
      ⟨[borrowedText].map Text.Utf8.bytesOf, none⟩ := by cbv
  have hnext := congrArg Feed.next hfeed
  have hrefuses : borrowedAnswer.Refuses borrowedWords := .error rfl (by decide)
  obtain ⟨t', hcalled⟩ := exists_checkpoint_of_refuses hsent hnext ofLine_borrowed hrefuses
  exact ⟨_, t', hnext, ofLine_borrowed, Message.not_records_iff.2 ⟨_, hrefuses⟩, hcalled, by decide⟩

end Transport

end ShardBridge
