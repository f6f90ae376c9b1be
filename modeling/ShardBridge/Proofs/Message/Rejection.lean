/-
  ShardBridge.Proofs.Message.Rejection

  Why a line is no message.  The general reader has the first say: what it does
  not take is no JSON, and what is no object stops there.  Then the last member
  that names the kind decides, and after it the content, whose reader has words
  of its own (`Message.admits_ofTree`).  Each line that is rejected has its
  cause by this order (`Message.Stops`, `Message.Rejects`), and the reader of
  the content never finds a text cut short that the general reader took.
-/
import ShardBridge.Proofs.Json.Complaint
import ShardBridge.Proofs.Message.Decoding

namespace ShardBridge

open Json

/-! ## Readers of the content -/

namespace Message

/-- The words that the readers of the content have in common. -/
def commonWords : Vocabulary where
  types := ["a string", "i64", "a sequence", "struct Record", "unit"]
  fields := ["shardId", "sequenceNumber", "subSequenceNumber", "records", "millisBehindLatest",
    "reason", "responseFor", "error", "data", "partitionKey", "approximateArrivalTimestamp"]
  lengths := [(5, Record.shape.lengthName)]
  variants := []

/-- The words of the reader for a kind: two kinds name one of several variants. -/
def vocabulary : Action → Vocabulary
  | .shutdown => { commonWords with variants := [ShutdownReason.variants.map Prod.fst] }
  | .status => { commonWords with variants := [Action.variants.map Prod.fst] }
  | _ => commonWords

end Message

open Message (commonWords vocabulary)

theorem Record.complains_fields : ∀ field ∈ Record.fields, field.Complains commonWords := by
  have hstring : Complains commonWords Tree.asString := complains_asString (by decide)
  have hint : Complains commonWords Record.readInt64 := complains_readInt64 (by decide)
  simp only [Record.fields, List.forall_mem_cons]
  exact ⟨Field.complains_required (by decide) _ _ hstring,
    Field.complains_optional (by decide) _ _ hint.asOptional,
    Field.complains_required (by decide) _ _ hstring,
    Field.complains_required (by decide) _ _ hstring,
    Field.complains_optional (by decide) _ _ hint, List.forall_mem_nil _⟩

theorem Record.complains_ofTree : Complains commonWords Record.ofTree := by
  refine Shape.complains Record.complains_fields ?_ (by decide) (List.mem_singleton.2 rfl)
  -- A draft lacks a field that must be there, or it is a record.
  rintro ⟨_ | s, n, data, key, t⟩
  · exact admits_error (.missingField (by decide))
  · rcases data with _ | data
    · exact admits_error (.missingField (by decide))
    · rcases key with _ | key
      · exact admits_error (.missingField (by decide))
      · exact admits_ok _

namespace Message

variable {members : Members} {ms : List (String × Value)}

theorem complains_readOptionalString : Complains commonWords readOptionalString :=
  Complains.asOptional (complains_asString (by decide))

theorem complains_readOptionalInt64 : Complains commonWords readOptionalInt64 :=
  Complains.asOptional (complains_readInt64 (by decide))

theorem admits_startShape (h : members.Denotes ms) :
    Admits commonWords (startShape.ofMembers members) := by
  apply Shape.admits_ofMembers _ _ h
  · simp only [startShape, List.forall_mem_cons]
    exact ⟨Field.complains_required (by decide) _ _ (complains_asString (by decide)),
      Field.complains_optional (by decide) _ _ complains_readOptionalString,
      Field.complains_optional (by decide) _ _ complains_readOptionalInt64, List.forall_mem_nil _⟩
  · rintro ⟨_ | shardId, s, n⟩
    · exact admits_error (.missingField (by decide))
    · exact admits_ok _

theorem admits_batchShape (h : members.Denotes ms) :
    Admits commonWords (batchShape.ofMembers members) := by
  apply Shape.admits_ofMembers _ _ h
  · simp only [batchShape, List.forall_mem_cons]
    exact ⟨Field.complains_required (by decide) _ _ (Record.complains_ofTree.asList (by decide)),
      Field.complains_optional (by decide) _ _ complains_readOptionalInt64, List.forall_mem_nil _⟩
  · rintro ⟨_ | records, n⟩
    · exact admits_error (.missingField (by decide))
    · exact admits_ok _

theorem admits_checkpointShape (h : members.Denotes ms) :
    Admits commonWords (checkpointShape.ofMembers members) := by
  apply Shape.admits_ofMembers _ _ h
  · simp only [checkpointShape, List.forall_mem_cons]
    exact ⟨Field.complains_optional (by decide) _ _ complains_readOptionalString,
      Field.complains_optional (by decide) _ _ complains_readOptionalInt64,
      Field.complains_optional (by decide) _ _ complains_readOptionalString, List.forall_mem_nil _⟩
  · exact fun d => admits_ok _

/-- A message that only names a variant. -/
theorem admits_variantShape {α : Type} {w : Vocabulary} {shape : Shape (Option α) α} {key : String}
    {variants : List (String × α)}
    (hfields : shape.fields =
      [.required key id (fun a _ => some a) (Tree.asVariant variants)])
    (hbuild : shape.build = present key) (hkey : key ∈ w.fields)
    (hvariants : variants.map Prod.fst ∈ w.variants) (hunit : "unit" ∈ w.types)
    (h : members.Denotes ms) : Admits w (shape.ofMembers members) := by
  apply Shape.admits_ofMembers _ _ h
  · rw [hfields, List.forall_mem_cons]
    exact ⟨Field.complains_required hkey _ _ (complains_asVariant hvariants hunit),
      List.forall_mem_nil _⟩
  · rw [hbuild]
    exact admits_present hkey

/-- The reader of the content uses the words of the kind. -/
theorem admits_ofTree (action : Action) (h : members.Denotes ms) :
    Admits (vocabulary action) (ofTree action (.object members)) := by
  cases action with
  | start => exact (admits_startShape h).map Message.start
  | processRecords => exact (admits_batchShape h).map Message.processRecords
  | leaseLost => exact admits_ok _
  | shardEnded => exact admits_ok _
  | shutdownRequested => exact admits_ok _
  | shutdown =>
    have hshape : Admits (vocabulary .shutdown) (shutdownShape.ofMembers members) :=
      admits_variantShape rfl rfl (by decide) (by decide) (by decide) h
    exact hshape.map Message.shutdown
  | checkpoint => exact (admits_checkpointShape h).map Message.checkpoint
  | status =>
    have hshape : Admits (vocabulary .status) (statusShape.ofMembers members) :=
      admits_variantShape rfl rfl (by decide) (by decide) (by decide) h
    exact hshape.map Message.status

/-! ## Causes -/

/-- The value of the last member that names the kind. -/
def lastAction (ms : List (String × Value)) : Option Value := (Value.under "action" ms).getLast?

/-- A line of which the general reader makes this is no message, for this cause. -/
inductive Rejects : Except Fault Value → MalformedCause → Prop
  | notJson (f : Fault) : Rejects (.error f) (.invalidJson (.fault f))
  | notAnObject {v : Value} (h : ∀ ms, v ≠ .object ms) : Rejects (.ok v) .notAnObject
  | missingAction {ms : List (String × Value)}
    (h : lastAction ms = none ∨ lastAction ms = some .null) :
    Rejects (.ok (.object ms)) .missingAction
  | actionNotText {ms : List (String × Value)} {v : Value} {e : Json.Error}
    (h : lastAction ms = some v) (hnull : v ≠ .null) (htext : ∀ s, v ≠ .string s)
    (he : e.category = .content) : Rejects (.ok (.object ms)) (.invalidJson e)
  | unknownAction {ms : List (String × Value)} {name : String}
    (h : lastAction ms = some (.string name)) (hname : ∀ a : Action, a.name ≠ name) :
    Rejects (.ok (.object ms)) (.unknownAction name)
  | invalidPayload {ms : List (String × Value)} {a : Action} {e : Json.Error}
    (h : lastAction ms = some (.string a.name))
    (hkind : a ≠ .leaseLost ∧ a ≠ .shardEnded ∧ a ≠ .shutdownRequested)
    (hcontent : ∀ m : Message, m.action = a → ¬ Conforms ms m) (he : e.category ≠ .ending) :
    Rejects (.ok (.object ms)) (.invalidPayload a e)

theorem decode_eq_error_iff {line : String} {m : MalformedLine} :
    decode line = .error m ↔
      m.line = line ∧ ofDocument (Document.ofText line.toList) = .error m.cause := by
  obtain ⟨line', cause⟩ := m
  rw [decode]
  split
  · next h => simp [h]
  · next cause' h =>
    simp only [h, Except.error.injEq, MalformedLine.mk.injEq]
    exact ⟨fun h => ⟨h.1.symm, h.2⟩, fun h => ⟨h.1.symm, h.2⟩⟩

theorem rejects_of_actionOf {ms : List (String × Value)} {cause : MalformedCause}
    (h : actionOf (.object ms) = .error cause) : Rejects (.ok (.object ms)) cause := by
  rw [actionOf, Value.get?, Value.lastWithKey_eq] at h
  split at h
  · next hlast =>
    cases h
    exact .missingAction (.inl hlast)
  · next hlast =>
    cases h
    exact .missingAction (.inr hlast)
  · next name hlast =>
    cases hname : Action.named? name with
    | some a =>
      rw [hname] at h
      cases h
    | none =>
      rw [hname] at h
      cases h
      refine .unknownAction hlast ?_
      rintro a rfl
      rw [Action.named?_name] at hname
      cases hname
  · next v hnull htext hlast =>
    cases h
    refine .actionNotText hlast ?_ ?_ rfl
    · rintro rfl
      exact hnull rfl
    · rintro s rfl
      exact htext s rfl

/-- What the reader of the content complains of is neither an early end, nor anything in the three
    kinds without content. -/
theorem rejects_of_ofTree {members : Members} {ms : List (String × Value)}
    (hdenotes : members.Denotes ms) {a : Action} {e : Json.Error}
    (haction : actionOf (.object ms) = .ok a) (h : ofTree a (.object members) = .error e) :
    Rejects (.ok (.object ms)) (.invalidPayload a e) := by
  refine .invalidPayload (actionOf_eq_ok.1 haction) ⟨?_, ?_, ?_⟩ ?_
    (admits_ofTree a hdenotes e h).category
  · rintro rfl
    cases h
  · rintro rfl
    cases h
  · rintro rfl
    cases h
  · intro m hm hconforms
    rw [(ofTree_eq_ok_iff hdenotes).2 ⟨hm, hconforms⟩] at h
    cases h

/-- Where the decoder stops in a line that it rejects: at the general reader, at a value that is no
    object, at the member that names the kind, or at the content. -/
inductive Stops (line : String) : MalformedCause → Prop
  | notJson {f : Fault} (hv : Value.ofText line = .error f) : Stops line (.invalidJson (.fault f))
  | notAnObject {v : Value} (hv : Value.ofText line = .ok v) (h : ∀ ms, v ≠ .object ms) :
    Stops line .notAnObject
  | kind {members : Members} {ms : List (String × Value)} {cause : MalformedCause}
    (hv : Value.ofText line = .ok (.object ms)) (hmembers : members.Denotes ms)
    (haction : actionOf (.object ms) = .error cause) : Stops line cause
  | content {members : Members} {ms : List (String × Value)} {a : Action} {e : Json.Error}
    (hv : Value.ofText line = .ok (.object ms)) (hmembers : members.Denotes ms)
    (haction : actionOf (.object ms) = .ok a) (h : ofTree a (.object members) = .error e) :
    Stops line (.invalidPayload a e)

theorem stops_of_ofDocument {line : String} {cause : MalformedCause}
    (h : ofDocument (Document.ofText line.toList) = .error cause) : Stops line cause := by
  rw [ofDocument, ← Value.ofText] at h
  cases hv : Value.ofText line with
  | error f =>
    rw [hv] at h
    cases h
    exact .notJson hv
  | ok v =>
    rw [hv] at h
    cases v with
    | object ms =>
      -- The tree that the text spells is the one that the reader of the content gets.
      obtain ⟨t, hspelled, ht⟩ := Value.ofText_eq_ok_iff.1 hv
      obtain ⟨body, after, -, hbody, -⟩ := id hspelled
      have hdenotes := hbody.denotes ht
      rw [Document.ofText_of_spelled hspelled] at h
      cases hdenotes with
      | @object members _ hmembers =>
        dsimp only at h
        cases haction : actionOf (.object ms) with
        | error cause' =>
          rw [haction] at h
          cases h
          exact .kind hv hmembers haction
        | ok a =>
          rw [haction] at h
          dsimp only at h
          cases htree : ofTree a (.object members) with
          | ok m =>
            rw [htree] at h
            cases h
          | error e =>
            rw [htree] at h
            cases h
            exact .content hv hmembers haction htree
    | _ =>
      cases h
      refine .notAnObject hv ?_
      intro ms hms
      cases hms

theorem Stops.rejects {line : String} {cause : MalformedCause} (h : Stops line cause) :
    Rejects (Value.ofText line) cause := by
  cases h with
  | notJson hv =>
    rw [hv]
    exact .notJson _
  | notAnObject hv h =>
    rw [hv]
    exact .notAnObject h
  | kind hv hmembers haction =>
    rw [hv]
    exact rejects_of_actionOf haction
  | content hv hmembers haction h =>
    rw [hv]
    exact rejects_of_ofTree hmembers haction h

/-- A line with such a cause is no message. -/
theorem Rejects.decode {line : String} {cause : MalformedCause}
    (h : Rejects (Value.ofText line) cause) (m : Message) : decode line ≠ .ok m := by
  intro hm
  obtain ⟨ms, hline, haction, hconforms⟩ := decode_iff.1 hm
  have hlast : lastAction ms = some (.string m.action.name) := haction
  rw [hline] at h
  -- A message names its kind by a text, and so each of the causes contradicts it in its own way.
  cases h with
  | notAnObject h => exact h ms rfl
  | missingAction h =>
    rw [hlast] at h
    rcases h with h | h <;> cases h
  | actionNotText h _ htext _ =>
    cases hlast.symm.trans h
    exact htext _ rfl
  | unknownAction h hname =>
    cases hlast.symm.trans h
    exact hname _ rfl
  | invalidPayload h _ hcontent _ =>
    have hname : m.action.name = _ := Value.string.inj (Option.some.inj (hlast.symm.trans h))
    exact hcontent m (Action.name_injective hname) hconforms

theorem Rejects.ne_invalidUtf8 {read : Except Fault Value} {cause : MalformedCause}
    (h : Rejects read cause) (u : Text.Utf8.Malformation) : cause ≠ .invalidUtf8 u := by
  cases h <;> exact MalformedCause.noConfusion

theorem Rejects.ne_unexpectedAction {read : Except Fault Value} {cause : MalformedCause}
    (h : Rejects read cause) (a : Action) : cause ≠ .unexpectedAction a := by
  cases h <;> exact MalformedCause.noConfusion

theorem Rejects.category_payload {read : Except Fault Value} {a : Action} {e : Json.Error}
    (h : Rejects read (.invalidPayload a e)) : e.category ≠ .ending := by
  cases h with
  | invalidPayload _ _ _ he => exact he

/-- The last member that names the kind is there, and is neither null nor a text. -/
def NamesNoText (read : Except Fault Value) : Prop :=
  ∃ ms v, read = .ok (.object ms) ∧ lastAction ms = some v ∧ v ≠ .null ∧ ∀ s, v ≠ .string s

/-- Content is what is wrong with the JSON of a line just when its kind is named by no text. -/
theorem Rejects.content_iff {read : Except Fault Value} {cause : MalformedCause}
    (h : Rejects read cause) :
    (∃ e, cause = .invalidJson e ∧ e.category = .content) ↔ NamesNoText read := by
  constructor
  · rintro ⟨e, rfl, he⟩
    cases h with
    | notJson f =>
      -- A fault of form is an early end, or not, but never a matter of content.
      rw [Error.category] at he
      split at he <;> cases he
    | actionNotText h hnull htext _ => exact ⟨_, _, rfl, h, hnull, htext⟩
  · rintro ⟨ms, v, rfl, hlast, hnull, htext⟩
    cases h with
    | notAnObject h => exact absurd rfl (h ms)
    | missingAction h =>
      rcases h with h | h <;> cases hlast.symm.trans h
      exact absurd rfl hnull
    | actionNotText _ _ _ he => exact ⟨_, rfl, he⟩
    | unknownAction h _ =>
      cases hlast.symm.trans h
      exact absurd rfl (htext _)
    | invalidPayload h _ _ _ =>
      cases hlast.symm.trans h
      exact absurd rfl (htext _)

/-- Every line that is rejected is kept as it is, and its cause is the first thing wrong with it:
    its JSON, that it is no object, the last member that names its kind, and then the content of
    that kind.  Every line with such a cause is rejected. -/
theorem decode_classifies_rejections :
    (∀ (line : String) (m : MalformedLine), decode line = .error m →
      m.line = line ∧ Rejects (Value.ofText line) m.cause ∧
      ((∃ e, m.cause = .invalidJson e ∧ e.category = .content) ↔
        NamesNoText (Value.ofText line)) ∧
      (∀ u, m.cause ≠ .invalidUtf8 u) ∧ ∀ a, m.cause ≠ .unexpectedAction a) ∧
    ∀ (line : String) (cause : MalformedCause), Rejects (Value.ofText line) cause →
      ∃ m, decode line = .error m := by
  constructor
  · intro line m h
    obtain ⟨hline, hcause⟩ := decode_eq_error_iff.1 h
    have hrejects := (stops_of_ofDocument hcause).rejects
    exact ⟨hline, hrejects, hrejects.content_iff, hrejects.ne_invalidUtf8,
      hrejects.ne_unexpectedAction⟩
  · intro line cause h
    cases hm : decode line with
    | ok m => exact absurd hm (h.decode m)
    | error m => exact ⟨m, rfl⟩

/-- A number for the words of an error is a matter of content, not of a text cut short. -/
theorem decode_classifies_rejections_number :
    ∃ e, decode "\x7b\"action\":\"checkpoint\",\"error\":5\x7d" =
        .error ⟨"\x7b\"action\":\"checkpoint\",\"error\":5\x7d",
          .invalidPayload .checkpoint e⟩ ∧
      e.category ≠ .ending := by
  have hdecode : decode "\x7b\"action\":\"checkpoint\",\"error\":5\x7d" =
      .error ⟨"\x7b\"action\":\"checkpoint\",\"error\":5\x7d", .invalidPayload .checkpoint
        (.mismatch (.wrongType (.number (.integer 5)) "a string"))⟩ := by cbv
  obtain ⟨-, hrejects, -⟩ := decode_classifies_rejections.1 _ _ hdecode
  exact ⟨_, hdecode, hrejects.category_payload⟩

end Message

end ShardBridge
