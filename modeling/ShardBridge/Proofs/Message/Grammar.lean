/-
  ShardBridge.Proofs.Message.Grammar

  What an object must hold to be a message.  The schemas are stated of values
  alone: which keys an object needs, which it may leave out or set to null, and
  what may stand under each.  Keys that a schema does not name may stand
  anywhere, with anything under them.  The readers of the content accept these
  schemas and nothing else (`Message.ofTree_eq_ok_iff`).
-/
import ShardBridge.Message.Decode
import ShardBridge.Proofs.Json.Layout

namespace ShardBridge

open Json

/-! ## Keys of an object -/

section Keys

variable {α : Type} (Means : Value → α → Prop) (key : String) (ms : List (String × Value))

/-- The key stands once, and its value means this. -/
def Required (a : α) : Prop := ∃ v, Value.under key ms = [v] ∧ Means v a

/-- The key is left out, or it stands once and its value means this. -/
def Omissible (o : Option α) : Prop :=
  Value.under key ms = [] ∧ o = none ∨ ∃ a, Required Means key ms a ∧ o = some a

/-- The key is left out or null, or it stands once and its value means this. -/
def Nullable (o : Option α) : Prop :=
  (Value.under key ms = [] ∨ Value.under key ms = [.null]) ∧ o = none ∨
    ∃ a, Required Means key ms a ∧ o = some a

/-- The value names this, with a text or with the only key of an object whose value is null. -/
def Names (name : α → String) (v : Value) (a : α) : Prop :=
  v = .string (name a) ∨ v = .object [(name a, .null)]

variable {Means key ms}

theorem required_iff {a : α} :
    Required Means key ms a ↔ Yields Means (Value.under key ms) (some a) := by
  constructor
  · rintro ⟨v, hv, ha⟩
    rw [hv]
    exact .once ha
  · intro h
    generalize hv : Value.under key ms = vs at h
    cases h with
    | once h => exact ⟨_, hv, h⟩

theorem omissible_iff {o : Option α} :
    Omissible Means key ms o ↔ Yields Means (Value.under key ms) o := by
  constructor
  · rintro (⟨hv, rfl⟩ | ⟨a, ha, rfl⟩)
    · rw [hv]
      exact .absent
    · exact required_iff.1 ha
  · intro h
    cases o with
    | none =>
      generalize hv : Value.under key ms = vs at h
      cases h
      exact .inl ⟨hv, rfl⟩
    | some a => exact .inr ⟨a, required_iff.2 h, rfl⟩

theorem nullable_iff {o : Option α} :
    Nullable Means key ms o ↔
      ∃ o', Yields (OrNull Means) (Value.under key ms) o' ∧ o'.join = o := by
  constructor
  · rintro (⟨hv | hv, rfl⟩ | ⟨a, ⟨v, hv, ha⟩, rfl⟩)
    · exact ⟨none, by rw [hv]; exact .absent, rfl⟩
    · exact ⟨some none, by rw [hv]; exact .once .null, rfl⟩
    · exact ⟨some (some a), by rw [hv]; exact .once (.value ha), rfl⟩
  · rintro ⟨o', h, rfl⟩
    generalize hv : Value.under key ms = vs at h
    cases h with
    | absent => exact .inl ⟨.inl hv, rfl⟩
    | once h =>
      cases h with
      | null => exact .inl ⟨.inr hv, rfl⟩
      | value ha => exact .inr ⟨_, ⟨_, hv, ha⟩, rfl⟩

end Keys

theorem not_isString_null (s : String) : ¬IsString .null s := by simp [IsString]

theorem not_isInt64_null (n : Int64) : ¬IsInt64 .null n := by simp [IsInt64, Value.int]

/-! ## Records -/

/-- The members of an object make a record. -/
structure Record.OfMembers (ms : List (String × Value)) (r : Record) : Prop where
  sequenceNumber : Required IsString "sequenceNumber" ms r.sequenceNumber
  subSequenceNumber : Nullable IsInt64 "subSequenceNumber" ms r.subSequenceNumber
  data : Required IsString "data" ms r.data
  partitionKey : Required IsString "partitionKey" ms r.partitionKey
  arrival : ∃ o, Omissible IsInt64 "approximateArrivalTimestamp" ms o ∧ r.arrival = o.getD 0

/-- The values of a list make a record: its fields in order, the last of which may be missing. -/
inductive Record.OfItems : List Value → Record → Prop
  | four {s n d k : Value} {sequenceNumber : String} {subSequenceNumber : Option Int64}
      {data partitionKey : String} (hs : IsString s sequenceNumber)
      (hn : OrNull IsInt64 n subSequenceNumber) (hd : IsString d data)
      (hk : IsString k partitionKey) :
      Record.OfItems [s, n, d, k] ⟨sequenceNumber, subSequenceNumber, data, partitionKey, 0⟩
  | five {s n d k t : Value} {sequenceNumber : String} {subSequenceNumber : Option Int64}
      {data partitionKey : String} {arrival : Int64} (hs : IsString s sequenceNumber)
      (hn : OrNull IsInt64 n subSequenceNumber) (hd : IsString d data)
      (hk : IsString k partitionKey) (ht : IsInt64 t arrival) :
      Record.OfItems [s, n, d, k, t]
        ⟨sequenceNumber, subSequenceNumber, data, partitionKey, arrival⟩

/-- The value is a record. -/
inductive IsRecord : Value → Record → Prop
  | object {ms : List (String × Value)} {r : Record} (h : r.OfMembers ms) :
      IsRecord (.object ms) r
  | list {vs : List Value} {r : Record} (h : r.OfItems vs) : IsRecord (.array vs) r

theorem agrees_readOptionalString : Agrees Message.readOptionalString (OrNull IsString) :=
  agrees_asString.asOptional not_isString_null

theorem agrees_readOptionalInt64 : Agrees Message.readOptionalInt64 (OrNull IsInt64) :=
  agrees_readInt64.asOptional not_isInt64_null

/-- The slots of a record. -/
def Record.layout : Layout Record.Draft where
  slots := [
    .required "sequenceNumber" Record.Draft.sequenceNumber
      (fun a d => { d with sequenceNumber := some a }) agrees_asString,
    .optional "subSequenceNumber" Record.Draft.subSequenceNumber
      (fun a d => { d with subSequenceNumber := some a }) agrees_readOptionalInt64,
    .required "data" Record.Draft.data (fun a d => { d with data := some a }) agrees_asString,
    .required "partitionKey" Record.Draft.partitionKey
      (fun a d => { d with partitionKey := some a }) agrees_asString,
    .optional "approximateArrivalTimestamp" Record.Draft.arrival
      (fun a d => { d with arrival := some a }) agrees_readInt64 ]
  distinct := by decide
  apart := by simp [Slot.required, Slot.optional]
  ext := by
    intro d d' h
    cases d
    cases d'
    simp_all [Slot.required, Slot.optional]

theorem Record.layout_fits : Record.layout.Fits Record.shape := by
  refine ⟨rfl, ?_⟩
  simp [Layout.Blank, Record.layout, Record.shape, Slot.required, Slot.optional]

/-- A draft with every field that must be there is a record. -/
theorem Record.build_eq_ok {d : Record.Draft} {r : Record} :
    Record.shape.build d = .ok r ↔ d.sequenceNumber = some r.sequenceNumber ∧
      d.subSequenceNumber.join = r.subSequenceNumber ∧ d.data = some r.data ∧
      d.partitionKey = some r.partitionKey ∧ r.arrival = d.arrival.getD 0 := by
  obtain ⟨s, n, data, key, t⟩ := d
  obtain ⟨s', n', data', key', t'⟩ := r
  cases s <;> cases data <;> cases key <;>
    simp [Record.shape, Record.Draft.build, present, bind, Except.bind, pure, Except.pure,
      eq_comm]

theorem Record.ofMembers_iff {ms : List (String × Value)} {r : Record} :
    (∃ d, (∀ s ∈ Record.layout.slots, Yields s.Means (Value.under s.name ms) (s.get d)) ∧
      Record.shape.build d = .ok r) ↔ r.OfMembers ms := by
  simp only [Record.layout, Slot.required, Slot.optional, List.forall_mem_cons,
    Record.build_eq_ok]
  constructor
  · rintro ⟨d, ⟨hs, hn, hd, hk, ht, -⟩, heqs, heqn, heqd, heqk, heqt⟩
    exact ⟨required_iff.2 (heqs ▸ hs), nullable_iff.2 ⟨_, hn, heqn⟩, required_iff.2 (heqd ▸ hd),
      required_iff.2 (heqk ▸ hk), _, omissible_iff.2 ht, heqt⟩
  · rintro ⟨hs, hn, hd, hk, o, ho, ht⟩
    obtain ⟨o', ho', hjoin⟩ := nullable_iff.1 hn
    refine ⟨⟨some r.sequenceNumber, o', some r.data, some r.partitionKey, o⟩, ⟨?_, ?_, ?_, ?_, ?_⟩,
      rfl, hjoin, rfl, rfl, ht⟩
    · exact required_iff.1 hs
    · exact ho'
    · exact required_iff.1 hd
    · exact required_iff.1 hk
    · exact ⟨omissible_iff.1 ho, fun _ h => nomatch h⟩

theorem Record.ofItems_iff {vs : List Value} {r : Record} :
    (∃ d, Layout.InOrder Record.layout.slots vs d ∧ Record.shape.build d = .ok r) ↔
      r.OfItems vs := by
  simp only [Record.layout, Slot.required, Slot.optional, Record.build_eq_ok]
  constructor
  · rintro ⟨d, horder, heqs, heqn, heqd, heqk, heqt⟩
    -- Only four or five values leave no slot without what it needs.
    rcases vs with _ | ⟨s, _ | ⟨n, _ | ⟨data, _ | ⟨k, _ | ⟨t, vs⟩⟩⟩⟩⟩ <;>
      simp only [Layout.InOrder, Bool.false_eq_true, false_and, and_false] at horder
    · obtain ⟨⟨_, hs, hs'⟩, ⟨_, hn, hn'⟩, ⟨_, hd, hd'⟩, ⟨_, hk, hk'⟩, -, ht', -⟩ := horder
      obtain ⟨_, _, _, _, _⟩ := r
      simp only [hs', hn', hd', hk', ht', Option.some.injEq, Option.join_some,
        Option.getD_none] at heqs heqn heqd heqk heqt
      subst heqs heqn heqd heqk heqt
      exact .four hs hn hd hk
    · obtain ⟨⟨_, hs, hs'⟩, ⟨_, hn, hn'⟩, ⟨_, hd, hd'⟩, ⟨_, hk, hk'⟩, ⟨_, ht, ht'⟩, rfl⟩ := horder
      obtain ⟨_, _, _, _, _⟩ := r
      simp only [hs', hn', hd', hk', ht', Option.some.injEq, Option.join_some,
        Option.getD_some] at heqs heqn heqd heqk heqt
      subst heqs heqn heqd heqk heqt
      exact .five hs hn hd hk ht
  · intro h
    cases h with
    | @four s n d k _ _ _ _ hs hn hd hk =>
      refine ⟨⟨some _, some _, some _, some _, none⟩, ?_, rfl, rfl, rfl, rfl, rfl⟩
      exact ⟨⟨_, hs, rfl⟩, ⟨_, hn, rfl⟩, ⟨_, hd, rfl⟩, ⟨_, hk, rfl⟩, rfl, rfl, rfl⟩
    | five hs hn hd hk ht =>
      refine ⟨⟨some _, some _, some _, some _, some _⟩, ?_, rfl, rfl, rfl, rfl, rfl⟩
      exact ⟨⟨_, hs, rfl⟩, ⟨_, hn, rfl⟩, ⟨_, hd, rfl⟩, ⟨_, hk, rfl⟩, ⟨_, ht, rfl⟩, rfl⟩

/-- Reading a record accepts its two forms and nothing else. -/
theorem Record.agrees_ofTree : Agrees Record.ofTree IsRecord := by
  intro t v h r
  -- Nothing but a list or an object is a record.
  cases h with
  | array h =>
    rw [Record.ofTree, Shape.ofTree, Record.layout.ofItems_iff Record.layout_fits h,
      Record.ofItems_iff]
    exact ⟨.list, fun | .list h => h⟩
  | object h =>
    rw [Record.ofTree, Shape.ofTree, Record.layout.ofMembers_iff Record.layout_fits h,
      Record.ofMembers_iff]
    exact ⟨.object, fun | .object h => h⟩
  | _ =>
    simp only [Record.ofTree, Shape.ofTree, reduceCtorEq, false_iff]
    rintro ⟨⟩

/-! ## Variants -/

/-- Variants are found by their names when no two share one. -/
theorem lookup_named {α : Type} {name : α → String} (hname : Function.Injective name)
    {as : List α} {text : String} {a : α} :
    (as.map fun a => (name a, a)).lookup text = some a ↔ a ∈ as ∧ text = name a := by
  induction as with
  | nil => simp
  | cons b as ih =>
    rw [List.map_cons, List.lookup_cons]
    -- The first row with the name is the only one.
    by_cases htext : text = name b
    · subst htext
      constructor
      · intro h
        obtain rfl : b = a := by simpa using h
        exact ⟨List.mem_cons_self .., rfl⟩
      · rintro ⟨-, heq⟩
        simp [hname heq]
    · have hfalse : (text == name b) = false := by simpa using htext
      rw [hfalse, ih, List.mem_cons]
      constructor
      · exact fun h => ⟨.inr h.1, h.2⟩
      · rintro ⟨rfl | hmem, heq⟩
        · exact absurd heq htext
        · exact ⟨hmem, heq⟩

theorem isVariant_iff {α : Type} {variants : List (String × α)} {name : α → String}
    (hlookup : ∀ {text : String} {a : α}, variants.lookup text = some a ↔ text = name a)
    {v : Value} {a : α} : IsVariant variants v a ↔ Names name v a := by
  simp [IsVariant, hlookup, Names]

theorem ShutdownReason.lookup_eq {text : String} {r : ShutdownReason} :
    ShutdownReason.variants.lookup text = some r ↔ text = r.name := by
  have hname : Function.Injective ShutdownReason.name := by
    intro a b h
    cases a <;> cases b <;> simp [ShutdownReason.name] at h <;> rfl
  have hall : r ∈ [ShutdownReason.terminate, .zombie, .requested] := by cases r <;> decide
  have hmap : ShutdownReason.variants =
      [ShutdownReason.terminate, .zombie, .requested].map fun r => (r.name, r) := rfl
  rw [hmap, lookup_named hname, and_iff_right hall]

theorem Action.name_injective : Function.Injective Action.name := by
  intro a b h
  have ha := Action.named?_name a
  rw [h, Action.named?_name b] at ha
  exact (Option.some.inj ha).symm

theorem Action.lookup_eq {text : String} {a : Action} :
    Action.variants.lookup text = some a ↔ text = a.name :=
  (lookup_named Action.name_injective).trans (and_iff_right (Action.mem_all a))

/-! ## Messages -/

/-- The members of an object make the content of a message. Three kinds have none, and nothing is
    asked of their members. -/
def Message.Conforms (ms : List (String × Value)) : Message → Prop
  | .start c =>
    Required IsString "shardId" ms c.shardId ∧
    Nullable IsString "sequenceNumber" ms c.sequenceNumber ∧
    Nullable IsInt64 "subSequenceNumber" ms c.subSequenceNumber
  | .processRecords c =>
    Required (IsList IsRecord) "records" ms c.records ∧
    Nullable IsInt64 "millisBehindLatest" ms c.millisBehindLatest
  | .leaseLost => True
  | .shardEnded => True
  | .shutdownRequested => True
  | .shutdown reason => Required (Names ShutdownReason.name) "reason" ms reason
  | .checkpoint c =>
    Nullable IsString "sequenceNumber" ms c.sequenceNumber ∧
    Nullable IsInt64 "subSequenceNumber" ms c.subSequenceNumber ∧
    Nullable IsString "error" ms c.error
  | .status a => Required (Names Action.name) "responseFor" ms a

namespace Message

/-- The slots of an assignment. -/
def startLayout : Layout StartDraft where
  slots := [
    .required "shardId" StartDraft.shardId (fun a d => { d with shardId := some a })
      agrees_asString,
    .optional "sequenceNumber" StartDraft.sequenceNumber
      (fun a d => { d with sequenceNumber := some a }) agrees_readOptionalString,
    .optional "subSequenceNumber" StartDraft.subSequenceNumber
      (fun a d => { d with subSequenceNumber := some a }) agrees_readOptionalInt64 ]
  distinct := by decide
  apart := by simp [Slot.required, Slot.optional]
  ext := by
    intro d d' h
    cases d
    cases d'
    simp_all [Slot.required, Slot.optional]

/-- The slots of a batch. -/
def batchLayout : Layout BatchDraft where
  slots := [
    .required "records" BatchDraft.records (fun a d => { d with records := some a })
      Record.agrees_ofTree.asList,
    .optional "millisBehindLatest" BatchDraft.millisBehindLatest
      (fun a d => { d with millisBehindLatest := some a }) agrees_readOptionalInt64 ]
  distinct := by decide
  apart := by simp [Slot.required, Slot.optional]
  ext := by
    intro d d' h
    cases d
    cases d'
    simp_all [Slot.required, Slot.optional]

/-- The slots of a checkpoint. -/
def checkpointLayout : Layout CheckpointDraft where
  slots := [
    .optional "sequenceNumber" CheckpointDraft.sequenceNumber
      (fun a d => { d with sequenceNumber := some a }) agrees_readOptionalString,
    .optional "subSequenceNumber" CheckpointDraft.subSequenceNumber
      (fun a d => { d with subSequenceNumber := some a }) agrees_readOptionalInt64,
    .optional "error" CheckpointDraft.error (fun a d => { d with error := some a })
      agrees_readOptionalString ]
  distinct := by decide
  apart := by simp [Slot.optional]
  ext := by
    intro d d' h
    cases d
    cases d'
    simp_all [Slot.optional]

/-- The one slot of a message that only names a variant. -/
def variantLayout {α : Type} (name : String) (variants : List (String × α)) :
    Layout (Option α) where
  slots := [ .required name id (fun a _ => some a) (agrees_asVariant variants) ]
  distinct := by simp
  apart := by simp [Slot.required]
  ext := by simp [Slot.required]

/-! ## Readers of the content

Reading accepts the schema of the kind and nothing else. -/

variable {members : Members} {ms : List (String × Value)}

theorem startShape_iff (h : members.Denotes ms) (c : ShardStart) :
    startShape.ofMembers members = .ok c ↔ Conforms ms (.start c) := by
  have hfits : startLayout.Fits startShape := by
    refine ⟨rfl, ?_⟩
    simp [Layout.Blank, startLayout, startShape, Slot.required, Slot.optional]
  have hbuild : ∀ d : StartDraft, startShape.build d = .ok c ↔ d.shardId = some c.shardId ∧
      d.sequenceNumber.join = c.sequenceNumber ∧
      d.subSequenceNumber.join = c.subSequenceNumber := by
    rintro ⟨_ | id, s, n⟩
    · simp [startShape]
    · cases c
      simp [startShape]
  rw [startLayout.ofMembers_iff hfits h]
  simp only [startLayout, Slot.required, Slot.optional, List.forall_mem_cons, hbuild, Conforms,
    required_iff, nullable_iff]
  constructor
  · rintro ⟨d, ⟨hid, hs, hn, -⟩, heqid, heqs, heqn⟩
    exact ⟨heqid ▸ hid, ⟨_, hs, heqs⟩, ⟨_, hn, heqn⟩⟩
  · rintro ⟨hid, ⟨o, hs, heqs⟩, ⟨o', hn, heqn⟩⟩
    exact ⟨⟨some c.shardId, o, o'⟩, ⟨hid, hs, hn, fun _ h => nomatch h⟩, rfl, heqs, heqn⟩

theorem batchShape_iff (h : members.Denotes ms) (c : Batch) :
    batchShape.ofMembers members = .ok c ↔ Conforms ms (.processRecords c) := by
  have hfits : batchLayout.Fits batchShape := by
    refine ⟨rfl, ?_⟩
    simp [Layout.Blank, batchLayout, batchShape, Slot.required, Slot.optional]
  have hbuild : ∀ d : BatchDraft, batchShape.build d = .ok c ↔ d.records = some c.records ∧
      d.millisBehindLatest.join = c.millisBehindLatest := by
    rintro ⟨_ | records, n⟩
    · simp [batchShape]
    · cases c
      simp [batchShape]
  rw [batchLayout.ofMembers_iff hfits h]
  simp only [batchLayout, Slot.required, Slot.optional, List.forall_mem_cons, hbuild, Conforms,
    required_iff, nullable_iff]
  constructor
  · rintro ⟨d, ⟨hr, hn, -⟩, heqr, heqn⟩
    exact ⟨heqr ▸ hr, ⟨_, hn, heqn⟩⟩
  · rintro ⟨hr, ⟨o, hn, heqn⟩⟩
    exact ⟨⟨some c.records, o⟩, ⟨hr, hn, fun _ h => nomatch h⟩, rfl, heqn⟩

theorem checkpointShape_iff (h : members.Denotes ms) (c : CheckpointNotice) :
    checkpointShape.ofMembers members = .ok c ↔ Conforms ms (.checkpoint c) := by
  have hfits : checkpointLayout.Fits checkpointShape := by
    refine ⟨rfl, ?_⟩
    simp [Layout.Blank, checkpointLayout, checkpointShape, Slot.optional]
  have hbuild : ∀ d : CheckpointDraft, checkpointShape.build d = .ok c ↔
      d.sequenceNumber.join = c.sequenceNumber ∧
      d.subSequenceNumber.join = c.subSequenceNumber ∧ d.error.join = c.error := by
    intro d
    cases c
    simp [checkpointShape]
  rw [checkpointLayout.ofMembers_iff hfits h]
  simp only [checkpointLayout, Slot.optional, List.forall_mem_cons, hbuild, Conforms,
    nullable_iff]
  constructor
  · rintro ⟨d, ⟨hs, hn, he, -⟩, heqs, heqn, heqe⟩
    exact ⟨⟨_, hs, heqs⟩, ⟨_, hn, heqn⟩, ⟨_, he, heqe⟩⟩
  · rintro ⟨⟨o, hs, heqs⟩, ⟨o', hn, heqn⟩, ⟨o'', he, heqe⟩⟩
    exact ⟨⟨o, o', o''⟩, ⟨hs, hn, he, fun _ h => nomatch h⟩, heqs, heqn, heqe⟩

/-- Reading an object with one field that names a variant. -/
theorem variantShape_iff {α : Type} {shape : Shape (Option α) α} {key : String}
    {variants : List (String × α)} {name : α → String}
    (hlookup : ∀ {text : String} {a : α}, variants.lookup text = some a ↔ text = name a)
    (hfields : shape.fields = (variantLayout key variants).fields) (hblank : shape.blank = none)
    (hbuild : shape.build = present key) (h : members.Denotes ms) (a : α) :
    shape.ofMembers members = .ok a ↔ Required (Names name) key ms a := by
  have hfits : (variantLayout key variants).Fits shape := by
    refine ⟨hfields, ?_⟩
    simp [Layout.Blank, variantLayout, Slot.required, hblank]
  -- A look-up in the table finds the name, so the table itself drops out.
  have hmeans : IsVariant variants = Names name := by
    funext v a
    exact propext (isVariant_iff hlookup)
  have hpresent : ∀ d : Option α, present key d = .ok a ↔ d = some a := by
    intro d
    cases d <;> simp [present]
  rw [(variantLayout key variants).ofMembers_iff hfits h, hbuild]
  simp only [variantLayout, Slot.required, List.forall_mem_cons, required_iff, hpresent, hmeans]
  constructor
  · rintro ⟨d, ⟨hd, -⟩, rfl⟩
    exact hd
  · exact fun hd => ⟨some a, ⟨hd, fun _ h => nomatch h⟩, rfl⟩

theorem content_iff {α : Type} {kind : α → Message} {action : Action} {read : Json.Result α}
    {m : Message} (hread : ∀ c, read = .ok c ↔ Conforms ms (kind c))
    (hkind : ∀ m, Message.action m = action ↔ ∃ c, kind c = m) :
    read.map kind = .ok m ↔ m.action = action ∧ Conforms ms m := by
  rw [map_eq_ok, hkind]
  constructor
  · rintro ⟨c, hc, rfl⟩
    exact ⟨⟨c, rfl⟩, (hread c).1 hc⟩
  · rintro ⟨⟨c, rfl⟩, hc⟩
    exact ⟨c, (hread c).2 hc, rfl⟩

/-- What is read from an object for a kind of message is a message of that kind whose content the
    members conform to. -/
theorem ofTree_eq_ok_iff (h : members.Denotes ms) {action : Action} {m : Message} :
    ofTree action (.object members) = .ok m ↔ m.action = action ∧ Conforms ms m := by
  have hshutdown : ∀ reason, shutdownShape.ofMembers members = .ok reason ↔
      Required (Names ShutdownReason.name) "reason" ms reason :=
    variantShape_iff ShutdownReason.lookup_eq rfl rfl rfl h
  have hstatus : ∀ a, statusShape.ofMembers members = .ok a ↔
      Required (Names Action.name) "responseFor" ms a :=
    variantShape_iff Action.lookup_eq rfl rfl rfl h
  cases action with
  | start => exact content_iff (startShape_iff h) fun m => by cases m <;> simp [Message.action]
  | processRecords =>
    exact content_iff (batchShape_iff h) fun m => by cases m <;> simp [Message.action]
  | leaseLost => cases m <;> simp [ofTree, Message.action, Conforms]
  | shardEnded => cases m <;> simp [ofTree, Message.action, Conforms]
  | shutdownRequested => cases m <;> simp [ofTree, Message.action, Conforms]
  | shutdown => exact content_iff (hshutdown) fun m => by cases m <;> simp [Message.action]
  | checkpoint =>
    exact content_iff (checkpointShape_iff h) fun m => by cases m <;> simp [Message.action]
  | status => exact content_iff (hstatus) fun m => by cases m <;> simp [Message.action]

end Message

end ShardBridge
