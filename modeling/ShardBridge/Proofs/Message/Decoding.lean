/-
  ShardBridge.Proofs.Message.Decoding

  Which lines are messages.  A line is a message exactly when the general
  reader makes an object of it whose last `action` names a kind, and whose
  members conform to the schema of that kind; the message then holds what the
  members say (`Message.decode_accepts_grammar`).  Neither the order of the members nor
  space nor the spelling of the strings matters, nor do members that the schema
  does not name (`Message.Alike`).
-/
import Mathlib
import ShardBridge.Proofs.Message.Grammar

namespace ShardBridge

open Json

namespace Message

/-! ## Lines -/

theorem actionOf_eq_ok {ms : List (String × Value)} {a : Action} :
    actionOf (.object ms) = .ok a ↔
      (Value.under "action" ms).getLast? = some (.string a.name) := by
  rw [actionOf, Value.get?, Value.lastWithKey_eq]
  -- By what the last member with the key holds: it may be missing, null, a text or another value.
  split
  · next h => simp [h]
  · next h => simp [h]
  · next name h =>
    simp only [h, Option.some.injEq, Value.string.injEq]
    cases hn : Action.named? name with
    | none =>
      simp only [reduceCtorEq, false_iff]
      rintro rfl
      simp [Action.named?_name] at hn
    | some b =>
      obtain rfl := Action.named?_eq_some_iff.1 hn
      simp [Action.name_injective.eq_iff]
  · next v _ hstring h =>
    simp only [h, reduceCtorEq, false_iff, Option.some.injEq]
    rintro rfl
    exact hstring _ rfl

theorem decode_eq_ok_ofDocument {line : String} {m : Message} :
    decode line = .ok m ↔ ofDocument (Document.ofText line.toList) = .ok m := by
  rw [decode]
  split <;> next h => simp [h]

/-- A line is a message when it is an object of the kind and the content of that message. -/
theorem decode_iff {line : String} {m : Message} :
    decode line = .ok m ↔
      ∃ ms, Value.ofText line = .ok (.object ms) ∧
        (Value.under "action" ms).getLast? = some (.string m.action.name) ∧ Conforms ms m := by
  rw [decode_eq_ok_ofDocument, ofDocument, ← Value.ofText]
  cases hv : Value.ofText line with
  | error f => simp
  | ok v =>
    cases v with
    | object ms =>
      -- The tree that the text spells is the one that the reader of the content gets.
      obtain ⟨t, hspelled, ht⟩ := Value.ofText_eq_ok_iff.1 hv
      obtain ⟨body, after, -, hbody, -⟩ := id hspelled
      have hdenotes := hbody.denotes ht
      rw [Document.ofText_of_spelled hspelled]
      cases hdenotes with
      | @object members _ h =>
        simp only [Except.ok.injEq, Value.object.injEq, exists_eq_left', ← actionOf_eq_ok]
        cases actionOf (.object ms) with
        | error cause => simp
        | ok a =>
          rw [Except.ok.injEq, @eq_comm _ a, ← ofTree_eq_ok_iff h]
          dsimp only
          cases ofTree a (.object members) <;> simp
    | _ => simp

/-! ## Lines that say the same -/

/-- The keys that the schema of a kind names. -/
def contentKeys : Action → List String
  | .start => startShape.fields.map Field.name
  | .processRecords => batchShape.fields.map Field.name
  | .leaseLost => []
  | .shardEnded => []
  | .shutdownRequested => []
  | .shutdown => shutdownShape.fields.map Field.name
  | .checkpoint => checkpointShape.fields.map Field.name
  | .status => statusShape.fields.map Field.name

end Message

/-- Two objects that say the same of a record: they differ in the order of their members, and in
    members that no field has the name of. -/
inductive Record.Alike : List (String × Value) → List (String × Value) → Prop
  | refl (ms : List (String × Value)) : Record.Alike ms ms
  | symm {ms ms' : List (String × Value)} (h : Record.Alike ms ms') : Record.Alike ms' ms
  | trans {ms ms' ms'' : List (String × Value)} (h : Record.Alike ms ms')
      (h' : Record.Alike ms' ms'') : Record.Alike ms ms''
  | swap (before after : List (String × Value)) (m m' : String × Value) :
      Record.Alike (before ++ m :: m' :: after) (before ++ m' :: m :: after)
  | unknown (before after : List (String × Value)) {key : String} (v : Value)
      (h : key ∉ Record.fields.map Field.name) :
      Record.Alike (before ++ after) (before ++ (key, v) :: after)

/-- Two objects that say the same of a message of a kind: they differ in the order of their members,
    but for that of several members that name the kind, in members that the schema does not name,
    and in the same way in a record. -/
inductive Message.Alike (a : Action) : List (String × Value) → List (String × Value) → Prop
  | refl (ms : List (String × Value)) : Message.Alike a ms ms
  | symm {ms ms' : List (String × Value)} (h : Message.Alike a ms ms') : Message.Alike a ms' ms
  | trans {ms ms' ms'' : List (String × Value)} (h : Message.Alike a ms ms')
      (h' : Message.Alike a ms' ms'') : Message.Alike a ms ms''
  | swap (before after : List (String × Value)) {m m' : String × Value}
      (h : m.1 ≠ "action" ∨ m'.1 ≠ "action") :
      Message.Alike a (before ++ m :: m' :: after) (before ++ m' :: m :: after)
  | unknown (before after : List (String × Value)) {key : String} (v : Value)
      (haction : key ≠ "action") (h : key ∉ Message.contentKeys a) :
      Message.Alike a (before ++ after) (before ++ (key, v) :: after)
  | record (before after : List (String × Value)) (vs vs' : List Value)
      {ms ms' : List (String × Value)} (h : Record.Alike ms ms') :
      Message.Alike a (before ++ ("records", .array (vs ++ .object ms :: vs')) :: after)
        (before ++ ("records", .array (vs ++ .object ms' :: vs')) :: after)

theorem Required.of_perm {α : Type} {Means : Value → α → Prop} {key : String}
    {ms ms' : List (String × Value)} (hperm : (Value.under key ms).Perm (Value.under key ms'))
    {a : α} (h : Required Means key ms a) : Required Means key ms' a := by
  obtain ⟨v, hv, ha⟩ := h
  rw [hv] at hperm
  exact ⟨v, List.perm_singleton.1 hperm.symm, ha⟩

theorem Omissible.of_perm {α : Type} {Means : Value → α → Prop} {key : String}
    {ms ms' : List (String × Value)} (hperm : (Value.under key ms).Perm (Value.under key ms'))
    {o : Option α} (h : Omissible Means key ms o) : Omissible Means key ms' o := by
  rcases h with ⟨hv, ho⟩ | ⟨a, ha, ho⟩
  · rw [hv] at hperm
    exact .inl ⟨List.nil_perm.1 hperm, ho⟩
  · exact .inr ⟨a, ha.of_perm hperm, ho⟩

theorem Nullable.of_perm {α : Type} {Means : Value → α → Prop} {key : String}
    {ms ms' : List (String × Value)} (hperm : (Value.under key ms).Perm (Value.under key ms'))
    {o : Option α} (h : Nullable Means key ms o) : Nullable Means key ms' o := by
  rcases h with ⟨hv | hv, ho⟩ | ⟨a, ha, ho⟩
  · rw [hv] at hperm
    exact .inl ⟨.inl (List.nil_perm.1 hperm), ho⟩
  · rw [hv] at hperm
    exact .inl ⟨.inr (List.perm_singleton.1 hperm.symm), ho⟩
  · exact .inr ⟨a, ha.of_perm hperm, ho⟩

theorem Record.OfMembers.of_perm {ms ms' : List (String × Value)} {r : Record}
    (hperm : ∀ key ∈ Record.fields.map Field.name,
      (Value.under key ms).Perm (Value.under key ms'))
    (h : r.OfMembers ms) : r.OfMembers ms' := by
  obtain ⟨o, ho, hr⟩ := h.arrival
  exact {
    sequenceNumber := h.sequenceNumber.of_perm (hperm _ (by decide))
    subSequenceNumber := h.subSequenceNumber.of_perm (hperm _ (by decide))
    data := h.data.of_perm (hperm _ (by decide))
    partitionKey := h.partitionKey.of_perm (hperm _ (by decide))
    arrival := ⟨o, ho.of_perm (hperm _ (by decide)), hr⟩ }

theorem Message.Conforms.of_perm {ms ms' : List (String × Value)} {m : Message}
    (hperm : ∀ key ∈ Message.contentKeys m.action,
      (Value.under key ms).Perm (Value.under key ms'))
    (h : m.Conforms ms) : m.Conforms ms' := by
  cases m with
  | start c =>
    rw [Message.action] at hperm
    obtain ⟨hid, hs, hn⟩ := h
    exact ⟨hid.of_perm (hperm _ (by decide)), hs.of_perm (hperm _ (by decide)),
      hn.of_perm (hperm _ (by decide))⟩
  | processRecords c =>
    rw [Message.action] at hperm
    obtain ⟨hr, hn⟩ := h
    exact ⟨hr.of_perm (hperm _ (by decide)), hn.of_perm (hperm _ (by decide))⟩
  | leaseLost => trivial
  | shardEnded => trivial
  | shutdownRequested => trivial
  | shutdown reason =>
    rw [Message.action] at hperm
    exact Required.of_perm (hperm _ (by decide)) h
  | checkpoint c =>
    rw [Message.action] at hperm
    obtain ⟨hs, hn, he⟩ := h
    exact ⟨hs.of_perm (hperm _ (by decide)), hn.of_perm (hperm _ (by decide)),
      he.of_perm (hperm _ (by decide))⟩
  | status a =>
    rw [Message.action] at hperm
    exact Required.of_perm (hperm _ (by decide)) h

theorem Record.Alike.under_perm {ms ms' : List (String × Value)} (h : Record.Alike ms ms') :
    ∀ key ∈ Record.fields.map Field.name, (Value.under key ms).Perm (Value.under key ms') := by
  intro key hkey
  -- Each step keeps the values under a field's name, up to their order.
  induction h with
  | refl ms => exact .refl _
  | symm _ ih => exact ih.symm
  | trans _ _ ih ih' => exact ih.trans ih'
  | swap before after m m' => exact Value.under_perm ((List.Perm.swap m' m after).append_left _) key
  | @unknown before after k v h =>
    have hne : k ≠ key := by
      rintro rfl
      exact h hkey
    rw [Value.under_unknown hne]

/-- Alike objects are the same records. -/
theorem Record.Alike.isRecord {ms ms' : List (String × Value)} (h : Record.Alike ms ms')
    {r : Record} (hr : IsRecord (.object ms) r) : IsRecord (.object ms') r := by
  cases hr with
  | object hr => exact .object (hr.of_perm h.under_perm)

theorem forall₂_replace {α : Type} {Means : Value → α → Prop} {v v' : Value}
    (h : ∀ a, Means v a → Means v' a) {vs vs' : List Value} {as : List α}
    (has : List.Forall₂ Means (vs ++ v :: vs') as) :
    List.Forall₂ Means (vs ++ v' :: vs') as := by
  induction vs generalizing as with
  | nil =>
    cases has with
    | cons hv hvs => exact .cons (h _ hv) hvs
  | cons w vs ih =>
    cases has with
    | cons hw hvs => exact .cons hw (ih hvs)

theorem Message.Conforms.of_record {before after ms ms' : List (String × Value)}
    {vs vs' : List Value} (h : Record.Alike ms ms') {m : Message}
    (hm : m.Conforms (before ++ ("records", .array (vs ++ .object ms :: vs')) :: after)) :
    m.Conforms (before ++ ("records", .array (vs ++ .object ms' :: vs')) :: after) := by
  have hother : ∀ key, "records" ≠ key →
      (Value.under key (before ++ ("records", .array (vs ++ .object ms :: vs')) :: after)).Perm
        (Value.under key (before ++ ("records", .array (vs ++ .object ms' :: vs')) :: after)) := by
    intro key hkey
    rw [Value.under_unknown hkey, Value.under_unknown hkey]
  by_cases hrecords : ∃ c, m = .processRecords c
  · obtain ⟨c, rfl⟩ := hrecords
    obtain ⟨⟨v, hv, ws, rfl, hws⟩, hn⟩ := hm
    refine ⟨?_, hn.of_perm (hother _ (by decide))⟩
    -- A second member under the key would have been refused.
    rw [Value.under_append, Value.under_cons_self, List.append_eq_singleton_iff] at hv
    obtain ⟨hbefore, hv⟩ | ⟨-, hv⟩ := hv
    · obtain ⟨harray, hafter⟩ := List.cons.inj hv
      obtain rfl := Value.array.inj harray
      refine ⟨_, ?_, _, rfl, forall₂_replace (fun r hr => h.isRecord hr) hws⟩
      rw [Value.under_append, Value.under_cons_self, hbefore, hafter, List.nil_append]
    · simp at hv
  · refine hm.of_perm fun key hkey => hother key ?_
    rintro rfl
    cases m with
    | processRecords c => exact hrecords ⟨c, rfl⟩
    | _ => revert hkey; rw [Message.action]; decide

theorem Message.Alike.iff {a : Action} {ms ms' : List (String × Value)}
    (h : Message.Alike a ms ms') :
    (Value.under "action" ms).getLast? = (Value.under "action" ms').getLast? ∧
      ∀ m : Message, m.action = a → (m.Conforms ms ↔ m.Conforms ms') := by
  induction h with
  | refl ms => exact ⟨rfl, fun _ _ => Iff.rfl⟩
  | symm _ ih => exact ⟨ih.1.symm, fun m hm => (ih.2 m hm).symm⟩
  | trans _ _ ih ih' => exact ⟨ih.1.trans ih'.1, fun m hm => (ih.2 m hm).trans (ih'.2 m hm)⟩
  | @swap before after n n' h =>
    have hperm := (List.Perm.swap n' n after).append_left before
    refine ⟨?_, fun m _ => ⟨.of_perm fun key _ => ?_, .of_perm fun key _ => ?_⟩⟩
    -- Of the members that name the kind none changed places with another.
    · rcases h with h | h <;> simp [Value.under, List.filter_cons, h]
    · exact Value.under_perm hperm key
    · exact Value.under_perm hperm.symm key
  | @unknown before after k v haction h =>
    refine ⟨by rw [Value.under_unknown haction], ?_⟩
    rintro m rfl
    have hsame : ∀ key ∈ Message.contentKeys m.action,
        Value.under key (before ++ (k, v) :: after) = Value.under key (before ++ after) := by
      intro key hkey
      refine Value.under_unknown ?_ before after v
      rintro rfl
      exact h hkey
    refine ⟨.of_perm fun key hkey => ?_, .of_perm fun key hkey => ?_⟩
    · rw [hsame key hkey]
    · rw [hsame key hkey]
  | record before after vs vs' h =>
    refine ⟨?_, fun m _ => ⟨.of_record h, .of_record h.symm⟩⟩
    rw [Value.under_unknown (by decide), Value.under_unknown (by decide)]

/-! ## The grammar of lines -/

namespace Message

/-- A line is a message exactly when it is an object whose last `action` names the kind of the
    message and whose members conform to the schema of that kind.  A literal is a whole number when
    it has neither point nor exponent and is not a zero with a sign.  So lines that say the same
    are the same message, and so are lines that only spell the same tree in other ways. -/
theorem decode_accepts_grammar :
    (∀ (line : String) (m : Message), decode line = .ok m ↔
      ∃ ms, Value.ofText line = .ok (.object ms) ∧
        (Value.under "action" ms).getLast? = some (.string m.action.name) ∧ Conforms ms m) ∧
    (∀ (l : Numeral) (n : Int), l.number = .ok (.integer n) ↔
      l.fraction = [] ∧ l.exponent = none ∧
        Text.Decimal.value l.whole ≤ Numeral.greatestWhole ∧
        (l.negative = false ∧ n = Text.Decimal.value l.whole ∨
          l.negative = true ∧ 0 < Text.Decimal.value l.whole ∧
            Text.Decimal.value l.whole ≤ Numeral.greatestNegated ∧
            n = -(Text.Decimal.value l.whole : Int))) ∧
    (∀ (line line' : String) (ms ms' : List (String × Value)) (m : Message),
      Value.ofText line = .ok (.object ms) → Value.ofText line' = .ok (.object ms') →
        Alike m.action ms ms' → (decode line = .ok m ↔ decode line' = .ok m)) ∧
    ∀ (line line' : String) (t : Tree) (m : Message),
      Document.Spelled line.toList t → Document.Spelled line'.toList t →
        (decode line = .ok m ↔ decode line' = .ok m) := by
  refine ⟨fun _ _ => decode_iff, fun _ _ => Numeral.number_eq_integer, ?_, ?_⟩
  · intro line line' ms ms' m hline hline' halike
    obtain ⟨haction, hconforms⟩ := halike.iff
    simp [decode_iff, hline, hline', haction, hconforms m rfl]
  · intro line line' t m ht ht'
    rw [decode_eq_ok_ofDocument, decode_eq_ok_ofDocument, Document.ofText_of_spelled ht,
      Document.ofText_of_spelled ht']

/-- A shutdown with its members in another order, and with one more; and the same with spaces and
    an escape. -/
theorem decode_shutdown_alike :
    (decode "\x7b\"action\":\"shutdown\",\"reason\":\"ZOMBIE\"\x7d" = .ok (.shutdown .zombie) ↔
      decode "\x7b\"x\":[1],\"reason\":\"ZOMBIE\",\"action\":\"shutdown\"\x7d" =
        .ok (.shutdown .zombie)) ∧
    (decode "\x7b\"action\":\"shutdown\",\"reason\":\"ZOMBIE\"\x7d" = .ok (.shutdown .zombie) ↔
      decode "\x7b\"action\" : \"shut\\u0064own\", \"reason\" : \"ZOMBIE\"\x7d " =
        .ok (.shutdown .zombie)) := by
  let v : Value := .object [("action", .string "shutdown"), ("reason", .string "ZOMBIE")]
  constructor
  · refine decode_accepts_grammar.2.2.1 _ _
      [("action", .string "shutdown"), ("reason", .string "ZOMBIE")]
      [("x", .array [.int 1]), ("reason", .string "ZOMBIE"), ("action", .string "shutdown")]
      (.shutdown .zombie) (by cbv) (by cbv) ?_
    exact .trans (.swap [] [] (.inr (by decide))) (.unknown [] _ _ (by decide) (by decide))
  · refine decode_accepts_grammar.2.2.2 _ _
      (Document.ofText "\x7b\"action\":\"shutdown\",\"reason\":\"ZOMBIE\"\x7d".toList).root
      (.shutdown .zombie) (Document.spelled_root (v := v) (by cbv)) ?_
    have hsame : (Document.ofText
        "\x7b\"action\":\"shutdown\",\"reason\":\"ZOMBIE\"\x7d".toList).root =
          (Document.ofText
            "\x7b\"action\" : \"shut\\u0064own\", \"reason\" : \"ZOMBIE\"\x7d ".toList).root := by
      cbv
    rw [hsame]
    exact Document.spelled_root (v := v) (by cbv)

end Message

end ShardBridge
