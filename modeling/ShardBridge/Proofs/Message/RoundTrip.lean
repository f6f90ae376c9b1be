/-
  ShardBridge.Proofs.Message.RoundTrip

  Every message survives its line.  The object that stands for a message is
  printed without loss and conforms to the schema of its kind, so decoding the
  line gives the message back (`Message.decode_encode`).
-/
import ShardBridge.Proofs.Json.Rendering
import ShardBridge.Proofs.Message.Decoding

namespace ShardBridge

open Json
open Record (optionalMember int64Value)

/-! ## Members -/

section Members

variable {α : Type} {Means : Value → α → Prop} {toValue : α → Value} {key : String}
  {ms : List (String × Value)}

theorem under_cons (key k : String) (v : Value) (ms : List (String × Value)) :
    Value.under key ((k, v) :: ms) = if k = key then v :: Value.under key ms
      else Value.under key ms := by
  split
  · next h => rw [h, Value.under_cons_self]
  · next h => exact Value.under_cons_of_ne h v ms

theorem under_optionalMember (key k : String) (toValue : α → Value) (o : Option α) :
    Value.under key (optionalMember k toValue o) =
      if k = key then (o.map toValue).toList else [] := by
  cases o <;> simp [optionalMember, under_cons]

theorem nullable_of_under (hmeans : ∀ a, Means (toValue a) a) {o : Option α}
    (h : Value.under key ms = (o.map toValue).toList) : Nullable Means key ms o := by
  cases o with
  | none => exact .inl ⟨.inl h, rfl⟩
  | some a => exact .inr ⟨a, ⟨toValue a, h, hmeans a⟩, rfl⟩

theorem nullable_of_under_null (hmeans : ∀ a, Means (toValue a) a) {o : Option α}
    (h : Value.under key ms = [(o.map toValue).getD .null]) : Nullable Means key ms o := by
  cases o with
  | none => exact .inl ⟨.inr h, rfl⟩
  | some a => exact .inr ⟨a, ⟨toValue a, h, hmeans a⟩, rfl⟩

end Members

theorem isString_string (s : String) : IsString (.string s) s := rfl

theorem isInt64_value (n : Int64) : IsInt64 (int64Value n) n := rfl

/-! ## Conformity -/

theorem isRecord_toJson (r : Record) : IsRecord r.toJson r := by
  refine .object ?_
  exact {
    sequenceNumber := ⟨_, by simp [Value.under_append, under_cons, under_optionalMember], rfl⟩
    subSequenceNumber := nullable_of_under isInt64_value
      (by simp [Value.under_append, under_cons, under_optionalMember])
    data := ⟨_, by simp [Value.under_append, under_cons, under_optionalMember], rfl⟩
    partitionKey := ⟨_, by simp [Value.under_append, under_cons, under_optionalMember], rfl⟩
    arrival := ⟨some r.arrival, .inr ⟨_, ⟨int64Value r.arrival, by
      simp [Value.under_append, under_cons, under_optionalMember], isInt64_value _⟩, rfl⟩, rfl⟩ }

theorem isList_toJson (rs : List Record) : IsList IsRecord (.array (rs.map Record.toJson)) rs := by
  refine ⟨_, rfl, ?_⟩
  induction rs with
  | nil => exact .nil
  | cons r rs ih => exact .cons (isRecord_toJson r) ih

namespace Message

/-- The members of a message as they are written. -/
def entries (m : Message) : List (String × Value) := ("action", .string m.tag) :: m.members

/-- What is written conforms to the schema. -/
theorem conforms_entries (m : Message) : Conforms m.entries m := by
  cases m with
  | start c =>
    refine ⟨⟨_, ?_, isString_string _⟩, nullable_of_under isString_string ?_,
      nullable_of_under isInt64_value ?_⟩ <;>
      simp [entries, members, Value.under_append, under_cons, under_optionalMember]
  | processRecords c =>
    refine ⟨⟨_, ?_, isList_toJson _⟩, nullable_of_under isInt64_value ?_⟩ <;>
      simp [entries, members, under_cons, under_optionalMember]
  | leaseLost => trivial
  | shardEnded => trivial
  | shutdownRequested => trivial
  | shutdown reason =>
    refine ⟨.string reason.name, ?_, .inl rfl⟩
    simp [entries, members, under_cons, reason.variantName_eq]
  | checkpoint c =>
    refine ⟨nullable_of_under_null isString_string ?_, nullable_of_under isInt64_value ?_,
      nullable_of_under isString_string ?_⟩ <;>
      simp [entries, members, Value.under_append, under_cons, under_optionalMember]
  | status a =>
    refine ⟨.string a.name, ?_, .inl rfl⟩
    simp [entries, members, under_cons, a.variantName_eq]

/-- What is written names the kind, once. -/
theorem under_action_entries (m : Message) :
    Value.under "action" m.entries = [.string m.tag] := by
  cases m <;> simp [entries, members, Value.under_append, under_cons, under_optionalMember]

end Message

/-! ## Printing -/

theorem printableMembers_append {depth : Nat} {ms ms' : List (String × Value)} :
    Value.PrintableMembers depth (ms ++ ms') ↔
      Value.PrintableMembers depth ms ∧ Value.PrintableMembers depth ms' := by
  induction ms with
  | nil => simp [Value.PrintableMembers]
  | cons m ms ih => simp [Value.PrintableMembers, ih, and_assoc]

theorem printable_string {depth : Nat} (s : String) : (Value.string s).Printable depth := by
  simp [Value.Printable]

theorem printable_int64Value (depth : Nat) (n : Int64) : (int64Value n).Printable depth := by
  have hleast := n.le_toInt
  have hgreatest := n.toInt_lt
  show -((9223372036854775808 : Nat) : Int) ≤ n.toInt ∧
    n.toInt ≤ ((18446744073709551615 : Nat) : Int)
  omega

theorem printable_optionalMember {α : Type} {toValue : α → Value} {depth : Nat}
    (h : ∀ a, (toValue a).Printable depth) (key : String) (o : Option α) :
    Value.PrintableMembers depth (optionalMember key toValue o) := by
  cases o with
  | none => trivial
  | some a => exact ⟨h a, trivial⟩

theorem printable_record (depth : Nat) (r : Record) : r.toJson.Printable (depth + 1) := by
  simp [Record.toJson, Value.Printable, Value.PrintableMembers, printableMembers_append,
    printable_optionalMember, printable_int64Value]

theorem printable_records (depth : Nat) (rs : List Record) :
    Value.PrintableItems (depth + 1) (rs.map Record.toJson) := by
  induction rs with
  | nil => trivial
  | cons r rs ih => exact ⟨printable_record depth r, ih⟩

namespace Message

/-- No message is lost in print: there are at most four levels in it. -/
theorem printable_toJson (m : Message) : m.toJson.Printable greatestDepth := by
  cases m with
  | checkpoint c =>
    -- Its position is written even when there is none.
    obtain ⟨s, n, e⟩ := c
    cases s <;>
      simp [toJson, members, greatestDepth, Value.Printable, Value.PrintableMembers,
        printableMembers_append, printable_optionalMember, printable_int64Value,
        printable_optionalMember printable_string]
  | _ =>
    simp [toJson, members, greatestDepth, Value.Printable, Value.PrintableMembers,
      printableMembers_append, printable_optionalMember, printable_int64Value, printable_records,
      printable_optionalMember printable_string]

/-- A message survives its line. -/
theorem decode_encode (m : Message) : decode m.encode = .ok m := by
  refine decode_iff.2 ⟨m.entries, Value.ofText_text m.printable_toJson, ?_, m.conforms_entries⟩
  rw [under_action_entries, tag_eq]
  rfl

/-- Every message survives its line; two messages are equal exactly when their lines are; and the
    line of a message that was decoded decodes to that message again. -/
theorem encode_decode_round_trip :
    (∀ m : Message, decode m.encode = .ok m) ∧ (∀ m m' : Message, m = m' ↔ m.encode = m'.encode) ∧
      ∀ line : String, (decode line).bind (fun m => decode m.encode) = decode line := by
  refine ⟨decode_encode, ?_, ?_⟩
  · intro m m'
    constructor
    · rintro rfl
      rfl
    · intro h
      -- One line decodes to one message.
      have hm := decode_encode m
      rw [h, decode_encode m'] at hm
      exact (Except.ok.inj hm).symm
  · intro line
    cases hm : decode line with
    | error e => rfl
    | ok m => rw [Except.bind, decode_encode]

end Message

end ShardBridge
