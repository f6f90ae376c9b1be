/-
  ShardBridge.Proofs.Message.WireTable

  What anybody can read off the line of a message.  The wire table says which
  members a message has, and which value stands under each (`Message.OnWire`,
  `Record.OnWire`); it says nothing of their order.  The general reader of JSON
  finds just these members in a line, each of them once
  (`Message.ofText_encode`), so a reader that knows nothing of how lines are
  written gets every field.
-/
import ShardBridge.Proofs.Message.RoundTrip

namespace ShardBridge

open Json
open Record (optionalMember int64Value)

/-! ## Objects by their members -/

/-- The value is an object that has a member for everything in the table, each of them once, and no
    other. -/
def Json.Value.HasExactly (v : Value) (table : String → Value → Prop) : Prop :=
  ∃ ms, v = .object ms ∧ (ms.map Prod.fst).Nodup ∧ (∀ key w, (key, w) ∈ ms → table key w) ∧
    ∀ key w, table key w → key ∈ ms.map Prod.fst

theorem mem_optionalMember {α : Type} {toValue : α → Value} {key k : String} {w : Value}
    {o : Option α} :
    (k, w) ∈ optionalMember key toValue o ↔ k = key ∧ ∃ a, o = some a ∧ w = toValue a := by
  cases o <;> simp [optionalMember]

/-! ## The wire table -/

/-- The members of a record. -/
inductive Record.OnWire (r : Record) : String → Value → Prop
  | sequenceNumber : r.OnWire "sequenceNumber" (.string r.sequenceNumber)
  | subSequenceNumber {n : Int64} (h : r.subSequenceNumber = some n) :
      r.OnWire "subSequenceNumber" (.int n.toInt)
  /-- The payload as it is held, which is in base64. -/
  | data : r.OnWire "data" (.string r.data)
  | partitionKey : r.OnWire "partitionKey" (.string r.partitionKey)
  | arrival : r.OnWire "approximateArrivalTimestamp" (.int r.arrival.toInt)

/-- The members of a message. -/
inductive Message.OnWire : Message → String → Value → Prop
  | action (m : Message) : OnWire m "action" (.string m.action.name)
  | shardId (c : ShardStart) : OnWire (.start c) "shardId" (.string c.shardId)
  | startSequence {c : ShardStart} {s : String} (h : c.sequenceNumber = some s) :
      OnWire (.start c) "sequenceNumber" (.string s)
  | startSubSequence {c : ShardStart} {n : Int64} (h : c.subSequenceNumber = some n) :
      OnWire (.start c) "subSequenceNumber" (.int n.toInt)
  | records {c : Batch} {vs : List Value}
      (h : List.Forall₂ (fun r v => v.HasExactly (Record.OnWire r)) c.records vs) :
      OnWire (.processRecords c) "records" (.array vs)
  | millisBehindLatest {c : Batch} {n : Int64} (h : c.millisBehindLatest = some n) :
      OnWire (.processRecords c) "millisBehindLatest" (.int n.toInt)
  | reason (reason : ShutdownReason) : OnWire (.shutdown reason) "reason" (.string reason.name)
  | position {c : CheckpointNotice} {s : String} (h : c.sequenceNumber = some s) :
      OnWire (.checkpoint c) "sequenceNumber" (.string s)
  /-- The last record that was delivered has no position, and that is said. -/
  | noPosition {c : CheckpointNotice} (h : c.sequenceNumber = none) :
      OnWire (.checkpoint c) "sequenceNumber" .null
  | subPosition {c : CheckpointNotice} {n : Int64} (h : c.subSequenceNumber = some n) :
      OnWire (.checkpoint c) "subSequenceNumber" (.int n.toInt)
  | error {c : CheckpointNotice} {e : String} (h : c.error = some e) :
      OnWire (.checkpoint c) "error" (.string e)
  | responseFor (a : Action) : OnWire (.status a) "responseFor" (.string a.name)

/-! ## Records -/

/-- The object of a record has the members of the table. -/
theorem Record.hasExactly_toJson (r : Record) : r.toJson.HasExactly r.OnWire := by
  refine ⟨_, rfl, ?_, ?_, ?_⟩
  · cases hn : r.subSequenceNumber <;> simp [optionalMember]
  · intro key w h
    simp only [List.mem_append, List.mem_cons, List.not_mem_nil, or_false, mem_optionalMember,
      Prod.mk.injEq] at h
    rcases h with (⟨rfl, rfl⟩ | ⟨rfl, n, hn, rfl⟩) | ⟨rfl, rfl⟩ | ⟨rfl, rfl⟩ | ⟨rfl, rfl⟩
    · exact .sequenceNumber
    · exact .subSequenceNumber hn
    · exact .data
    · exact .partitionKey
    · exact .arrival
  · intro key w h
    cases h with
    | subSequenceNumber hn => simp [mem_optionalMember, hn]
    | _ => simp

theorem Record.forall₂_toJson (rs : List Record) :
    List.Forall₂ (fun r v => v.HasExactly (Record.OnWire r)) rs (rs.map Record.toJson) := by
  rw [List.forall₂_map_right_iff, List.forall₂_same]
  intro r _
  exact r.hasExactly_toJson

/-! ## Messages -/

namespace Message

theorem nodup_keys (m : Message) : (m.entries.map Prod.fst).Nodup := by
  cases m with
  | start c => cases hs : c.sequenceNumber <;> cases hn : c.subSequenceNumber <;>
      simp [entries, members, optionalMember, hs, hn]
  | processRecords c => cases hn : c.millisBehindLatest <;>
      simp [entries, members, optionalMember, hn]
  | checkpoint c => cases hn : c.subSequenceNumber <;> cases he : c.error <;>
      simp [entries, members, optionalMember, hn, he]
  | _ => simp [entries, members]

/-- What is written stands in the table. -/
theorem onWire_of_mem {m : Message} {key : String} {w : Value} (h : (key, w) ∈ m.entries) :
    m.OnWire key w := by
  rcases List.mem_cons.1 h with h | h
  · obtain ⟨rfl, rfl⟩ := Prod.mk.inj h
    rw [tag_eq]
    exact .action m
  cases m with
  | start c =>
    simp only [members, List.mem_append, List.mem_singleton, mem_optionalMember,
      Prod.mk.injEq] at h
    rcases h with (⟨rfl, rfl⟩ | ⟨rfl, s, hs, rfl⟩) | ⟨rfl, n, hn, rfl⟩
    · exact .shardId c
    · exact .startSequence hs
    · exact .startSubSequence hn
  | processRecords c =>
    simp only [members, List.mem_append, List.mem_singleton, mem_optionalMember,
      Prod.mk.injEq] at h
    rcases h with ⟨rfl, rfl⟩ | ⟨rfl, n, hn, rfl⟩
    · exact .records (Record.forall₂_toJson c.records)
    · exact .millisBehindLatest hn
  | leaseLost => cases h
  | shardEnded => cases h
  | shutdownRequested => cases h
  | shutdown reason =>
    obtain ⟨rfl, rfl⟩ := Prod.mk.inj (List.mem_singleton.1 h)
    rw [reason.variantName_eq]
    exact .reason reason
  | checkpoint c =>
    simp only [members, List.mem_append, List.mem_singleton, mem_optionalMember,
      Prod.mk.injEq] at h
    rcases h with (⟨rfl, rfl⟩ | ⟨rfl, n, hn, rfl⟩) | ⟨rfl, e, he, rfl⟩
    · -- The position is written even when there is none.
      cases hs : c.sequenceNumber with
      | none => exact .noPosition hs
      | some s => exact .position hs
    · exact .subPosition hn
    · exact .error he
  | status a =>
    obtain ⟨rfl, rfl⟩ := Prod.mk.inj (List.mem_singleton.1 h)
    rw [a.variantName_eq]
    exact .responseFor a

/-- What stands in the table is written. -/
theorem mem_keys_of_onWire {m : Message} {key : String} {w : Value} (h : m.OnWire key w) :
    key ∈ m.entries.map Prod.fst := by
  cases h with
  | startSequence hs => simp [entries, members, mem_optionalMember, hs]
  | startSubSequence hn => simp [entries, members, mem_optionalMember, hn]
  | millisBehindLatest hn => simp [entries, members, mem_optionalMember, hn]
  | subPosition hn => simp [entries, members, mem_optionalMember, hn]
  | error he => simp [entries, members, mem_optionalMember, he]
  | _ => simp [entries, members]

/-- The line of a message is an object to everybody who reads JSON, and it has the members of the
    wire table, each of them once, and no other. -/
theorem ofText_encode (m : Message) :
    ∃ v, Value.ofText m.encode = .ok v ∧ v.HasExactly m.OnWire := by
  refine ⟨m.toJson, Value.ofText_text m.printable_toJson, m.entries, rfl, m.nodup_keys, ?_, ?_⟩
  · intro key w h
    exact onWire_of_mem h
  · intro key w h
    exact mem_keys_of_onWire h

end Message

end ShardBridge
