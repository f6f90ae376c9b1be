/-
  ShardBridge.Proofs.Record.Held

  Records and the payloads that are kept with them.  However a processor comes
  to hold a record, what is kept is what decoding its text gives
  (`HeldRecord.Coherent`): a record made from bytes keeps the bytes that its
  text spells, and every other one decodes the text when it is asked.  So it
  makes no difference whether anyone has asked, and texts and bytes determine
  each other (`HeldRecord.payload_coherent`).
-/
import ShardBridge.Proofs.Message.RoundTrip
import ShardBridge.Proofs.Text.Base64
import ShardBridge.Record.Held

namespace ShardBridge

open Json

/-- A record survives its text. -/
theorem Record.ofText_toJson (r : Record) : Record.ofText r.toJson.text = .ok r := by
  have hprintable : r.toJson.Printable greatestDepth := printable_record _ r
  obtain ⟨t, hspelled, hvalue⟩ := Value.ofText_eq_ok_iff.1 (Value.ofText_text hprintable)
  obtain ⟨body, after, -, hbody, -⟩ := id hspelled
  have hread : Record.ofTree t = .ok r :=
    (Record.agrees_ofTree (hbody.denotes hvalue) r).2 (isRecord_toJson r)
  rw [Record.ofText, Document.ofText_of_spelled hspelled, Document.read]
  dsimp only
  rw [hread]
  rfl

namespace HeldRecord

/-! ## Ways to come by a record -/

/-- A processor can come to hold the record: it makes it from bytes or gets it from the wire, where
    any record can come from, and it sets fields, takes copies and asks for the payload, in any
    order and as often as it likes. -/
inductive Obtained : HeldRecord → Prop
  | ofBytes (sequenceNumber partitionKey : String) (bytes : List UInt8) :
    Obtained (ofBytes sequenceNumber partitionKey bytes)
  | ofRecord (r : Record) : Obtained (ofRecord r)
  | withSubSequenceNumber {h : HeldRecord} (hh : Obtained h) (n : Int64) :
    Obtained (h.withSubSequenceNumber n)
  | withArrival {h : HeldRecord} (hh : Obtained h) (millis : Int64) :
    Obtained (h.withArrival millis)
  | copied {h : HeldRecord} (hh : Obtained h) : Obtained h.copy
  | asked {h : HeldRecord} (hh : Obtained h) : Obtained h.data.2

/-- What is kept, if anything is, is what decoding gives. -/
def Coherent (h : HeldRecord) : Prop := ∀ outcome ∈ h.known, outcome = h.record.payload

theorem Coherent.data_fst {h : HeldRecord} (hh : h.Coherent) : h.data.1 = h.record.payload := by
  rw [data]
  split
  · next outcome hknown => exact hh outcome hknown
  · rfl

/-- Asking changes nothing but what is kept. -/
theorem record_data_snd (h : HeldRecord) : h.data.2.record = h.record := by
  rw [data]
  split <;> rfl

theorem coherent_ofBytes (sequenceNumber partitionKey : String) (bytes : List UInt8) :
    (ofBytes sequenceNumber partitionKey bytes).Coherent := by
  intro outcome houtcome
  obtain rfl : Except.ok bytes = outcome := Option.some.inj houtcome
  exact (Base64.decodeText_eq_ok_iff.2 rfl).symm

theorem Coherent.asked {h : HeldRecord} (hh : h.Coherent) : h.data.2.Coherent := by
  intro outcome houtcome
  rw [record_data_snd]
  rw [data] at houtcome
  split at houtcome
  · exact hh outcome houtcome
  · exact (Option.some.inj houtcome).symm

theorem Obtained.coherent {h : HeldRecord} (hh : Obtained h) : h.Coherent := by
  -- The text of the payload is set once; no way to go on changes it.
  induction hh with
  | ofBytes s key bytes => exact coherent_ofBytes s key bytes
  | ofRecord r => exact fun _ houtcome => nomatch houtcome
  | withSubSequenceNumber _ n ih => exact ih
  | withArrival _ millis ih => exact ih
  | copied _ ih => exact ih
  | asked _ ih => exact ih.asked

theorem Obtained.data_fst {h : HeldRecord} (hh : Obtained h) :
    h.data.1 = Base64.decodeText h.record.data :=
  hh.coherent.data_fst

/-! ## What is kept makes no difference -/

/-- The records cannot be told apart by asking, comparing, copying or writing them. -/
structure Alike (h h' : HeldRecord) : Prop where
  data : h.data.1 = h'.data.1
  beq_left : ∀ other, (h == other) = (h' == other)
  beq_right : ∀ other : HeldRecord, (other == h) = (other == h')
  copy_data : h.copy.data.1 = h'.copy.data.1
  copy_beq : (h.copy == h'.copy) = true
  text : h.record.toJson.text = h'.record.toJson.text

theorem beq_eq (h h' : HeldRecord) : (h == h') = decide (h.record = h'.record) := rfl

/-- Records with the same fields are alike, whoever has asked for their payloads. -/
theorem Obtained.alike {h h' : HeldRecord} (hh : Obtained h) (hh' : Obtained h')
    (hrecord : h.record = h'.record) : Alike h h' where
  data := by rw [hh.data_fst, hh'.data_fst, hrecord]
  beq_left other := by rw [beq_eq, beq_eq, hrecord]
  beq_right other := by rw [beq_eq, beq_eq, hrecord]
  copy_data := by
    rw [hh.copied.data_fst, hh'.copied.data_fst]
    exact congrArg (fun r : Record => Base64.decodeText r.data) hrecord
  copy_beq := by
    rw [beq_eq, decide_eq_true_eq]
    exact hrecord
  text := by rw [hrecord]

/-- Texts determine payloads, and payloads determine texts. -/
theorem Obtained.data_eq_iff {h h' : HeldRecord} (hh : Obtained h) (hh' : Obtained h')
    {bytes bytes' : List UInt8} (hbytes : h.data.1 = .ok bytes) (hbytes' : h'.data.1 = .ok bytes') :
    h.record.data = h'.record.data ↔ bytes = bytes' := by
  rw [hh.data_fst] at hbytes
  rw [hh'.data_fst] at hbytes'
  constructor
  · intro htext
    rw [htext, hbytes'] at hbytes
    exact (Except.ok.inj hbytes).symm
  · rintro rfl
    rw [Base64.decodeText_eq_ok_iff.1 hbytes, Base64.decodeText_eq_ok_iff.1 hbytes']

/-- Asking for the payload gives what strict decoding of the text gives, and that is some bytes
    exactly when the text is the one that spells them.  It changes no field, and records with the
    same fields are alike; the texts of readable records are equal exactly when their bytes are.  A
    record made from bytes gives them back, at once and after it has been written and read. -/
theorem payload_coherent :
    (∀ h, Obtained h → h.data.1 = Base64.decodeText h.record.data ∧
      h.data.2.record = h.record ∧
      ∀ bytes, h.data.1 = .ok bytes ↔ Base64.Spells bytes h.record.data.toList) ∧
    (∀ h h', Obtained h → Obtained h' → (h.record = h'.record → Alike h h') ∧
      ∀ bytes bytes', h.data.1 = .ok bytes → h'.data.1 = .ok bytes' →
        (h.record.data = h'.record.data ↔ bytes = bytes')) ∧
    ∀ sequenceNumber partitionKey bytes,
      (ofBytes sequenceNumber partitionKey bytes).data.1 = .ok bytes ∧
        ∃ r, Record.ofText (ofBytes sequenceNumber partitionKey bytes).record.toJson.text = .ok r ∧
          (ofRecord r).data.1 = .ok bytes := by
  refine ⟨fun h hh => ⟨hh.data_fst, record_data_snd h, fun bytes => ?_⟩,
    fun h h' hh hh' => ⟨hh.alike hh', fun _ _ => hh.data_eq_iff hh'⟩, fun s key bytes => ⟨rfl, ?_⟩⟩
  · rw [hh.data_fst, Base64.decodeText_eq_ok_iff_spells]
  · exact ⟨_, Record.ofText_toJson _, Base64.decodeText_eq_ok_iff.2 rfl⟩

/-- A record of two bytes. -/
def pair : HeldRecord := ofBytes "1" "key" [0xFB, 0xFF]

/-- The record as it comes from the wire. -/
def received : HeldRecord := ofRecord ⟨"1", none, "+/8=", "key", 0⟩

theorem obtained_pair : Obtained pair := .ofBytes ..

theorem obtained_received : Obtained received := .ofRecord _

/-- A record from the wire, asked and then dated, is alike to one made from the bytes. -/
theorem payload_coherent_received :
    Alike (received.data.2.copy.withArrival 5) (pair.withArrival 5) ∧
      received.data.1 = .ok [0xFB, 0xFF] ∧ Base64.Spells [0xFB, 0xFF] ['+', '/', '8', '='] := by
  obtain ⟨hdata, hpair, -⟩ := payload_coherent
  have hreceived : received.data.1 = .ok [0xFB, 0xFF] := by decide
  refine ⟨?_, hreceived, ?_⟩
  · exact (hpair _ _ (obtained_received.asked.copied.withArrival 5)
      (obtained_pair.withArrival 5)).1 (by decide)
  · exact ((hdata received obtained_received).2.2 _).1 hreceived

end HeldRecord

end ShardBridge
