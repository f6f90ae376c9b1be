/-
  ShardBridge.Record.Held

  A record in the hands of a processor. Its payload is decoded when it is first
  asked for, and the outcome, good or bad, is kept; a record made from bytes
  has it from the start. Two held records are equal when they travel alike,
  whether or not anyone has asked for their payloads.
-/
import ShardBridge.Record

namespace ShardBridge

/-- A record and, once it is known, the outcome of decoding its payload. -/
structure HeldRecord where
  record : Record
  known : Option (Except Base64.Error (List UInt8))

namespace HeldRecord

/-- A record that was read from the wire. -/
def ofRecord (r : Record) : HeldRecord := ⟨r, none⟩

/-- A record made from bytes. -/
def ofBytes (sequenceNumber partitionKey : String) (bytes : List UInt8) : HeldRecord :=
  ⟨Record.ofBytes sequenceNumber partitionKey bytes, some (.ok bytes)⟩

def withSubSequenceNumber (h : HeldRecord) (n : Int64) : HeldRecord :=
  { h with record := h.record.withSubSequenceNumber n }

def withArrival (h : HeldRecord) (millis : Int64) : HeldRecord :=
  { h with record := h.record.withArrival millis }

/-- A copy knows what the record knows. -/
def copy (h : HeldRecord) : HeldRecord := { record := h.record, known := h.known }

/-- The payload, and the record that now keeps it. -/
def data (h : HeldRecord) : Except Base64.Error (List UInt8) × HeldRecord :=
  match h.known with
  | some outcome => (outcome, h)
  | none => (h.record.payload, { h with known := some h.record.payload })

/-- The two records travel alike. -/
def same (a b : HeldRecord) : Bool := a.record = b.record

instance : BEq HeldRecord := ⟨same⟩

end HeldRecord

end ShardBridge
