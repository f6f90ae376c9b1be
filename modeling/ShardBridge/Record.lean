/-
  ShardBridge.Record

  The records of a stream, as they travel: the payload is in base64, and the
  rest describes where the record stands in its shard.
-/
import ShardBridge.Base64
import ShardBridge.Calendar
import ShardBridge.Json.Printer
import ShardBridge.Json.Schema

namespace ShardBridge

/-- A record as it travels. -/
structure Record where
  /-- Its position in the shard. -/
  sequenceNumber : String
  /-- Its place among the records that were packed into one. -/
  subSequenceNumber : Option Int64
  /-- The payload in base64, or whatever stands in its place. -/
  data : String
  /-- The key by which it came to its shard. -/
  partitionKey : String
  /-- When it arrived, in milliseconds since the start of 1970. -/
  arrival : Int64
  deriving DecidableEq, Repr

namespace Record

/-! ## Making records -/

/-- The record of a payload. -/
def ofBytes (sequenceNumber partitionKey : String) (bytes : List UInt8) : Record :=
  { sequenceNumber, subSequenceNumber := none, data := Base64.encodeText bytes, partitionKey
    arrival := 0 }

def withSubSequenceNumber (r : Record) (n : Int64) : Record :=
  { r with subSequenceNumber := some n }

def withArrival (r : Record) (millis : Int64) : Record := { r with arrival := millis }

/-! ## Asking records -/

def payload (r : Record) : Except Base64.Error (List UInt8) := Base64.decodeText r.data

/-- The time of arrival, if the calendar reaches so far. -/
def arrivalText (r : Record) : Option String := Calendar.instantText r.arrival.toInt

/-! ## Wire form -/

/-- A member that is left out when it has no value. -/
def optionalMember {α : Type} (name : String) (toValue : α → Json.Value) :
    Option α → List (String × Json.Value)
  | some a => [(name, toValue a)]
  | none => []

def int64Value (n : Int64) : Json.Value := .int n.toInt

def toJson (r : Record) : Json.Value :=
  .object <|
    [("sequenceNumber", .string r.sequenceNumber)] ++
    optionalMember "subSequenceNumber" int64Value r.subSequenceNumber ++
    [("data", .string r.data), ("partitionKey", .string r.partitionKey),
      ("approximateArrivalTimestamp", int64Value r.arrival)]

/-- A record of which some fields were read. -/
structure Draft where
  sequenceNumber : Option String := none
  subSequenceNumber : Option (Option Int64) := none
  data : Option String := none
  partitionKey : Option String := none
  arrival : Option Int64 := none

def readInt64 (t : Json.Tree) : Json.Result Int64 :=
  (t.asInteger .signed64).map Int64.ofInt

/-- The fields of a record, in the order of their list form. -/
def fields : List (Json.Field Draft) :=
  [ .required "sequenceNumber" Draft.sequenceNumber (fun a d => { d with sequenceNumber := some a })
      Json.Tree.asString,
    .optional "subSequenceNumber" Draft.subSequenceNumber
      (fun a d => { d with subSequenceNumber := some a }) (Json.Tree.asOptional readInt64),
    .required "data" Draft.data (fun a d => { d with data := some a }) Json.Tree.asString,
    .required "partitionKey" Draft.partitionKey (fun a d => { d with partitionKey := some a })
      Json.Tree.asString,
    .optional "approximateArrivalTimestamp" Draft.arrival (fun a d => { d with arrival := some a })
      readInt64 ]

/-- The record of a draft. What comes second in errors is asked for second. -/
def Draft.build (d : Draft) : Json.Result Record := do
  let sequenceNumber ← Json.present "sequenceNumber" d.sequenceNumber
  let data ← Json.present "data" d.data
  let partitionKey ← Json.present "partitionKey" d.partitionKey
  return {
    sequenceNumber
    subSequenceNumber := d.subSequenceNumber.join
    data
    partitionKey
    arrival := d.arrival.getD 0 }

def shape : Json.Shape Draft Record := ⟨"struct Record", fields, {}, Draft.build⟩

def ofTree : Json.Tree → Json.Result Record := shape.ofTree

def ofText (text : String) : Json.Result Record :=
  (Json.Document.ofText text.toList).read ofTree

end Record

end ShardBridge
