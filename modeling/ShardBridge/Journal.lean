/-
  ShardBridge.Journal

  What happens in a session, in its order: reads, bytes that a stream took,
  flushes, pauses, log entries and notes of the processor. Who looks on from
  outside sees the bytes of a stream only when they are flushed, all of them
  since the flush before.
-/
import ShardBridge.Telemetry.Entry

namespace ShardBridge

/-- The streams that are written to. -/
inductive Channel where
  | output
  | diagnostics
  deriving DecidableEq, Repr

/-- Something that happened. -/
inductive Event where
  /-- The bridge starts to read a line. -/
  | reading
  /-- A stream took these bytes. -/
  | wrote (channel : Channel) (bytes : List UInt8)
  | flushed (channel : Channel)
  | paused (millis : Nat)
  | logged (entry : LogEntry)
  /-- A note of the processor. -/
  | noted (text : String)
  deriving DecidableEq, Repr

namespace Journal

/-! ## Single aspects -/

def bytes (c : Channel) : List Event → List UInt8
  | [] => []
  | .wrote c' taken :: rest => if c' = c then taken ++ bytes c rest else bytes c rest
  | _ :: rest => bytes c rest

def duration : List Event → Nat
  | [] => 0
  | .paused millis :: rest => millis + duration rest
  | _ :: rest => duration rest

def entries : List Event → List LogEntry
  | [] => []
  | .logged entry :: rest => entry :: entries rest
  | _ :: rest => entries rest

/-! ## From outside -/

/-- Something that shows outside. -/
inductive Sighting where
  /-- Bytes came out of a stream, at a time in milliseconds. -/
  | shown (channel : Channel) (millis : Nat) (bytes : List UInt8)
  | logged (entry : LogEntry)
  | noted (text : String)
  deriving DecidableEq, Repr

/-- What an onlooker does not see: the time, and the bytes that were not flushed. -/
structure Backstage where
  millis : Nat := 0
  output : List UInt8 := []
  diagnostics : List UInt8 := []
  deriving DecidableEq, Repr

namespace Backstage

/-- The bytes that a stream holds back. -/
def held (b : Backstage) : Channel → List UInt8
  | .output => b.output
  | .diagnostics => b.diagnostics

/-- A stream holds back these bytes. -/
def hold (b : Backstage) (c : Channel) (bytes : List UInt8) : Backstage :=
  match c with
  | .output => { b with output := bytes }
  | .diagnostics => { b with diagnostics := bytes }

end Backstage

/-- What shows of the events, and what is backstage after them. -/
def sightings (b : Backstage) : List Event → List Sighting × Backstage
  | [] => ([], b)
  | .reading :: rest => sightings b rest
  | .wrote c taken :: rest => sightings (b.hold c (b.held c ++ taken)) rest
  | .flushed c :: rest =>
    let (seen, after) := sightings (b.hold c []) rest
    (.shown c b.millis (b.held c) :: seen, after)
  | .paused millis :: rest => sightings { b with millis := b.millis + millis } rest
  | .logged entry :: rest =>
    let (seen, after) := sightings b rest
    (.logged entry :: seen, after)
  | .noted text :: rest =>
    let (seen, after) := sightings b rest
    (.noted text :: seen, after)

/-! ## Laws -/

theorem bytes_append (c : Channel) (a b : List Event) :
    bytes c (a ++ b) = bytes c a ++ bytes c b := by
  induction a with
  | nil => rfl
  | cons e rest ih => cases e <;> simp [bytes, ih]; split <;> simp

theorem duration_append (a b : List Event) : duration (a ++ b) = duration a + duration b := by
  induction a with
  | nil => simp [duration]
  | cons e rest ih => cases e <;> simp [duration, ih, Nat.add_assoc]

theorem entries_append (a b : List Event) : entries (a ++ b) = entries a ++ entries b := by
  induction a with
  | nil => rfl
  | cons e rest ih => cases e <;> simp [entries, ih]

end Journal

end ShardBridge
