/-
  ShardBridge.Stream.Sink

  A byte stream that is written to. What it does with the bytes it is offered
  is its policy: it takes some of them or fails, and its flushes succeed or
  fail. The policy goes by how often it was asked and how much it took.
-/
import ShardBridge.Stream.Failure

namespace ShardBridge

/-- How a stream answers. -/
structure Sink.Policy where
  /-- How many bytes it takes, by the number of writes before this one, the number of bytes it
      took, and the number of bytes it is offered. -/
  write : Nat → Nat → Nat → Except StreamFailure Nat
  /-- How it answers a flush, by the number of flushes before this one. -/
  flush : Nat → Except StreamFailure Unit

/-- A byte stream that is written to. -/
structure Sink where
  policy : Sink.Policy
  /-- The number of writes so far. -/
  writes : Nat := 0
  /-- The number of bytes it took so far. -/
  taken : Nat := 0
  /-- The number of flushes so far. -/
  flushes : Nat := 0

namespace Sink

/-! ## Policies -/

/-- Takes everything. -/
def Policy.open : Policy := ⟨fun _ _ offered => .ok offered, fun _ => .ok ()⟩

/-- Takes no more than so many bytes at a time. -/
def Policy.atMost (p : Policy) (limit : Nat) : Policy :=
  { p with write := fun writes taken offered => p.write writes taken (min offered limit) }

/-- Takes the first bytes, so many of them, and then fails. -/
def Policy.failingAfter (p : Policy) (limit : Nat) (e : StreamFailure) : Policy :=
  { p with write := fun writes taken offered =>
      if limit ≤ taken then .error e else p.write writes taken (min offered (limit - taken)) }

/-- Takes the first bytes, so many of them, and then none of what it is offered. -/
def Policy.fullAfter (p : Policy) (limit : Nat) : Policy :=
  { p with write := fun writes taken offered =>
      if limit ≤ taken then .ok 0 else p.write writes taken (min offered (limit - taken)) }

/-- Fails one flush, counted from one. -/
def Policy.failingFlush (p : Policy) (number : Nat) (e : StreamFailure) : Policy :=
  { p with flush := fun flushes => if flushes + 1 = number then .error e else p.flush flushes }

/-! ## Operations -/

/-- The stream with a policy, before anything was written to it. -/
def ofPolicy (p : Policy) : Sink := { policy := p }

def healthy : Sink := ofPolicy .open

/-- Offers bytes once: those that are taken. -/
def offer (s : Sink) (bytes : List UInt8) : Except StreamFailure (List UInt8) × Sink :=
  match s.policy.write s.writes s.taken bytes.length with
  | .ok n =>
    (.ok (bytes.take n),
      { s with writes := s.writes + 1, taken := s.taken + (bytes.take n).length })
  | .error e => (.error e, { s with writes := s.writes + 1 })

def flush (s : Sink) : Except StreamFailure Unit × Sink :=
  (s.policy.flush s.flushes, { s with flushes := s.flushes + 1 })

end Sink

end ShardBridge
