/-
  ShardBridge.Stream.Trail

  The errors behind the failure of a stream. A stream may be made of others, or
  of a program's own parts, and fail because one of them did; each error along
  the way has its words, down to a root.
-/
import ShardBridge.Message.Malformed

namespace ShardBridge

/-- The errors that led to an error, the nearest first. -/
inductive Trail where
  /-- None did. -/
  | root
  /-- An error with words of its own did, and to that what comes after it. -/
  | error (text : String) (behind : Trail)
  /-- A line that is no message did. -/
  | malformed (m : MalformedLine)
  deriving DecidableEq, Repr

end ShardBridge
