/-
  ShardBridge.Stream.Input

  The lines of a byte stream. The stream delivers its bytes in any number of
  reads and then ends or fails. A line goes up to a line feed, or to the end of
  the stream; its trailing line feeds and carriage returns are not part of it,
  and lines of nothing but ASCII blanks are passed over. Bytes after the last
  line feed are lost when the stream fails.

  A stream that failed fails at every later read, in the same way, and a stream
  that ended stays at its end. So what is said of every input is said of every
  way in which a stream delivers its bytes and then stops, but not of a stream
  that goes on after a failure.
-/
import ShardBridge.Stream.Failure
import ShardBridge.Text.Blank

namespace ShardBridge

/-- A byte stream that is yet to be read. -/
structure Input where
  /-- What each read delivers; a read that delivers nothing changes nothing. -/
  reads : List (List UInt8)
  /-- How every read fails once these are used up; none when the stream then ends. -/
  failure : Option StreamFailure

namespace Input

/-- The stream that delivers these bytes in one read and then ends. -/
def ofBytes (bytes : List UInt8) : Input := ⟨[bytes], none⟩

/-- All bytes that are yet to come. -/
def pending (i : Input) : List UInt8 := i.reads.flatten

/-! ## Up to a line feed -/

def lineFeed : UInt8 := 0x0A

def carriageReturn : UInt8 := 0x0D

/-- The bytes up to the first line feed and with it, and the bytes after it if there is one. -/
def cut : List UInt8 → List UInt8 × Option (List UInt8)
  | [] => ([], none)
  | b :: rest =>
    if b = lineFeed then ([b], some rest)
    else
      let (line, after) := cut rest
      (b :: line, after)

/-- The bytes up to the first line feed of several reads, and what the reads hold after it; none
    when there is no line feed. -/
def cutReads : List (List UInt8) → List UInt8 × Option (List (List UInt8))
  | [] => ([], none)
  | bytes :: reads =>
    match cut bytes with
    | (line, some rest) => (line, some (rest :: reads))
    | (line, none) =>
      let (more, after) := cutReads reads
      (line ++ more, after)

/-- What reading up to a line feed gives. -/
inductive Fetched where
  /-- Bytes, at least one; only the last of them may be a line feed. -/
  | line (bytes : List UInt8)
  /-- The stream is at its end. -/
  | ended
  /-- The stream failed. -/
  | failed (e : StreamFailure)
  deriving DecidableEq, Repr

/-- Reads up to a line feed. -/
def fetch (i : Input) : Fetched × Input :=
  match cutReads i.reads with
  | (line, some reads) => (.line line, { i with reads })
  | (line, none) =>
    match i.failure with
    | some e => (.failed e, { i with reads := [] })
    | none => (if line = [] then .ended else .line line, { i with reads := [] })

/-! ## Lines -/

/-- The byte ends a line. -/
def isLineEnd (b : UInt8) : Bool := b = lineFeed || b = carriageReturn

/-- A line without its end. -/
def content (line : List UInt8) : List UInt8 := (line.reverse.dropWhile isLineEnd).reverse

def isBlankLine (line : List UInt8) : Bool := (content line).all Text.isBlankByte

/-! ## Laws -/

theorem length_cut (bytes : List UInt8) :
    (cut bytes).1.length + ((cut bytes).2.getD []).length = bytes.length := by
  induction bytes with
  | nil => rfl
  | cons b rest ih =>
    rw [cut]
    split
    · simp [Nat.add_comm]
    · simp only [List.length_cons]; omega

theorem cut_fst_ne_nil {bytes rest : List UInt8} (h : (cut bytes).2 = some rest) :
    (cut bytes).1 ≠ [] := by
  cases bytes with
  | nil => simp [cut] at h
  | cons b bytes =>
    rw [cut]
    split <;> simp

theorem length_cutReads (reads : List (List UInt8)) :
    (cutReads reads).1.length + ((cutReads reads).2.getD []).flatten.length
      = reads.flatten.length := by
  induction reads with
  | nil => rfl
  | cons bytes reads ih =>
    have hc := length_cut bytes
    rw [cutReads]
    split
    · next line rest heq => rw [heq] at hc; simp at hc ⊢; omega
    · next line heq => rw [heq] at hc; simp at hc ih ⊢; omega

theorem cutReads_fst_ne_nil {reads after : List (List UInt8)}
    (h : (cutReads reads).2 = some after) : (cutReads reads).1 ≠ [] := by
  induction reads with
  | nil => simp [cutReads] at h
  | cons bytes reads ih =>
    rw [cutReads] at h ⊢
    split
    · next line rest heq =>
      have hn : (cut bytes).1 ≠ [] := @cut_fst_ne_nil _ rest (by rw [heq])
      rw [heq] at hn
      exact hn
    · next line heq =>
      rw [heq] at h
      simp only at h
      simpa using fun _ => ih h

theorem length_pending_of_fetch {i i' : Input} {line : List UInt8}
    (h : i.fetch = (.line line, i')) : i'.pending.length < i.pending.length := by
  have hl := length_cutReads i.reads
  rw [fetch] at h
  split at h
  · next l reads heq =>
    have hn : (cutReads i.reads).1 ≠ [] := @cutReads_fst_ne_nil _ reads (by rw [heq])
    rw [heq] at hl hn
    obtain ⟨-, rfl⟩ := Prod.mk.inj h
    have : 0 < l.length := List.length_pos_iff.2 hn
    simp only [pending, Option.getD_some] at hl ⊢
    omega
  · next l heq =>
    rw [heq] at hl
    split at h
    · simp at h
    · by_cases hn : l = []
      · simp [hn] at h
      · obtain ⟨-, rfl⟩ := Prod.mk.inj h
        have : 0 < l.length := List.length_pos_iff.2 hn
        simp [pending] at hl ⊢
        omega

theorem length_pending_fetch_le (i : Input) : i.fetch.2.pending.length ≤ i.pending.length := by
  have hl := length_cutReads i.reads
  rw [fetch]
  split
  · next l reads heq =>
    rw [heq] at hl
    simp only [pending, Option.getD_some] at hl ⊢
    omega
  · split <;> simp [pending]

/-! ## Reading lines -/

/-- Reads the next line that is not blank, without its end. -/
def nextLine (i : Input) : Fetched × Input :=
  match h : i.fetch with
  | (.line bytes, i') =>
    have := length_pending_of_fetch h
    if isBlankLine bytes then nextLine i' else (.line (content bytes), i')
  | (.ended, i') => (.ended, i')
  | (.failed e, i') => (.failed e, i')
  termination_by i.pending.length

theorem length_pending_of_nextLine {i i' : Input} {line : List UInt8}
    (h : i.nextLine = (.line line, i')) : i'.pending.length < i.pending.length := by
  fun_induction nextLine i with
  | case1 i bytes i₁ hf hlt hb ih => have := ih h; omega
  | case2 i bytes i₁ hf hlt hb =>
    obtain ⟨-, rfl⟩ := Prod.mk.inj h
    exact hlt
  | case3 i i₁ hf => simp at h
  | case4 i e i₁ hf => simp at h

theorem length_pending_nextLine_le (i : Input) :
    i.nextLine.2.pending.length ≤ i.pending.length := by
  fun_induction nextLine i with
  | case1 i bytes i₁ hf hlt hb ih => omega
  | case2 i bytes i₁ hf hlt hb => exact Nat.le_of_lt hlt
  | case3 i i₁ hf => have := length_pending_fetch_le i; rw [hf] at this; exact this
  | case4 i e i₁ hf => have := length_pending_fetch_le i; rw [hf] at this; exact this

end Input

end ShardBridge
