/-
  ShardBridge.Proofs.Stream.Lines

  The lines of a stream, read off its bytes alone.  However the stream deals
  its bytes out to the reads, a stream that does not fail gives exactly these
  lines, one after another and each of them once (`nextLine_spec`).
-/
import ShardBridge.Stream.Input

namespace ShardBridge.Input

/-! ## Lines of a byte string -/

/-- The stretches of a byte string that a line feed ends, and what is left after the last one. -/
def stretches : List UInt8 → List (List UInt8)
  | [] => []
  | b :: rest =>
    if b = lineFeed then [b] :: stretches rest
    else
      match stretches rest with
      | [] => [[b]]
      | line :: lines => (b :: line) :: lines

/-- The lines that a byte string holds: blank ones do not count, and the ends are taken off. -/
def linesOf (bytes : List UInt8) : List (List UInt8) :=
  ((stretches bytes).filter fun line => !isBlankLine line).map content

/-- The lines that are yet to be read. -/
def lines (i : Input) : List (List UInt8) := linesOf i.pending

/-! ## The first line feed -/

theorem stretches_of_cut_some {bytes line rest : List UInt8} (h : cut bytes = (line, some rest)) :
    stretches bytes = line :: stretches rest := by
  induction bytes generalizing line with
  | nil => simp [cut] at h
  | cons b bytes ih =>
    rw [cut] at h
    split at h
    · next hb =>
      obtain ⟨rfl, hrest⟩ := Prod.mk.inj h
      obtain rfl := Option.some.inj hrest
      rw [stretches, if_pos hb]
    · next hb =>
      obtain ⟨rfl, hrest⟩ := Prod.mk.inj h
      rw [stretches, if_neg hb, ih (Prod.ext rfl hrest)]

theorem stretches_of_cut_none {bytes line : List UInt8} (h : cut bytes = (line, none)) :
    line = bytes ∧ (bytes ≠ [] → stretches bytes = [bytes]) := by
  induction bytes generalizing line with
  | nil =>
    obtain ⟨rfl, -⟩ := Prod.mk.inj h
    exact ⟨rfl, fun hne => absurd rfl hne⟩
  | cons b bytes ih =>
    rw [cut] at h
    split at h
    · simp at h
    · next hb =>
      obtain ⟨rfl, hnone⟩ := Prod.mk.inj h
      obtain ⟨hline, hstretches⟩ := ih (Prod.ext rfl hnone)
      refine ⟨congrArg (b :: ·) hline, fun _ => ?_⟩
      rw [stretches, if_neg hb]
      by_cases hne : bytes = []
      · rw [hne]
        rfl
      · rw [hstretches hne]

theorem cut_append_of_some {a line rest : List UInt8} (h : cut a = (line, some rest))
    (b : List UInt8) : cut (a ++ b) = (line, some (rest ++ b)) := by
  induction a generalizing line with
  | nil => simp [cut] at h
  | cons x a ih =>
    rw [cut] at h
    rw [List.cons_append, cut]
    split at h
    · next hx =>
      obtain ⟨rfl, hrest⟩ := Prod.mk.inj h
      obtain rfl := Option.some.inj hrest
      rw [if_pos hx]
    · next hx =>
      obtain ⟨rfl, hrest⟩ := Prod.mk.inj h
      rw [if_neg hx, ih (Prod.ext rfl hrest)]

theorem cut_append_of_none {a line : List UInt8} (h : cut a = (line, none)) (b : List UInt8) :
    cut (a ++ b) = (line ++ (cut b).1, (cut b).2) := by
  induction a generalizing line with
  | nil =>
    obtain ⟨rfl, -⟩ := Prod.mk.inj h
    rfl
  | cons x a ih =>
    rw [cut] at h
    rw [List.cons_append, cut]
    split at h
    · simp at h
    · next hx =>
      obtain ⟨rfl, hnone⟩ := Prod.mk.inj h
      rw [if_neg hx, ih (Prod.ext rfl hnone)]
      rfl

/-- How the bytes are dealt out to the reads does not matter. -/
theorem cut_flatten (reads : List (List UInt8)) :
    cut reads.flatten = ((cutReads reads).1, (cutReads reads).2.map List.flatten) := by
  induction reads with
  | nil => rfl
  | cons bytes reads ih =>
    -- The first read holds a line feed, or the line goes on in the next one.
    rw [List.flatten_cons, cutReads]
    split
    · next line rest heq => exact cut_append_of_some heq _
    · next line heq => rw [cut_append_of_none heq, ih]

/-! ## Reading -/

variable {i i' : Input} {line : List UInt8}

theorem failure_fetch (i : Input) : i.fetch.2.failure = i.failure := by
  rw [fetch]
  split
  · rfl
  · split <;> rfl

theorem stretches_of_fetch (h : i.fetch = (.line line, i')) :
    stretches i.pending = line :: stretches i'.pending := by
  have hcut := cut_flatten i.reads
  rw [fetch] at h
  split at h
  · next l reads heq =>
    obtain ⟨hl, rfl⟩ := Prod.mk.inj h
    obtain rfl := Fetched.line.inj hl
    rw [heq] at hcut
    exact stretches_of_cut_some hcut
  · next l heq =>
    -- No line feed is left: the last stretch is all that is pending.
    rw [heq] at hcut
    obtain ⟨rfl, hstretches⟩ := stretches_of_cut_none hcut
    split at h
    · simp at h
    · by_cases hne : i.reads.flatten = []
      · simp [hne] at h
      · rw [if_neg hne] at h
        obtain ⟨hl, rfl⟩ := Prod.mk.inj h
        obtain rfl := Fetched.line.inj hl
        exact hstretches hne

theorem pending_of_fetch_ended (h : i.fetch = (.ended, i')) : i.pending = [] ∧ i'.pending = [] := by
  have hcut := cut_flatten i.reads
  rw [fetch] at h
  split at h
  · simp at h
  · next l heq =>
    rw [heq] at hcut
    obtain ⟨rfl, -⟩ := stretches_of_cut_none hcut
    split at h
    · simp at h
    · by_cases hne : i.reads.flatten = []
      · obtain ⟨-, rfl⟩ := Prod.mk.inj h
        exact ⟨hne, rfl⟩
      · simp [hne] at h

theorem failure_of_fetch_failed {e : StreamFailure} (h : i.fetch = (.failed e, i')) :
    i.failure = some e := by
  rw [fetch] at h
  split at h
  · simp at h
  · split at h
    · next e' he =>
      obtain ⟨he', -⟩ := Prod.mk.inj h
      rw [he, Fetched.failed.inj he']
    · exfalso
      obtain ⟨hfetched, -⟩ := Prod.mk.inj h
      split at hfetched <;> cases hfetched

theorem linesOf_of_stretches {bytes rest : List UInt8}
    (h : stretches bytes = line :: stretches rest) :
    linesOf bytes = if isBlankLine line then linesOf rest else content line :: linesOf rest := by
  rw [linesOf, h]
  split
  · next hb => rw [List.filter_cons_of_neg (by simp [hb])]; rfl
  · next hb => rw [List.filter_cons_of_pos (by simp [hb])]; rfl

theorem failure_nextLine (i : Input) : i.nextLine.2.failure = i.failure := by
  fun_induction nextLine i with
  | case1 i bytes i₁ hf _ hb ih =>
    have hkeep := failure_fetch i
    rw [hf] at hkeep
    exact ih.trans hkeep
  | case2 i bytes i₁ hf _ hb => have hkeep := failure_fetch i; rw [hf] at hkeep; exact hkeep
  | case3 i i₁ hf => have hkeep := failure_fetch i; rw [hf] at hkeep; exact hkeep
  | case4 i e i₁ hf => have hkeep := failure_fetch i; rw [hf] at hkeep; exact hkeep

/-- What a read gives, by the lines that are yet to come. -/
def nextOf : List (List UInt8) → Fetched × List (List UInt8)
  | [] => (.ended, [])
  | line :: rest => (.line line, rest)

/-- A stream that does not fail gives its lines in their order. -/
theorem nextLine_spec (h : i.failure = none) :
    (i.nextLine.1, i.nextLine.2.lines) = nextOf i.lines := by
  -- Blank lines are passed over one by one.
  fun_induction nextLine i with
  | case1 i bytes i₁ hf _ hb ih =>
    have hkeep := failure_fetch i
    rw [hf] at hkeep
    have hskip : i.lines = i₁.lines := by
      rw [lines, linesOf_of_stretches (stretches_of_fetch hf), if_pos hb]
      rfl
    rw [hskip]
    exact ih (hkeep.trans h)
  | case2 i bytes i₁ hf _ hb =>
    have hfirst : i.lines = content bytes :: i₁.lines := by
      rw [lines, linesOf_of_stretches (stretches_of_fetch hf), if_neg hb]
      rfl
    rw [hfirst]
    rfl
  | case3 i i₁ hf =>
    obtain ⟨hpending, hpending'⟩ := pending_of_fetch_ended hf
    rw [lines, lines, hpending, hpending']
    rfl
  | case4 i e i₁ hf =>
    rw [failure_of_fetch_failed hf] at h
    cases h

end ShardBridge.Input
