/-
  ShardBridge.Proofs.Stream.Feed

  What a stream has left to give.  A stream that ends gives all of its lines,
  also one at the very end that no line feed ends.  A stream that fails gives
  only the lines that a line feed ends, and then its failure.  The feed of a
  stream says just this, and every read takes one item off it, however the
  bytes are dealt out to the reads (`Input.nextLine_feed`).  After the lines
  every read meets the same failure, or the same end.
-/
import Mathlib.Data.List.DropRight
import ShardBridge.Proofs.Stream.Lines

namespace ShardBridge

/-! ## Feeds -/

/-- What a stream has left to give. -/
structure Feed where
  /-- The lines, without their ends. -/
  lines : List (List UInt8)
  /-- How it fails after them; none when it ends. -/
  failure : Option StreamFailure
  deriving DecidableEq, Repr

namespace Feed

/-- What a read takes from a feed. -/
def next : Feed → Input.Fetched
  | ⟨[], none⟩ => .ended
  | ⟨[], some e⟩ => .failed e
  | ⟨line :: _, _⟩ => .line line

/-- What a read leaves of a feed. -/
def rest (f : Feed) : Feed := ⟨f.lines.tail, f.failure⟩

variable {f : Feed} {line : List UInt8}

theorem lines_of_next (h : f.next = .line line) : f.lines = line :: f.rest.lines := by
  obtain ⟨_ | ⟨line', lines⟩, _ | e⟩ := f <;> cases h <;> rfl

theorem eq_of_next_ended (h : f.next = .ended) : f = ⟨[], none⟩ := by
  obtain ⟨_ | ⟨line', lines⟩, _ | e⟩ := f <;> cases h
  rfl

theorem eq_of_next_failed {e : StreamFailure} (h : f.next = .failed e) : f = ⟨[], some e⟩ := by
  obtain ⟨_ | ⟨line', lines⟩, _ | e'⟩ := f <;> cases h
  rfl

end Feed

namespace Input

/-- The bytes up to the last line feed, and with it. -/
def whole (bytes : List UInt8) : List UInt8 := bytes.rdropWhile (· ≠ lineFeed)

/-- The bytes after the last line feed. -/
def fragment (bytes : List UInt8) : List UInt8 := bytes.rtakeWhile (· ≠ lineFeed)

theorem whole_append_fragment (bytes : List UInt8) : whole bytes ++ fragment bytes = bytes :=
  List.rdropWhile_append_rtakeWhile ..

/-- What a stream has left to give. -/
def feed (i : Input) : Feed :=
  match i.failure with
  | none => ⟨i.lines, none⟩
  | some e => ⟨linesOf (whole i.pending), some e⟩

theorem feed_of_ends {i : Input} (h : i.failure = none) : i.feed = ⟨i.lines, none⟩ := by
  rw [feed, h]

theorem feed_of_fails {i : Input} {e : StreamFailure} (h : i.failure = some e) :
    i.feed = ⟨linesOf (whole i.pending), some e⟩ := by
  rw [feed, h]

/-! ## The last line feed -/

theorem rdropWhile_append {α : Type} (p : α → Bool) (a b : List α) :
    (a ++ b).rdropWhile p = if b.all p then a.rdropWhile p else a ++ b.rdropWhile p := by
  rw [List.rdropWhile, List.reverse_append, List.dropWhile_append]
  by_cases h : b.all p
  · have hnil : b.reverse.dropWhile p = [] := by
      rw [List.dropWhile_eq_nil_iff]
      intro x hx
      exact List.all_eq_true.1 h x (List.mem_reverse.1 hx)
    rw [if_pos h, hnil]
    rfl
  · have hne : b.reverse.dropWhile p ≠ [] := by
      intro hnil
      apply h
      rw [List.all_eq_true]
      intro x hx
      exact List.dropWhile_eq_nil_iff.1 hnil x (List.mem_reverse.2 hx)
    rw [if_neg h, if_neg (by simpa using hne), List.reverse_append, List.reverse_reverse]
    rfl

theorem whole_of_cut_none {bytes line : List UInt8} (h : cut bytes = (line, none)) :
    whole bytes = [] := by
  rw [whole, List.rdropWhile_eq_nil_iff]
  induction bytes generalizing line with
  | nil =>
    intro b hb
    cases hb
  | cons b bytes ih =>
    rw [cut] at h
    split at h
    · simp at h
    · next hb =>
      obtain ⟨-, hnone⟩ := Prod.mk.inj h
      intro c hc
      rcases List.mem_cons.1 hc with rfl | hc
      · exact decide_eq_true hb
      · exact ih (Prod.ext rfl hnone) c hc

/-- A byte string starts with its first line, which a line feed ends. -/
theorem of_cut_some {bytes line rest : List UInt8} (h : cut bytes = (line, some rest)) :
    bytes = line ++ rest ∧ ∃ init, line = init ++ [lineFeed] := by
  induction bytes generalizing line with
  | nil => simp [cut] at h
  | cons b bytes ih =>
    rw [cut] at h
    split at h
    · next hb =>
      obtain ⟨rfl, hrest⟩ := Prod.mk.inj h
      obtain rfl := Option.some.inj hrest
      exact ⟨rfl, [], by rw [hb]; rfl⟩
    · obtain ⟨rfl, hrest⟩ := Prod.mk.inj h
      obtain ⟨hbytes, init, hinit⟩ := ih (Prod.ext rfl hrest)
      exact ⟨congrArg (b :: ·) hbytes, b :: init, congrArg (b :: ·) hinit⟩

theorem whole_of_cut_some {bytes line rest : List UInt8} (h : cut bytes = (line, some rest)) :
    cut (whole bytes) = (line, some (whole rest)) := by
  obtain ⟨hbytes, init, rfl⟩ := of_cut_some h
  -- The line ends with a line feed, so nothing of it is dropped.
  have hwhole : whole bytes = (init ++ [lineFeed]) ++ whole rest := by
    have hline : (init ++ [lineFeed]).rdropWhile (· ≠ lineFeed) = init ++ [lineFeed] :=
      List.rdropWhile_concat_neg _ _ _ (by simp)
    rw [whole, hbytes, rdropWhile_append]
    split
    · next hall =>
      rw [hline, whole, List.rdropWhile_eq_nil_iff.2 (by simpa using hall), List.append_nil]
    · rfl
  have hfirst : cut (init ++ [lineFeed]) = (init ++ [lineFeed], some []) := by
    rcases hcut : cut (init ++ [lineFeed]) with ⟨line, _ | after⟩
    · -- There is a line feed, so it is found.
      have hnil := whole_of_cut_none hcut
      rw [whole, List.rdropWhile_concat_neg _ _ _ (by simp)] at hnil
      simp at hnil
    · have hboth := cut_append_of_some hcut rest
      rw [← hbytes, h] at hboth
      obtain ⟨hline, hafter⟩ := Prod.mk.inj hboth
      have hnil : after = [] := by simpa using Option.some.inj hafter
      rw [hline, hnil]
  rw [hwhole, cut_append_of_some hfirst, List.nil_append]

/-! ## Reading -/

variable {i i' : Input} {line : List UInt8}

/-- A line that is fetched is the next stretch, also of what is left before a failure. -/
theorem whole_of_fetch {e : StreamFailure} (hfails : i.failure = some e)
    (h : i.fetch = (.line line, i')) :
    stretches (whole i.pending) = line :: stretches (whole i'.pending) := by
  have hcut := cut_flatten i.reads
  rw [fetch, hfails] at h
  split at h
  · next l reads heq =>
    obtain ⟨hl, rfl⟩ := Prod.mk.inj h
    obtain rfl := Fetched.line.inj hl
    rw [heq] at hcut
    exact stretches_of_cut_some (whole_of_cut_some hcut)
  · simp at h

theorem whole_of_fetch_failed {e : StreamFailure} (h : i.fetch = (.failed e, i')) :
    whole i.pending = [] ∧ i'.pending = [] := by
  have hcut := cut_flatten i.reads
  rw [fetch] at h
  split at h
  · simp at h
  · next l heq =>
    rw [heq] at hcut
    have hwhole : whole i.pending = [] := whole_of_cut_none hcut
    split at h
    · obtain ⟨-, rfl⟩ := Prod.mk.inj h
      exact ⟨hwhole, rfl⟩
    · exfalso
      obtain ⟨hfetched, -⟩ := Prod.mk.inj h
      split at hfetched <;> cases hfetched

theorem failure_of_fetch_ended (h : i.fetch = (.ended, i')) : i.failure = none := by
  rw [fetch] at h
  split at h
  · simp at h
  · split at h
    · simp at h
    · next hnone => exact hnone

/-- The feed by what is fetched: a blank line is no item of it, and any other line is the next. -/
theorem feed_of_fetch (h : i.fetch = (.line line, i')) :
    i.feed = if isBlankLine line then i'.feed
      else ⟨content line :: i'.feed.lines, i'.feed.failure⟩ := by
  have hkeep := failure_fetch i
  rw [h] at hkeep
  cases hfailure : i.failure with
  | none =>
    rw [feed_of_ends hfailure, feed_of_ends (hkeep.trans hfailure), lines, lines,
      linesOf_of_stretches (stretches_of_fetch h)]
    split <;> rfl
  | some e =>
    rw [feed_of_fails hfailure, feed_of_fails (hkeep.trans hfailure),
      linesOf_of_stretches (whole_of_fetch hfailure h)]
    split <;> rfl

/-- Every read takes the next item off the feed. -/
theorem nextLine_feed (i : Input) :
    i.nextLine.1 = i.feed.next ∧ i.nextLine.2.feed = i.feed.rest := by
  -- Blank lines are passed over one by one; then there is a line, the end or the failure.
  fun_induction nextLine i with
  | case1 i bytes i₁ hf _ hb ih =>
    rw [feed_of_fetch hf, if_pos hb]
    exact ih
  | case2 i bytes i₁ hf _ hb =>
    rw [feed_of_fetch hf, if_neg hb]
    exact ⟨rfl, rfl⟩
  | case3 i i₁ hf =>
    obtain ⟨hpending, hpending'⟩ := pending_of_fetch_ended hf
    have hends := failure_of_fetch_ended hf
    have hkeep := failure_fetch i
    rw [hf] at hkeep
    rw [feed_of_ends hends, feed_of_ends (hkeep.trans hends), lines, lines, hpending, hpending']
    exact ⟨rfl, rfl⟩
  | case4 i e i₁ hf =>
    obtain ⟨hwhole, hpending⟩ := whole_of_fetch_failed hf
    have hfails := failure_of_fetch_failed hf
    have hkeep := failure_fetch i
    rw [hf] at hkeep
    rw [feed_of_fails hfails, feed_of_fails (hkeep.trans hfails), hwhole, hpending]
    exact ⟨rfl, rfl⟩

end Input

end ShardBridge
