/-
  ShardBridge.Proofs.Stream.Cutting

  The lines of a byte string that is cut somewhere.  The lines before the cut
  stay as they are, and of the line in which the cut falls a beginning is left
  (`Input.linesOf_of_cut`, `Input.linesOf_take`).  The beginning goes on to the
  whole line, but for line ends, with what the line has lost
  (`Input.content_append`).
-/
import ShardBridge.Proofs.Stream.Feed

namespace ShardBridge.Input

/-! ## Ends of lines -/

theorem content_eq (line : List UInt8) : content line = line.rdropWhile isLineEnd := rfl

/-- Bytes after a line add to its content, and of those that end no line it is only what they
    add. -/
theorem content_append (a b : List UInt8) :
    ∃ lost, content (a ++ b) = content a ++ lost ∧
      ∀ x, isLineEnd x = false → (x ∈ lost ↔ x ∈ b) := by
  rw [content_eq, content_eq, rdropWhile_append]
  split
  · next hall =>
    refine ⟨[], (List.append_nil _).symm, fun x hx => ?_⟩
    constructor
    · intro h
      cases h
    · intro h
      rw [List.all_eq_true.1 hall x h] at hx
      cases hx
  · refine ⟨a.rtakeWhile isLineEnd ++ b.rdropWhile isLineEnd, ?_, fun x hx => ?_⟩
    · rw [← List.append_assoc, List.rdropWhile_append_rtakeWhile]
    · have hend : ∀ l : List UInt8, x ∉ l.rtakeWhile isLineEnd := by
        intro l hmem
        have htrue := List.mem_rtakeWhile_imp hmem
        rw [hx] at htrue
        cases htrue
      have hb : x ∈ b ↔ x ∈ b.rdropWhile isLineEnd ∨ x ∈ b.rtakeWhile isLineEnd := by
        rw [← List.mem_append, List.rdropWhile_append_rtakeWhile]
      rw [List.mem_append, hb]
      constructor
      · rintro (h | h)
        · exact absurd h (hend a)
        · exact .inl h
      · rintro (h | h)
        · exact .inr h
        · exact absurd h (hend b)

theorem isBlankLine_of_append {a b : List UInt8} (h : isBlankLine (a ++ b) = true) :
    isBlankLine a = true := by
  obtain ⟨lost, hlost, -⟩ := content_append a b
  rw [isBlankLine, hlost, List.all_append, Bool.and_eq_true] at h
  exact h.1

/-! ## The first line -/

/-- The line that a stretch of bytes is; none when it is blank. -/
def lineOf (stretch : List UInt8) : List (List UInt8) :=
  if isBlankLine stretch then [] else [content stretch]

theorem stretches_of_no_lineFeed {bytes : List UInt8} (h : lineFeed ∉ bytes) :
    stretches bytes = if bytes = [] then [] else [bytes] := by
  induction bytes with
  | nil => rfl
  | cons b bytes ih =>
    rw [List.mem_cons, not_or] at h
    rw [stretches, if_neg (Ne.symm h.1), ih h.2]
    by_cases hnil : bytes = []
    · rw [if_pos hnil, hnil]
      rfl
    · rw [if_neg hnil]
      rfl

theorem linesOf_of_no_lineFeed {bytes : List UInt8} (h : lineFeed ∉ bytes) :
    linesOf bytes = lineOf bytes := by
  rw [linesOf, stretches_of_no_lineFeed h, lineOf]
  by_cases hnil : bytes = []
  · rw [if_pos hnil, hnil]
    rfl
  · rw [if_neg hnil]
    cases hblank : isBlankLine bytes <;> simp [hblank]

theorem stretches_ne_nil {bytes : List UInt8} (h : bytes ≠ []) : stretches bytes ≠ [] := by
  cases bytes with
  | nil => exact absurd rfl h
  | cons b bytes =>
    rw [stretches]
    split
    · exact List.cons_ne_nil _ _
    · split <;> exact List.cons_ne_nil _ _

/-- Bytes that end with a line feed hold whole lines. -/
theorem stretches_append {a : List UInt8} (b : List UInt8)
    (h : a = [] ∨ ∃ init, a = init ++ [lineFeed]) :
    stretches (a ++ b) = stretches a ++ stretches b := by
  induction a with
  | nil => rfl
  | cons x a ih =>
    obtain ⟨init, hinit⟩ : ∃ init, x :: a = init ++ [lineFeed] := by
      rcases h with h | h
      · cases h
      · exact h
    -- What comes after the first byte ends with a line feed as well, if anything does.
    have hrest : (x = lineFeed ∧ a = []) ∨ ∃ init, a = init ++ [lineFeed] := by
      cases init with
      | nil => exact .inl (List.cons.inj hinit)
      | cons y init => exact .inr ⟨init, (List.cons.inj hinit).2⟩
    rw [List.cons_append, stretches, stretches, ih (hrest.imp_left And.right)]
    by_cases hx : x = lineFeed
    · rw [if_pos hx, if_pos hx]
      rfl
    · rw [if_neg hx, if_neg hx]
      have hne : a ≠ [] := by
        rintro rfl
        rcases hrest with ⟨hfeed, -⟩ | ⟨init, hnil⟩
        · exact hx hfeed
        · simp at hnil
      cases hs : stretches a with
      | nil => exact absurd hs (stretches_ne_nil hne)
      | cons line lines => rfl

/-- A line feed ends the line, and is no part of its content. -/
theorem linesOf_concat {bytes : List UInt8} (h : lineFeed ∉ bytes) :
    linesOf (bytes ++ [lineFeed]) = lineOf bytes := by
  have hstretches : stretches (bytes ++ [lineFeed]) = [bytes ++ [lineFeed]] := by
    induction bytes with
    | nil => rfl
    | cons b bytes ih =>
      rw [List.mem_cons, not_or] at h
      rw [List.cons_append, stretches, if_neg (Ne.symm h.1), ih h.2]
  have hcontent : content (bytes ++ [lineFeed]) = content bytes :=
    List.rdropWhile_concat_pos _ _ _ rfl
  rw [linesOf, hstretches, lineOf]
  have hblank : isBlankLine (bytes ++ [lineFeed]) = isBlankLine bytes := by
    rw [isBlankLine, isBlankLine, hcontent]
  cases h : isBlankLine bytes <;> simp [hblank, h, hcontent]

theorem linesOf_append {a : List UInt8} (b : List UInt8)
    (h : a = [] ∨ ∃ init, a = init ++ [lineFeed]) :
    linesOf (a ++ b) = linesOf a ++ linesOf b := by
  rw [linesOf, stretches_append b h, List.filter_append, List.map_append]
  rfl

theorem whole_ends (bytes : List UInt8) :
    whole bytes = [] ∨ ∃ init, whole bytes = init ++ [lineFeed] := by
  by_cases hnil : whole bytes = []
  · exact .inl hnil
  · have hlast := List.rdropWhile_last_not (fun b : UInt8 => decide (b ≠ lineFeed)) bytes hnil
    have hfeed : (whole bytes).getLast hnil = lineFeed := by
      by_contra hne
      exact hlast (decide_eq_true hne)
    refine .inr ⟨(whole bytes).dropLast, ?_⟩
    rw [← hfeed, List.dropLast_concat_getLast]

theorem lineFeed_not_mem_fragment (bytes : List UInt8) : lineFeed ∉ fragment bytes := by
  intro h
  have htrue := List.mem_rtakeWhile_imp h
  simp at htrue

/-! ## The cut -/

/-- What a cut after so many bytes takes from the line in which it falls. -/
def lostAt (n : Nat) (bytes : List UInt8) : List UInt8 := (bytes.drop n).takeWhile (· ≠ lineFeed)

/-- The lines before the cut, and a beginning of the line in which it falls. -/
theorem linesOf_take (n : Nat) (bytes : List UInt8) :
    linesOf (bytes.take n) =
      linesOf (whole (bytes.take n)) ++ lineOf (fragment (bytes.take n)) := by
  have hsplit := linesOf_append (fragment (bytes.take n)) (whole_ends (bytes.take n))
  rw [whole_append_fragment] at hsplit
  rw [hsplit, linesOf_of_no_lineFeed (lineFeed_not_mem_fragment _)]

/-- The same lines before the cut, then the whole line in which it falls, and later ones. -/
theorem linesOf_of_cut (n : Nat) (bytes : List UInt8) :
    ∃ later, linesOf bytes = linesOf (whole (bytes.take n)) ++
      (lineOf (fragment (bytes.take n) ++ lostAt n bytes) ++ later) := by
  have hbytes : bytes = whole (bytes.take n) ++ (fragment (bytes.take n) ++ bytes.drop n) := by
    rw [← List.append_assoc, whole_append_fragment, List.take_append_drop]
  have hlost : bytes.drop n = lostAt n bytes ++ (bytes.drop n).dropWhile (· ≠ lineFeed) :=
    List.takeWhile_append_dropWhile.symm
  have hnone : lineFeed ∉ fragment (bytes.take n) ++ lostAt n bytes := by
    rw [List.mem_append, not_or]
    refine ⟨lineFeed_not_mem_fragment _, fun h => ?_⟩
    have htrue := List.mem_takeWhile_imp h
    simp at htrue
  have hfirst : linesOf bytes = linesOf (whole (bytes.take n)) ++
      linesOf (fragment (bytes.take n) ++ bytes.drop n) := by
    rw [← linesOf_append _ (whole_ends _), ← hbytes]
  rw [hfirst]
  generalize fragment (bytes.take n) = torn at hnone ⊢
  generalize lostAt n bytes = lost at hnone hlost ⊢
  -- The line ends with the byte string, or with a line feed.
  cases hrest : (bytes.drop n).dropWhile (· ≠ lineFeed) with
  | nil =>
    rw [hrest, List.append_nil] at hlost
    rw [hlost, linesOf_of_no_lineFeed hnone]
    exact ⟨[], by rw [List.append_nil]⟩
  | cons b rest =>
    have hb : b = lineFeed := by
      have hnot := List.head?_dropWhile_not (fun b : UInt8 => decide (b ≠ lineFeed)) (bytes.drop n)
      rw [hrest] at hnot
      simpa using hnot
    have hend : torn ++ bytes.drop n = (torn ++ lost ++ [lineFeed]) ++ rest := by
      rw [hlost, hrest, hb]
      simp
    refine ⟨linesOf rest, ?_⟩
    rw [hend, linesOf_append _ (.inr ⟨torn ++ lost, rfl⟩), linesOf_concat hnone]

end ShardBridge.Input
