/-
  ShardBridge.Proofs.Config.Validation

  What settings that are not refused guarantee.  Both numbers of a retry are
  within their bounds, so their product is exact in 64 bits and far from the
  value at which it would saturate (`Config.retryWindow_of_validate`), and each
  warning is given exactly when its condition holds.
-/
import ShardBridge.Config.Validation

namespace ShardBridge.Config

variable {c : Config} {ws : List Warning}

/-! ## Bounds -/

theorem validate_eq_ok_iff : c.validate = .ok ws ↔ c.reasons = [] ∧ c.warnings = ws := by
  rw [validate]
  split
  · next h => simp [h]
  · next h => simp [h]

theorem rangeReasons_eq_nil_iff {name : String} {greatest n : Nat} :
    rangeReasons name greatest n = [] ↔ n ≤ greatest := by
  rw [rangeReasons]
  split
  · next h => simp only [List.cons_ne_nil, false_iff, Nat.not_le]; exact h
  · next h => simp only [true_iff]; omega

/-- A number past its bound is a reason to refuse the settings. -/
theorem bounds_of_validate (h : c.validate = .ok ws) :
    c.retries.toNat ≤ greatestRetries ∧ c.retryDelay.toNat ≤ greatestRetryDelay := by
  obtain ⟨hreasons, -⟩ := validate_eq_ok_iff.1 h
  rw [reasons, List.append_eq_nil_iff, List.append_eq_nil_iff] at hreasons
  obtain ⟨⟨-, hretries⟩, hdelay⟩ := hreasons
  exact ⟨rangeReasons_eq_nil_iff.1 hretries, rangeReasons_eq_nil_iff.1 hdelay⟩

/-! ## The window -/

/-- The longest window that is not refused is far below what 64 bits hold. -/
theorem window_lt (h : c.validate = .ok ws) :
    c.retries.toNat * c.retryDelay.toNat < greatestWindow := by
  obtain ⟨hretries, hdelay⟩ := bounds_of_validate h
  calc c.retries.toNat * c.retryDelay.toNat ≤ greatestRetries * greatestRetryDelay :=
        Nat.mul_le_mul hretries hdelay
    _ < greatestWindow := by decide

/-- The window is the product of the two numbers. -/
theorem retryWindow_of_validate (h : c.validate = .ok ws) :
    c.retryWindow = c.retries.toNat * c.retryDelay.toNat := by
  rw [retryWindow]
  exact Nat.min_eq_right (Nat.le_of_lt (window_lt h))

/-- Multiplied as machine words, the numbers give the same. -/
theorem toNat_window (h : c.validate = .ok ws) :
    (c.retries.toUInt64 * c.retryDelay).toNat = c.retries.toNat * c.retryDelay.toNat := by
  have hlt := window_lt h
  rw [UInt64.toNat_mul, UInt32.toNat_toUInt64]
  apply Nat.mod_eq_of_lt
  exact Nat.lt_trans hlt (by decide)

/-! ## Warnings -/

theorem mem_warnings_zeroRetryDelay {n : Nat} : .zeroRetryDelay n ∈ c.warnings ↔
    (0 < c.retries.toNat ∧ c.retryDelay.toNat = 0) ∧ n = c.retries.toNat := by
  rw [warnings, List.mem_append]
  by_cases h : 0 < c.retries.toNat ∧ c.retryDelay.toNat = 0 <;> simp [h]

theorem mem_warnings_longRetryWindow {s : Nat} : .longRetryWindow s ∈ c.warnings ↔
    longestQuietWindow < c.retryWindow / 1000 ∧ s = c.retryWindow / 1000 := by
  rw [warnings, List.mem_append]
  by_cases h : longestQuietWindow < c.retryWindow / 1000 <;> simp [h]

end ShardBridge.Config
