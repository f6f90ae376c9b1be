/-
  ShardBridge.Proofs.Config.Merging

  Merging as an operation on settings.  It is associative, and settings of which
  none is given are neutral on both sides.  Every effective setting of the
  merged configuration is that of the one side or of the other, and each check
  looks at one of them only; so whatever is refused after merging was refused
  before (`Config.merge_lawful`).  Warnings are not like that: the one about a
  long window looks at two settings together.
-/
import ShardBridge.Proofs.Config.Validation

namespace ShardBridge.Config

variable {a b : Config} {reason : String}

/-! ## The monoid -/

theorem merge_assoc (a b c : Config) : (a.merge b).merge c = a.merge (b.merge c) := by
  simp only [merge, Option.or_assoc]

theorem empty_merge (a : Config) : empty.merge a = a := by
  simp only [merge, empty, Option.or_none]

theorem merge_empty (a : Config) : a.merge empty = a := by
  simp only [merge, empty, Option.none_or]

/-! ## Effective settings -/

/-- With the default filled in, what shows is the upper setting or the lower one. -/
theorem getD_or {α : Type} (upper lower : Option α) (default : α) :
    (upper.or lower).getD default = lower.getD default ∨
      (upper.or lower).getD default = upper.getD default := by
  cases upper with
  | none => exact .inl rfl
  | some _ => exact .inr rfl

theorem retries_merge (a b : Config) :
    (a.merge b).retries = a.retries ∨ (a.merge b).retries = b.retries :=
  getD_or b.checkpointRetries a.checkpointRetries defaultCheckpointRetries

theorem retryDelay_merge (a b : Config) :
    (a.merge b).retryDelay = a.retryDelay ∨ (a.merge b).retryDelay = b.retryDelay :=
  getD_or b.checkpointRetryDelay a.checkpointRetryDelay defaultCheckpointRetryDelay

/-! ## Reasons -/

/-- A level is refused for itself alone, and a level that is not set is not refused. -/
theorem levelReasons_merge (a b : Config) :
    levelReasons (a.merge b) = levelReasons a ∨ levelReasons (a.merge b) = levelReasons b := by
  cases hlevel : b.logLevel with
  | none =>
    have hmerge : (a.merge b).logLevel = a.logLevel := by rw [merge, hlevel, Option.none_or]
    exact .inl (by rw [levelReasons, levelReasons, hmerge])
  | some level =>
    have hmerge : (a.merge b).logLevel = b.logLevel := by rw [merge, hlevel, Option.some_or]
    exact .inr (by rw [levelReasons, levelReasons, hmerge])

theorem mem_reasons_iff : reason ∈ a.reasons ↔ reason ∈ levelReasons a ∨
    reason ∈ rangeReasons "checkpoint_retries" greatestRetries a.retries.toNat ∨
    reason ∈ rangeReasons "checkpoint_retry_delay_ms" greatestRetryDelay a.retryDelay.toNat := by
  rw [reasons, List.mem_append, List.mem_append, or_assoc]

/-- Each check finds in the merged settings what it finds in one of the two. -/
theorem mem_reasons_of_merge (h : reason ∈ (a.merge b).reasons) :
    reason ∈ a.reasons ∨ reason ∈ b.reasons := by
  rw [mem_reasons_iff, mem_reasons_iff]
  rcases mem_reasons_iff.1 h with hlevel | hretries | hdelay
  · rcases levelReasons_merge a b with hmerge | hmerge <;> rw [hmerge] at hlevel
    · exact .inl (.inl hlevel)
    · exact .inr (.inl hlevel)
  · rcases retries_merge a b with hmerge | hmerge <;> rw [hmerge] at hretries
    · exact .inl (.inr (.inl hretries))
    · exact .inr (.inr (.inl hretries))
  · rcases retryDelay_merge a b with hmerge | hmerge <;> rw [hmerge] at hdelay
    · exact .inl (.inr (.inr hdelay))
    · exact .inr (.inr (.inr hdelay))

/-- The settings are refused, and this is among the reasons that are given. -/
def Reports (c : Config) (reason : String) : Prop :=
  ∃ reasons, c.validate = .error (.invalid reasons) ∧ reason ∈ reasons

/-- The settings are not refused. -/
def Valid (c : Config) : Prop := ∃ ws, c.validate = .ok ws

/-- Every reason that there is gets reported. -/
theorem reports_iff : a.Reports reason ↔ reason ∈ a.reasons := by
  rw [Reports, validate]
  by_cases hnone : a.reasons = []
  · rw [if_pos hnone, hnone]
    simp
  · rw [if_neg hnone]
    simp

theorem valid_iff_reasons : a.Valid ↔ a.reasons = [] := by
  simp [Valid, validate_eq_ok_iff]

theorem valid_iff : a.Valid ↔ ∀ reason, ¬ a.Reports reason := by
  rw [valid_iff_reasons, List.eq_nil_iff_forall_not_mem]
  exact forall_congr' fun _ => not_congr reports_iff.symm

/-- Settings form a monoid under merging, and merging never invents a problem: each reason to refuse
    the merged settings is a reason to refuse the one side or the other.  So what is refused on
    neither side is not refused after merging, whatever each side leaves to its default. -/
theorem merge_lawful (a b c : Config) :
    (a.merge b).merge c = a.merge (b.merge c) ∧ empty.merge a = a ∧ a.merge empty = a ∧
      (∀ reason, (a.merge b).Reports reason → a.Reports reason ∨ b.Reports reason) ∧
      (a.Valid → b.Valid → (a.merge b).Valid) := by
  have hreports : ∀ reason, (a.merge b).Reports reason → a.Reports reason ∨ b.Reports reason := by
    intro reason h
    rw [reports_iff, reports_iff]
    exact mem_reasons_of_merge (reports_iff.1 h)
  refine ⟨merge_assoc a b c, empty_merge a, merge_empty a, hreports, fun ha hb => ?_⟩
  rw [valid_iff] at ha hb ⊢
  intro reason h
  rcases hreports reason h with h | h
  · exact ha reason h
  · exact hb reason h

/-- A level that does not exist, and the greatest number of retries. -/
def verbose : Config := ⟨some "verbose", none, some 100, none⟩

/-- The longest pause, with the number of retries left to its default. -/
def unhurried : Config := ⟨none, some .json, none, some 600000⟩

theorem valid_unhurried : unhurried.Valid := valid_iff_reasons.2 (by decide)

/-- The level is refused over the long pause as it is alone, and the initial level is not. -/
theorem merge_lawful_verbose :
    ((unhurried.merge verbose).Reports "invalid log_level 'verbose'" ∧
      verbose.Reports "invalid log_level 'verbose'") ∧ (unhurried.merge initial).Valid := by
  have hmerged : (unhurried.merge verbose).Reports "invalid log_level 'verbose'" :=
    reports_iff.2 (by decide)
  obtain ⟨-, -, -, hreports, -⟩ := merge_lawful unhurried verbose empty
  obtain ⟨-, -, -, -, hvalid⟩ := merge_lawful unhurried initial empty
  refine ⟨⟨hmerged, ?_⟩, hvalid valid_unhurried (valid_iff_reasons.2 (by decide))⟩
  rcases hreports _ hmerged with h | h
  · exact absurd h (valid_iff.1 valid_unhurried _)
  · exact h

/-- Two configurations that warn of nothing can be unwise together. -/
example : warnings ⟨none, none, some 100, some 1⟩ = [] ∧
    warnings ⟨none, none, none, some 10000⟩ = [] ∧
    warnings (merge ⟨none, none, some 100, some 1⟩ ⟨none, none, none, some 10000⟩) =
      [.longRetryWindow 1000] := by
  decide

end ShardBridge.Config
