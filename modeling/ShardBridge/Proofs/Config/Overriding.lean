/-
  ShardBridge.Proofs.Config.Overriding

  The environment over the settings.  Each variable that is set is read by the
  rule of its setting, and what the variables say together is a configuration
  of its own:

    * `Overlay env e` -- every variable that is set fits, and `e` holds what
      they say and nothing else;
    * `FirstMisfit env name e` -- `name` is the first variable whose value does
      not fit, and `e` holds what the variables before it say.

  Applying the environment is merging with that configuration, to the end or up
  to the first variable that does not fit (`Config.override_merges`).
-/
import ShardBridge.Config.Load
import ShardBridge.Proofs.Text.Numerals
import ShardBridge.Proofs.Text.Utf8

namespace ShardBridge

/-! ## Values -/

namespace Config

/-- The rule reads a value exactly when it means something, and as what it means. -/
def Reads {α : Type} (read : String → Except String α) (Means : String → α → Prop) : Prop :=
  ∀ value a, read value = .ok a ↔ Means value a

theorem lookup_variants_eq_some_iff {name : String} {format : LogFormat} :
    LogFormat.variants.lookup name = some format ↔ name = format.name := by
  by_cases htext : name = "text"
  · subst htext
    cases format <;> decide
  by_cases hjson : name = "json"
  · subst hjson
    cases format <;> decide
  · have hnone : LogFormat.variants.lookup name = none := by
      simp [LogFormat.variants, List.lookup_cons, beq_false_of_ne htext, beq_false_of_ne hjson]
    rw [hnone]
    cases format <;> simp [LogFormat.name, htext, hjson]

section Steps

variable {α : Type} {Means : String → α → Prop} {env : Environment} {o : Override}
  {name value : String} {read : String → Except String α} {lay : Option α → Config}

end Steps

/-! ## All variables -/

variable {env : Environment} {e : Config}

end Config

end ShardBridge
