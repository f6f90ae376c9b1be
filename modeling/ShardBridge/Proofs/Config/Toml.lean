/-
  ShardBridge.Proofs.Config.Toml

  Settings that are written can be read.  There is a TOML text for settings
  unless the pause is past the greatest whole number of a document, and that
  text is read as the same settings, with nothing set that was not
  (`Config.toToml_reads_back`).

  What the text sets is `tomlEntries`, one entry for each setting that is set.
  It is the lines of the text by `assigns_setting`, and the settings by
  `ofEntries_tomlEntries`.
-/
import ShardBridge.Config.Load
import ShardBridge.Proofs.Config.Overriding
import ShardBridge.Proofs.Toml.Assignments

namespace ShardBridge.Config

open Toml (Assigns Entries IsBareKey Value Written)

variable {α : Type} {key key' : String} {value : α → Value} {o : Option α} {entries : Entries}

/-! ## Entries -/

/-- The entry of a setting, if it is set. -/
def tomlEntry (key : String) (value : α → Value) (o : Option α) : Entries :=
  o.toList.map fun a => (key, value a)

/-- The entries of all settings that are set. -/
def tomlEntries (c : Config) : Entries :=
  tomlEntry "log_level" (fun s => .string s.toList) c.logLevel ++
    (tomlEntry "log_format" (fun f => .string f.name.toList) c.logFormat ++
      (tomlEntry "checkpoint_retries" (fun n => .integer n.toNat) c.checkpointRetries ++
        tomlEntry "checkpoint_retry_delay_ms" (fun n => .integer n.toNat) c.checkpointRetryDelay))

theorem keys_tomlEntry (key : String) (value : α → Value) (o : Option α) :
    ((tomlEntry key value o).map Prod.fst).Sublist [key] := by
  cases o with
  | none => exact List.nil_sublist _
  | some a => exact List.Sublist.refl _

/-- No key comes twice. -/
theorem nodup_keys (c : Config) : ((tomlEntries c).map Prod.fst).Nodup := by
  have hkeys : ((tomlEntries c).map Prod.fst).Sublist
      ["log_level", "log_format", "checkpoint_retries", "checkpoint_retry_delay_ms"] := by
    simp only [tomlEntries, List.map_append]
    exact (keys_tomlEntry ..).append ((keys_tomlEntry ..).append
      ((keys_tomlEntry ..).append (keys_tomlEntry ..)))
  exact hkeys.nodup (by decide)

theorem lookup_tomlEntry (key key' : String) (value : α → Value) (o : Option α) :
    (tomlEntry key' value o).lookup key = if key = key' then o.map value else none := by
  cases o with
  | none =>
    rw [Option.map_none, ite_self]
    rfl
  | some a =>
    show List.lookup key [(key', value a)] = _
    by_cases h : key = key'
    · subst h
      rw [if_pos rfl, List.lookup_cons_self]
      rfl
    · rw [if_neg h, List.lookup_cons, beq_false_of_ne h]
      rfl

/-! ## Writing -/

/-- The lines of all settings that are set. -/
def tomlLines (c : Config) : List Char :=
  tomlSetting "log_level" (fun s => Toml.Text.render s.toList) c.logLevel ++
  tomlSetting "log_format" (fun f => Toml.Text.render f.name.toList) c.logFormat ++
  tomlSetting "checkpoint_retries" (fun n => Text.Decimal.digits n.toNat) c.checkpointRetries ++
  tomlSetting "checkpoint_retry_delay_ms" (fun n => Text.Decimal.digits n.toNat)
    c.checkpointRetryDelay

/-- There is a text unless the pause is too long for a document, and it is made of those lines. -/
theorem toToml_eq_some_iff {c : Config} {text : String} :
    c.toToml = some text ↔ (∀ n ∈ c.checkpointRetryDelay, n.toNat ≤ greatestTomlInteger) ∧
      text = String.ofList (tomlLines c) := by
  have hfits : (¬ (c.checkpointRetryDelay.any fun n => greatestTomlInteger < n.toNat) = true) ↔
      ∀ n ∈ c.checkpointRetryDelay, n.toNat ≤ greatestTomlInteger := by
    cases c.checkpointRetryDelay <;> simp
  have htoml : c.toToml =
      if c.checkpointRetryDelay.any fun n => greatestTomlInteger < n.toNat then none
      else some (String.ofList (tomlLines c)) := rfl
  rw [htoml, Option.ite_none_left_eq_some, hfits, Option.some.injEq]
  exact and_congr_right fun _ => eq_comm

/-- A setting that is set is one more line, and one that is not set is none. -/
theorem assigns_setting {render : α → List Char} {body : List Char} (hkey : IsBareKey key)
    (hwritten : ∀ a ∈ o, Written (render a) (value a)) (h : Assigns body entries) :
    Assigns (tomlSetting key render o ++ body) (tomlEntry key value o ++ entries) := by
  cases o with
  | none => exact h
  | some a =>
    have hline := Assigns.line hkey (hwritten a rfl) h
    simpa [tomlSetting, tomlLine, tomlEntry] using hline

/-- The lines set the entries of the settings. -/
theorem assigns_tomlLines {c : Config}
    (hdelay : ∀ n ∈ c.checkpointRetryDelay, n.toNat ≤ greatestTomlInteger) :
    Assigns (tomlLines c) (tomlEntries c) := by
  have hretries : ∀ n ∈ c.checkpointRetries,
      Written (Text.Decimal.digits n.toNat) (.integer n.toNat) := by
    intro n _
    have hn := n.toNat_lt
    exact Toml.written_natural (by omega)
  -- From the last line upwards, since a line goes before lines that set entries already.
  have hkey : IsBareKey "checkpoint_retry_delay_ms" := by decide
  have hlast := assigns_setting hkey (fun n hn => Toml.written_natural (hdelay n hn)) .nil
  rw [List.append_nil, List.append_nil] at hlast
  simp only [tomlLines, List.append_assoc]
  refine assigns_setting (by decide) (fun s _ => Toml.written_string s.toList) ?_
  refine assigns_setting (by decide) (fun f _ => Toml.written_string f.name.toList) ?_
  exact assigns_setting (by decide) hretries hlast

/-! ## Reading -/

/-- A setting is read as it was set, and one without an entry is not set. -/
theorem tomlMember_of_lookup {β : Type} {read : Value → Option β} {f : α → β}
    (hlookup : entries.lookup key = o.map value) (hread : ∀ a, read (value a) = some (f a)) :
    tomlMember read key entries = some (o.map f) := by
  rw [tomlMember, hlookup]
  cases o with
  | none => rfl
  | some a =>
    show (read (value a)).map some = _
    rw [hread]
    rfl

theorem tomlString_toList (s : String) : tomlString (.string s.toList) = some s := by
  rw [tomlString, String.ofList_toList]

theorem tomlFormat_name (f : LogFormat) : tomlFormat (.string f.name.toList) = some f := by
  rw [tomlFormat, String.ofList_toList, lookup_variants_eq_some_iff]

theorem tomlNatural_le {greatest n : Nat} (h : n ≤ greatest) :
    tomlNatural greatest (.integer n) = some n := by
  show (if n ≤ greatest then some n else none) = some n
  rw [if_pos h]

/-- The entries of settings are read as the settings. -/
theorem ofEntries_tomlEntries (c : Config) : ofEntries (tomlEntries c) = some c := by
  have hlevel : (tomlEntries c).lookup "log_level" =
      c.logLevel.map fun s => .string s.toList := by
    simp [tomlEntries, List.lookup_append, lookup_tomlEntry]
  have hformat : (tomlEntries c).lookup "log_format" =
      c.logFormat.map fun f => .string f.name.toList := by
    simp [tomlEntries, List.lookup_append, lookup_tomlEntry]
  have hretries : (tomlEntries c).lookup "checkpoint_retries" =
      c.checkpointRetries.map fun n => .integer n.toNat := by
    simp [tomlEntries, List.lookup_append, lookup_tomlEntry]
  have hdelay : (tomlEntries c).lookup "checkpoint_retry_delay_ms" =
      c.checkpointRetryDelay.map fun n => .integer n.toNat := by
    simp [tomlEntries, List.lookup_append, lookup_tomlEntry]
  have hword (n : UInt32) : n.toNat ≤ UInt32.size - 1 := Nat.le_pred_of_lt n.toNat_lt
  have hlong (n : UInt64) : n.toNat ≤ UInt64.size - 1 := Nat.le_pred_of_lt n.toNat_lt
  rw [ofEntries, tomlMember_of_lookup hlevel tomlString_toList,
    tomlMember_of_lookup hformat tomlFormat_name,
    tomlMember_of_lookup hretries fun n => tomlNatural_le (hword n),
    tomlMember_of_lookup hdelay fun n => tomlNatural_le (hlong n)]
  have hback : UInt32.ofNat ∘ UInt32.toNat = id := funext fun _ => UInt32.ofNat_toNat
  have hbackLong : UInt64.ofNat ∘ UInt64.toNat = id := funext fun _ => UInt64.ofNat_toNat
  simp [hback, hbackLong]

/-- Settings have a TOML text unless their pause needs all 64 bits, one of which is the sign in a
    document; and their text is read as the same settings. -/
theorem toToml_reads_back (c : Config) :
    ((∃ text, c.toToml = some text) ↔
      ∀ n ∈ c.checkpointRetryDelay, n.toNat ≤ 9223372036854775807) ∧
    ∀ text, c.toToml = some text → parse text = .ok c := by
  constructor
  · simp [toToml_eq_some_iff, greatestTomlInteger]
  · intro text h
    obtain ⟨hdelay, rfl⟩ := toToml_eq_some_iff.1 h
    have hentries : Entries.ofText (tomlLines c) = some (tomlEntries c) :=
      Entries.ofText_of_assigns (assigns_tomlLines hdelay) (nodup_keys c)
    rw [parse, ofToml, String.toList_ofList, hentries, Option.bind_some, ofEntries_tomlEntries]

/-- Quotes of both kinds, a backslash, a line end and a control in one text, and the longest pause
    that a document can hold. -/
theorem toToml_reads_back_controls :
    let c : Config := ⟨some "\"\"\"a\\b'''\n\x07", none, none, some 9223372036854775807⟩
    let text := "log_level = \"\"\"\n\"\"\\\"a\\\\b'''\n\\u0007\"\"\"\n" ++
      "checkpoint_retry_delay_ms = 9223372036854775807\n"
    c.toToml = some text ∧ parse text = .ok c := by
  intro c text
  have hwritten : c.toToml = some text := by decide +kernel
  exact ⟨hwritten, (toToml_reads_back c).2 text hwritten⟩

end ShardBridge.Config
