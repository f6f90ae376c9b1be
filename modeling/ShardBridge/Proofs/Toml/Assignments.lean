/-
  ShardBridge.Proofs.Toml.Assignments

  Documents that are nothing but keys with values, each on a line of its own.
  If every value is written so that it ends where its line does, and no key
  comes twice, then the document is read as these keys with these values, in
  their order (`Toml.Entries.ofText_of_assigns`).

    * `Written text v` -- the text, on a line of its own, is read as the value;
    * `Assigns text entries` -- the lines of the text set the entries.
-/
import ShardBridge.Proofs.Json.Rendering
import ShardBridge.Proofs.Toml.Quoting
import ShardBridge.Toml.Document

namespace ShardBridge.Toml

variable {text input rest tail : List Char} {c : Char} {v : Value} {key : String}

/-! ## Values -/

/-- The text is read as the value when the line ends after it. -/
structure Written (text : List Char) (v : Value) : Prop where
  start : ∀ c ∈ text.head?, isBlank c = false
  reads : ∀ (fuel depth : Nat) (rest : List Char),
    readValue (fuel + 1) depth (text ++ '\n' :: rest) = some (v, '\n' :: rest)

/-- Characters of one kind do not begin with one of another. -/
theorem append_ne_cons {p : Char → Bool} (hne : text ≠ []) (htext : ∀ d ∈ text, p d = true)
    (hc : p c = false) : text ++ input ≠ c :: tail := by
  obtain ⟨d, ds, rfl⟩ := List.exists_cons_of_ne_nil hne
  have hd : p d = true := htext d List.mem_cons_self
  rintro ⟨⟩
  rw [hc] at hd
  cases hd

theorem head_not_blank {p : Char → Bool} (htext : ∀ d ∈ text, p d = true) (hspace : p ' ' = false)
    (htab : p '\t' = false) : ∀ c ∈ text.head?, isBlank c = false := by
  intro c hc
  have hclass : p c = true := htext c (List.mem_of_mem_head? hc)
  rw [isBlank, Bool.or_eq_false_iff, decide_eq_false_iff_not, decide_eq_false_iff_not]
  constructor
  · rintro rfl
    rw [hspace] at hclass
    cases hclass
  · rintro rfl
    rw [htab] at hclass
    cases hclass

theorem skipBlanks_of_head (h : ∀ c ∈ input.head?, isBlank c = false) :
    skipBlanks input = input := by
  cases input with
  | nil => rfl
  | cons c input =>
    have hc : ¬ isBlank c = true := Bool.eq_false_iff.1 (h c rfl)
    exact List.dropWhile_cons_of_neg hc

theorem Written.skipBlanks (h : Written text v) (rest : List Char) :
    skipBlanks (text ++ '\n' :: rest) = text ++ '\n' :: rest := by
  refine skipBlanks_of_head (Text.forall_head_append h.start ?_)
  rintro c ⟨⟩
  rfl

/-- A string that the writer puts out begins with a quote. -/
theorem Text.render_head (text : List Char) :
    ∃ tail, render text = '"' :: tail ∨ render text = '\'' :: tail := by
  rw [render]
  obtain ⟨long, hs⟩ | ⟨long, hs, -, -⟩ := styleFor_holds text
  · rw [hs]
    cases long <;> exact ⟨_, .inl rfl⟩
  · rw [hs]
    cases long <;> exact ⟨_, .inr rfl⟩

theorem written_string (text : List Char) : Written (Text.render text) (.string text) where
  start := by
    obtain ⟨tail, h | h⟩ := Text.render_head text <;> rw [h] <;> rintro c ⟨⟩ <;> rfl
  reads := by
    intro fuel depth rest
    have hread : Text.read (Text.render text ++ '\n' :: rest) = some (text, '\n' :: rest) := by
      refine Text.read_render text ?_
      rintro c ⟨⟩
      exact ⟨by decide, by decide⟩
    obtain ⟨tail, h | h⟩ := Text.render_head text
    · rw [h, List.cons_append] at hread ⊢
      rw [readValue, hread]
      rfl
    · rw [h, List.cons_append] at hread ⊢
      rw [readValue, hread]
      rfl

/-! ## Whole numbers -/

namespace Word

open Text.Decimal (isDigit digits value)

theorem ungroup_digits {ds : List Char} (hne : ds ≠ []) (h : ∀ c ∈ ds, isDigit c = true) :
    ungroup isDigit ds = some ds := by
  induction ds with
  | nil => exact absurd rfl hne
  | cons c ds ih =>
    obtain ⟨hc, hds⟩ := List.forall_mem_cons.1 h
    cases ds with
    | nil => rw [ungroup, if_pos hc]
    | cons d ds =>
      -- Another digit follows, and no underscore that would be left out.
      have hd : d ≠ '_' := by
        rintro rfl
        exact absurd (hds '_' List.mem_cons_self) (by decide)
      have hrest := ih (List.cons_ne_nil d ds) hds
      rw [ungroup, if_pos hc, hrest]
      · rfl
      · exact List.cons_ne_nil d ds
      · rintro rest ⟨⟩
        exact hd rfl

theorem decimalDigits_digits (n : Nat) : decimalDigits (digits n) = some (digits n) := by
  have hungroup : ungroup isDigit (digits n) = some (digits n) :=
    ungroup_digits (Text.Decimal.digits_ne_nil n) fun _ => Text.Decimal.isDigit_of_mem_digits
  have hzero : hasLeadingZero (digits n) = false := by
    rcases Json.Numeral.isWhole_digits n with h | ⟨-, h⟩
    · rw [h]
      rfl
    · rw [hasLeadingZero]
      intro c rest hds
      rw [hds] at h
      exact h rfl
  rw [decimalDigits, hungroup, Option.bind_some, hzero]
  rfl

/-- What is no digit is not among the digits of a number. -/
theorem digits_ne {n : Nat} (hc : isDigit c = false) (hmem : c ∈ text) : digits n ≠ text := by
  rintro rfl
  rw [Text.Decimal.isDigit_of_mem_digits hmem] at hc
  cases hc

/-- A number up to the greatest that a document can hold is read from its digits. -/
theorem integer?_digits {n : Nat} (hn : n ≤ 9223372036854775807) :
    integer? (digits n) = some (n : Int) := by
  have hsign : splitSign (digits n) = (false, digits n) := by
    rw [splitSign]
    · intro rest
      exact digits_ne (c := '+') (by decide) List.mem_cons_self
    · intro rest
      exact digits_ne (c := '-') (by decide) List.mem_cons_self
  have hranged : ranged (n : Int) = some (n : Int) := by
    rw [ranged, if_pos]
    simp only [Bool.and_eq_true, decide_eq_true_eq]
    omega
  rw [integer?]
  · rw [hsign]
    dsimp only
    rw [decimalDigits_digits, Option.bind_some, Text.Decimal.value_digits]
    exact hranged
  · intro rest
    exact digits_ne (c := 'x') (by decide) (by simp)
  · intro rest
    exact digits_ne (c := 'o') (by decide) (by simp)
  · intro rest
    exact digits_ne (c := 'b') (by decide) (by simp)

theorem ofText_digits {n : Nat} (hn : n ≤ 9223372036854775807) :
    ofText (digits n) = some (.integer n) := by
  have htrue : digits n ≠ ['t', 'r', 'u', 'e'] :=
    digits_ne (c := 't') (by decide) List.mem_cons_self
  have hfalse : digits n ≠ ['f', 'a', 'l', 's', 'e'] :=
    digits_ne (c := 'f') (by decide) List.mem_cons_self
  rw [ofText, if_neg htrue, if_neg hfalse, integer?_digits hn]

theorem isPart_of_isDigit (h : isDigit c = true) : isPart c = true := by
  have halphanum : c.isAlphanum = true := by
    simp only [isDigit, Bool.and_eq_true, decide_eq_true_eq] at h
    simp only [Char.isAlphanum, Char.isDigit, Bool.or_eq_true, Bool.and_eq_true,
      decide_eq_true_eq]
    exact .inr h
  rw [isPart, halphanum]
  rfl

theorem read_digits {n : Nat} (hn : n ≤ 9223372036854775807) (rest : List Char) :
    read (digits n ++ '\n' :: rest) = some (.integer n, '\n' :: rest) := by
  have hparts : ∀ c ∈ digits n, isPart c = true :=
    fun c hc => isPart_of_isDigit (Text.Decimal.isDigit_of_mem_digits hc)
  have hend : ¬ isPart '\n' = true := by decide
  rw [read, List.takeWhile_append_of_pos hparts, List.dropWhile_append_of_pos hparts,
    List.takeWhile_cons_of_neg hend, List.dropWhile_cons_of_neg hend, List.append_nil,
    ofText_digits hn]

end Word

theorem written_natural {n : Nat} (hn : n ≤ 9223372036854775807) :
    Written (Text.Decimal.digits n) (.integer n) where
  start := head_not_blank (fun _ => Text.Decimal.isDigit_of_mem_digits) (by decide) (by decide)
  reads := by
    intro fuel depth rest
    -- No bracket, brace or quote stands at the start of digits.
    have hne (d : Char) (hd : Text.Decimal.isDigit d = false) (tail : List Char) :
        Text.Decimal.digits n ++ '\n' :: rest ≠ d :: tail :=
      append_ne_cons (Text.Decimal.digits_ne_nil n)
        (fun _ => Text.Decimal.isDigit_of_mem_digits) hd
    rw [readValue]
    · rw [Word.read_digits hn]
      rfl
    · exact hne '[' (by decide)
    · exact hne '{' (by decide)
    · exact hne '"' (by decide)
    · exact hne '\'' (by decide)

/-! ## Keys -/

/-- A key that needs no quotes. -/
def IsBareKey (key : String) : Prop :=
  key.toList ≠ [] ∧ ∀ c ∈ key.toList, isKeyPart c = true

instance (key : String) : Decidable (IsBareKey key) :=
  decidable_of_iff (key.toList ≠ [] ∧ key.toList.all isKeyPart = true)
    (and_congr_right fun _ => List.all_eq_true)

/-- What is no part of a key does not start a line with one. -/
theorem IsBareKey.ne_cons (h : IsBareKey key) (hc : isKeyPart c = false) :
    key.toList ++ input ≠ c :: tail :=
  append_ne_cons h.1 h.2 hc

theorem IsBareKey.skipBlanks (h : IsBareKey key) (input : List Char) :
    skipBlanks (key.toList ++ input) = key.toList ++ input := by
  obtain ⟨c, tail, htail⟩ := List.exists_cons_of_ne_nil h.1
  have hhead : ∀ d ∈ key.toList.head?, isBlank d = false :=
    head_not_blank h.2 (by decide) (by decide)
  refine skipBlanks_of_head ?_
  rw [htail] at hhead ⊢
  exact hhead

theorem readKeyPart_bare (h : IsBareKey key) (hc : isKeyPart c = false) :
    readKeyPart (key.toList ++ c :: rest) = some (key, c :: rest) := by
  have hend : ¬ isKeyPart c = true := by simp [hc]
  have htake : (key.toList ++ c :: rest).takeWhile isKeyPart = key.toList := by
    rw [List.takeWhile_append_of_pos h.2, List.takeWhile_cons_of_neg hend, List.append_nil]
  have hdrop : (key.toList ++ c :: rest).dropWhile isKeyPart = c :: rest := by
    rw [List.dropWhile_append_of_pos h.2, List.dropWhile_cons_of_neg hend]
  rw [readKeyPart]
  · rw [htake, hdrop, if_neg h.1, String.ofList_toList]
  · intro tail
    exact h.ne_cons (by decide)
  · intro tail
    exact h.ne_cons (by decide)

theorem readKey_bare (h : IsBareKey key) (rest : List Char) :
    readKey (key.toList ++ ' ' :: '=' :: rest) = some (([], key), '=' :: rest) := by
  have hkeys : readKeys greatestDepth (key.toList ++ ' ' :: '=' :: rest) =
      some ([key], '=' :: rest) := by
    rw [greatestDepth, readKeys, h.skipBlanks, readKeyPart_bare h (by decide)]
    rfl
  rw [readKey, hkeys]
  rfl

/-! ## Lines -/

theorem readPair_bare (hkey : IsBareKey key) (hvalue : Written text v) (rest : List Char) :
    readPair (key.toList ++ ' ' :: '=' :: ' ' :: (text ++ '\n' :: rest)) =
      some (.pair [] key v, '\n' :: rest) := by
  have hblank : skipBlanks (' ' :: (text ++ '\n' :: rest)) = text ++ '\n' :: rest :=
    hvalue.skipBlanks rest
  rw [readPair, readKey_bare hkey]
  show (readValue (callsFor _) greatestDepth (skipBlanks (' ' :: _))).map _ = _
  rw [hblank, callsFor, hvalue.reads]
  rfl

/-- A line that begins with a key is one of a key with its value. -/
theorem readLine_key (h : IsBareKey key) (input : List Char) :
    readLine (key.toList ++ input) =
      (readPair (key.toList ++ input)).bind fun r =>
        (restOfLine r.2).map fun rest => (some r.1, rest) := by
  rw [readLine, h.skipBlanks]
  -- Nothing that other lines begin with is part of a key.
  split
  · next hnil => exact absurd (List.append_eq_nil_iff.1 hnil).1 h.1
  · next hstart => exact absurd hstart (h.ne_cons (by decide))
  · next hstart => exact absurd hstart (h.ne_cons (by decide))
  · next hstart => exact absurd hstart (h.ne_cons (by decide))
  · next hstart => exact absurd hstart (h.ne_cons (by decide))
  · rfl

theorem readLine_bare (hkey : IsBareKey key) (hvalue : Written text v) (rest : List Char) :
    readLine (key.toList ++ ' ' :: '=' :: ' ' :: (text ++ '\n' :: rest)) =
      some (some (.pair [] key v), rest) := by
  rw [readLine_key hkey, readPair_bare hkey hvalue]
  rfl

/-! ## Documents -/

/-- The lines of the text set the entries, one line for each. -/
inductive Assigns : List Char → Entries → Prop
  | nil : Assigns [] []
  | line {key : String} {text body : List Char} {v : Value} {entries : Entries}
    (hkey : IsBareKey key) (hvalue : Written text v) (h : Assigns body entries) :
    Assigns (key.toList ++ ' ' :: '=' :: ' ' :: (text ++ '\n' :: body)) ((key, v) :: entries)

variable {entries : Entries}

theorem Assigns.length_le (h : Assigns text entries) : entries.length ≤ text.length := by
  induction h with
  | nil => exact Nat.le_refl 0
  | line _ _ _ ih =>
    simp only [List.length_append, List.length_cons]
    omega

theorem Assigns.readLines (h : Assigns text entries) {fuel : Nat} (hfuel : entries.length ≤ fuel) :
    readLines fuel text = some (entries.map fun entry => .pair [] entry.1 entry.2) := by
  induction h generalizing fuel with
  | nil => rw [Toml.readLines, List.map_nil]
  | @line key text body v entries hkey hvalue h ih =>
    -- The line takes one call, and so many are left as there are further lines.
    obtain ⟨fuel, rfl⟩ := Nat.exists_eq_add_one_of_ne_zero (Nat.ne_of_gt (Nat.zero_lt_of_lt hfuel))
    have hrest := ih (Nat.le_of_succ_le_succ hfuel)
    rw [Toml.readLines, readLine_bare hkey hvalue]
    · dsimp only
      rw [hrest]
      rfl
    · exact fun hnil => hkey.1 (List.append_eq_nil_iff.1 hnil).1

/-- A document of settings does not begin with the mark that may start a file. -/
theorem Assigns.dropByteOrderMark (h : Assigns text entries) : dropByteOrderMark text = text := by
  cases h with
  | nil => rfl
  | line hkey _ _ =>
    rw [Toml.dropByteOrderMark]
    intro rest
    exact hkey.ne_cons (by decide)

/-- A key that is not there comes last. -/
theorem Entries.set_fresh (hkey : key ∉ entries.map Prod.fst) :
    entries.set [] key v = some (entries ++ [(key, v)]) := by
  have hlookup : entries.lookup key = none := by
    rw [List.lookup_eq_none_iff]
    intro entry hentry
    simp only [bne_iff_ne]
    rintro rfl
    exact hkey (List.mem_map_of_mem hentry)
  have hinsert : entries.insert? key v = some (entries ++ [(key, v)]) := by
    rw [Entries.insert?, hlookup]
  rw [Entries.set, Entries.alter, if_neg (by decide), hinsert]
  rfl

/-- Keys that all differ are taken in their order. -/
theorem Draft.takeAll_pairs (before : Entries)
    (hkeys : ((before ++ entries).map Prod.fst).Nodup) :
    Draft.takeAll { entries := before } (entries.map fun entry => .pair [] entry.1 entry.2) =
      some { entries := before ++ entries } := by
  induction entries generalizing before with
  | nil => rw [List.append_nil, List.map_nil, Draft.takeAll]
  | cons entry entries ih =>
    obtain ⟨key, v⟩ := entry
    have hfresh : key ∉ before.map Prod.fst := by
      rw [List.map_append, List.nodup_append] at hkeys
      exact fun hmem => hkeys.2.2 key hmem key List.mem_cons_self rfl
    have htake : Draft.take { entries := before } (.pair [] key v) =
        some { entries := before ++ [(key, v)] } := by
      rw [Draft.take, Entries.set_fresh hfresh]
      rfl
    rw [List.append_cons] at hkeys ⊢
    rw [List.map_cons, Draft.takeAll, htake]
    exact ih _ hkeys

/-- A document of keys that all differ is read as its entries. -/
theorem Entries.ofText_of_assigns (h : Assigns text entries)
    (hkeys : (entries.map Prod.fst).Nodup) : Entries.ofText text = some entries := by
  have hfuel : entries.length ≤ text.length + 1 := Nat.le_succ_of_le h.length_le
  have htake : Draft.takeAll {} (entries.map fun entry => .pair [] entry.1 entry.2) =
      some { entries } := Draft.takeAll_pairs [] hkeys
  rw [Entries.ofText, h.dropByteOrderMark, h.readLines hfuel, Option.bind_some, Entries.ofLines,
    htake]
  rfl

end ShardBridge.Toml
