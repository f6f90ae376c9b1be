/-
  ShardBridge.Proofs.Json.Rendering

  What is printed can be read.  The text of a value is one of its spellings, so
  the general reader gives the value back (`Value.ofText_text`), as long as its
  numbers are whole and keep their value, and its lists and objects are not too
  deep.
-/
import ShardBridge.Json.Printer
import ShardBridge.Proofs.Json.Scanning

namespace ShardBridge.Json

/-! ## Strings -/

namespace Literal

theorem hexQuad_control {n : Nat} (h : n < 0x20) :
    hexQuad '0' '0' (Text.Quoted.hexDigit (n / 16)) (Text.Quoted.hexDigit (n % 16)) = some n := by
  have key : ∀ m, m < 0x20 →
      hexQuad '0' '0' (Text.Quoted.hexDigit (m / 16)) (Text.Quoted.hexDigit (m % 16)) = some m := by
    decide
  exact key n h

/-- A character, escaped if need be, is a spelling of itself. -/
theorem spelled_escape {c : Char} {body text rest : List Char} (h : Spelled body text rest) :
    Spelled (escape c ++ body) (c :: text) rest := by
  -- Seven characters have an escape of one letter, the other controls one by number.
  rw [escape]
  split
  · next hc => subst hc; exact .letter rfl h
  split
  · next hc => subst hc; exact .letter rfl h
  split
  · next hc => exact hc ▸ .letter rfl h
  split
  · next hc => exact hc ▸ .letter rfl h
  split
  · next hc => exact hc ▸ .letter rfl h
  split
  · next hc => exact hc ▸ .letter rfl h
  split
  · next hc => exact hc ▸ .letter rfl h
  split
  · next hcontrol =>
    have hlt : c.toNat < 0x20 := by simpa [isControl] using hcontrol
    have hlow : isLow c.toNat = false := by simp [isLow]; omega
    have hhigh : isHigh c.toNat = false := by simp [isHigh]; omega
    have hspelled := Spelled.unit (hexQuad_control hlt) hlow hhigh h
    rwa [Char.ofNat_toNat] at hspelled
  · next hquote hslash _ _ _ _ _ hcontrol =>
    exact .plain hquote hslash (by simpa using hcontrol) h

/-- A printed literal is a spelling of its text. -/
theorem spelled_body (text rest : List Char) : Spelled (body text ++ rest) text rest := by
  rw [body, List.append_assoc]
  induction text with
  | nil => exact .close
  | cons c text ih =>
    rw [List.flatMap_cons, List.append_assoc]
    exact spelled_escape ih

end Literal

/-! ## Numbers -/

namespace Numeral

open Text.Decimal (digits value)

theorem digits_of_decimal (n : Nat) : Digits (digits n) :=
  ⟨Text.Decimal.digits_ne_nil n, fun _ hd => Text.Decimal.isDigit_of_mem_digits hd⟩

/-- No zero stands before other digits. -/
theorem isWhole_digits (n : Nat) : IsWhole (digits n) := by
  induction n using Nat.strongRecOn with
  | _ n ih =>
    by_cases hlt : n < 10
    · by_cases hzero : n = 0
      · subst hzero
        exact .inl (by rw [digits]; rfl)
      · refine .inr ⟨digits_of_decimal n, ?_⟩
        have key : ∀ m, m < 10 → m ≠ 0 → some (Text.Decimal.digit m) ≠ some '0' := by decide
        rw [digits, if_pos hlt]
        exact key n hlt hzero
    · refine .inr ⟨digits_of_decimal n, ?_⟩
      obtain ⟨d, ds, hds⟩ := List.exists_cons_of_ne_nil (Text.Decimal.digits_ne_nil (n / 10))
      -- The first digit of `n` is that of `n / 10`, and only zero begins with a zero.
      rw [digits, if_neg hlt, hds, List.cons_append, List.head?_cons]
      rcases ih (n / 10) (by omega) with hz | ⟨-, hhead⟩
      · have hvalue := congrArg value hz
        rw [Text.Decimal.value_digits] at hvalue
        have : value ['0'] = 0 := by decide
        omega
      · rwa [hds, List.head?_cons] at hhead

/-- The literal of a whole number. -/
def ofInt (n : Int) : Numeral := ⟨decide (n < 0), digits n.natAbs, [], none⟩

theorem spelled_signed (n : Int) (rest : List Char) :
    (ofInt n).Spelled (Text.Decimal.signed n ++ rest) rest := by
  refine ⟨[], [], .absent, .absent, isWhole_digits _, ?_⟩
  cases n with
  | ofNat n => simp [ofInt, Text.Decimal.signed]
  | negSucc n => simp [ofInt, Text.Decimal.signed]

theorem number_ofInt {n : Int} (hleast : -(greatestNegated : Int) ≤ n)
    (hgreatest : n ≤ greatestWhole) : (ofInt n).number = .ok (.integer n) := by
  have hwithin : greatestNegated ≤ greatestWhole := by decide
  rw [number_eq_integer]
  simp only [ofInt, Text.Decimal.value_digits, decide_eq_true_eq, decide_eq_false_iff_not,
    true_and]
  omega

end Numeral

/-! ## Values -/

mutual

/-- The value is not lost in print: its numbers are whole and in range, and it has no more than so
    many levels of lists and objects. -/
def Value.Printable : Nat → Value → Prop
  | _, .null => True
  | _, .bool _ => True
  | _, .number (.integer n) => -(Numeral.greatestNegated : Int) ≤ n ∧ n ≤ Numeral.greatestWhole
  | _, .number (.real _) => False
  | _, .string _ => True
  | 0, .array _ => False
  | depth + 1, .array items => Value.PrintableItems depth items
  | 0, .object _ => False
  | depth + 1, .object members => Value.PrintableMembers depth members

/-- No element of the list is lost in print. -/
def Value.PrintableItems : Nat → List Value → Prop
  | _, [] => True
  | depth, v :: rest => v.Printable depth ∧ Value.PrintableItems depth rest

/-- No value of the members is lost in print. -/
def Value.PrintableMembers : Nat → List (String × Value) → Prop
  | _, [] => True
  | depth, (_, v) :: rest => v.Printable depth ∧ Value.PrintableMembers depth rest

end

mutual

/-- The text of a value is a spelling of it. -/
theorem Value.spelled_render {depth : Nat} {v : Value} (h : v.Printable depth)
    (rest : List Char) :
    ∃ t, Tree.Spelled (v.render ++ rest) t rest ∧ t.valueWithin depth = .ok v := by
  match v, h with
  | .null, _ => exact ⟨_, .null, rfl⟩
  | .bool true, _ => exact ⟨_, .yes, rfl⟩
  | .bool false, _ => exact ⟨_, .no, rfl⟩
  | .number (.integer n), h =>
    refine ⟨_, .number (Numeral.spelled_signed n rest), ?_⟩
    simp only [Value.Printable] at h
    simp [Tree.valueWithin, Numeral.number_ofInt h.1 h.2, Except.map]
  | .number (.real x), h => simp [Value.Printable] at h
  | .string s, _ =>
    refine ⟨_, .string (Literal.spelled_body s.toList rest), ?_⟩
    simp [Tree.valueWithin, Literal.string, Literal.whole, Except.map]
  | .array items, h =>
    cases depth with
    | zero => simp [Value.Printable] at h
    | succ depth =>
      rw [Value.Printable] at h
      match items, h with
      | [], _ => exact ⟨_, .emptyArray (Gap.refl _), rfl⟩
      | v :: vs, ⟨hv, hvs⟩ =>
        obtain ⟨t, ht, htv⟩ := Value.spelled_render hv (Value.renderItems vs ++ rest)
        obtain ⟨items, hitems, hvalues⟩ := Value.spelled_renderItems hvs rest ht htv
        refine ⟨.array items, ?_, Tree.valueWithin_array.2 ⟨_, _, rfl, hvalues, rfl⟩⟩
        rw [Value.render, List.cons_append, List.append_assoc]
        exact .array (Gap.refl _) hitems
  | .object members, h =>
    cases depth with
    | zero => simp [Value.Printable] at h
    | succ depth =>
      rw [Value.Printable] at h
      match members, h with
      | [], _ => exact ⟨_, .emptyObject (Gap.refl _), rfl⟩
      | (k, v) :: ms, ⟨hv, hms⟩ =>
        obtain ⟨t, ht, htv⟩ := Value.spelled_render hv (Value.renderMembers ms ++ rest)
        obtain ⟨members, hmembers, hentries⟩ := Value.spelled_renderMembers hms rest ht htv k
        refine ⟨.object members, ?_, Tree.valueWithin_object.2 ⟨_, _, rfl, hentries, rfl⟩⟩
        simp only [Value.render, List.cons_append, List.append_assoc]
        exact .object (Gap.refl _) hmembers

theorem Value.spelled_renderItems {depth : Nat} {vs : List Value}
    (h : Value.PrintableItems depth vs) (rest : List Char) {text : List Char} {value : Tree}
    {v : Value} (hvalue : Tree.Spelled text value (Value.renderItems vs ++ rest))
    (hv : value.valueWithin depth = .ok v) :
    ∃ items, Items.Spelled text items rest ∧ items.valuesWithin depth = .ok (v :: vs) := by
  match vs, h with
  | [], _ =>
    exact ⟨_, .last hvalue (Gap.refl _),
      Items.valuesWithin_item.2 ⟨v, [], hv, rfl, rfl⟩⟩
  | v' :: vs, ⟨hv', hvs⟩ =>
    obtain ⟨t, ht, htv⟩ := Value.spelled_render hv' (Value.renderItems vs ++ rest)
    obtain ⟨items, hitems, hvalues⟩ := Value.spelled_renderItems hvs rest ht htv
    rw [Value.renderItems, List.cons_append, List.append_assoc] at hvalue
    exact ⟨_, .more hvalue (Gap.refl _) (Gap.refl _) hitems,
      Items.valuesWithin_item.2 ⟨v, _, hv, hvalues, rfl⟩⟩

theorem Value.spelled_renderMembers {depth : Nat} {ms : List (String × Value)}
    (h : Value.PrintableMembers depth ms) (rest : List Char) {body : List Char} {value : Tree}
    {v : Value} (hvalue : Tree.Spelled body value (Value.renderMembers ms ++ rest))
    (hv : value.valueWithin depth = .ok v) (k : String) :
    ∃ members, Members.Spelled (Literal.render k.toList ++ ':' :: body) members rest ∧
      members.entriesWithin depth = .ok ((k, v) :: ms) := by
  have hkey : (Literal.whole k.toList).string = .ok k := Literal.string_eq_ok.2 rfl
  match ms, h with
  | [], _ =>
    exact ⟨_, .last (Literal.spelled_body _ _) (Gap.refl _) (Gap.refl _) hvalue (Gap.refl _),
      Members.entriesWithin_member.2 ⟨k, v, [], hkey, hv, rfl, rfl⟩⟩
  | (k', v') :: ms, ⟨hv', hms⟩ =>
    obtain ⟨t, ht, htv⟩ := Value.spelled_render hv' (Value.renderMembers ms ++ rest)
    obtain ⟨members, hmembers, hentries⟩ := Value.spelled_renderMembers hms rest ht htv k'
    simp only [Value.renderMembers, List.cons_append, List.append_assoc] at hvalue
    exact ⟨_, .more (Literal.spelled_body _ _) (Gap.refl _) (Gap.refl _) hvalue (Gap.refl _)
      (Gap.refl _) hmembers, Members.entriesWithin_member.2 ⟨k, v, _, hkey, hv, hentries, rfl⟩⟩

end

/-- The general reader gives a printed value back. -/
theorem Value.ofText_text {v : Value} (h : v.Printable greatestDepth) :
    Value.ofText v.text = .ok v := by
  obtain ⟨t, ht, hv⟩ := Value.spelled_render h []
  rw [List.append_nil] at ht
  refine Value.ofText_eq_ok_iff.2 ⟨t, ⟨v.render, [], ?_, ht, Gap.refl _⟩, hv⟩
  rw [Value.text, String.toList_ofList]
  exact Gap.refl _

/-! ## Controls -/

/-- No control stands in the text as itself. -/
def Unbroken (text : List Char) : Prop := ∀ c ∈ text, Literal.isControl c = false

theorem unbroken_append {text text' : List Char} :
    Unbroken (text ++ text') ↔ Unbroken text ∧ Unbroken text' := by
  simp [Unbroken, or_imp, forall_and]

theorem unbroken_cons {c : Char} {text : List Char} :
    Unbroken (c :: text) ↔ Literal.isControl c = false ∧ Unbroken text := by
  simp [Unbroken]

theorem isControl_hexDigit {n : Nat} (h : n < 16) :
    Literal.isControl (Text.Quoted.hexDigit n) = false := by
  have key : ∀ m, m < 16 → Literal.isControl (Text.Quoted.hexDigit m) = false := by decide
  exact key n h

theorem unbroken_escape (c : Char) : Unbroken (Literal.escape c) := by
  rw [Literal.escape]
  split
  · simp [Unbroken, Literal.isControl]
  split
  · simp [Unbroken, Literal.isControl]
  split
  · simp [Unbroken, Literal.isControl]
  split
  · simp [Unbroken, Literal.isControl]
  split
  · simp [Unbroken, Literal.isControl]
  split
  · simp [Unbroken, Literal.isControl]
  split
  · simp [Unbroken, Literal.isControl]
  split
  · next hcontrol =>
    have hlt : c.toNat < 0x20 := by simpa [Literal.isControl] using hcontrol
    -- The escape by number holds a backslash, a letter and four digits.
    have hhigh := isControl_hexDigit (show c.toNat / 16 < 16 by omega)
    have hlow := isControl_hexDigit (show c.toNat % 16 < 16 by omega)
    simp only [unbroken_cons, hhigh, hlow]
    simp [Unbroken, Literal.isControl]
  · next hcontrol =>
    intro d hd
    rw [List.mem_singleton.1 hd]
    simpa using hcontrol

theorem unbroken_literal (text : List Char) : Unbroken (Literal.render text) := by
  have hflat : Unbroken (text.flatMap Literal.escape) := by
    intro c hc
    obtain ⟨d, -, hd⟩ := List.mem_flatMap.1 hc
    exact unbroken_escape d c hd
  rw [Literal.render, Literal.body, unbroken_cons, unbroken_append]
  exact ⟨by decide, hflat, by simp [Unbroken, Literal.isControl]⟩

theorem unbroken_signed (n : Int) : Unbroken (Text.Decimal.signed n) := by
  have hdigit : ∀ c, Text.Decimal.isDigit c = true → Literal.isControl c = false := by
    intro c hc
    simp only [Text.Decimal.isDigit, Bool.and_eq_true, decide_eq_true_eq] at hc
    have h0 : '0'.toNat ≤ c.toNat := hc.1
    simp only [Literal.isControl, decide_eq_false_iff_not]
    have : '0'.toNat = 48 := rfl
    omega
  cases n with
  | ofNat n => exact fun c hc => hdigit c (Text.Decimal.isDigit_of_mem_digits hc)
  | negSucc n =>
    rw [Text.Decimal.signed, unbroken_cons]
    exact ⟨by decide, fun c hc => hdigit c (Text.Decimal.isDigit_of_mem_digits hc)⟩

mutual

/-- A printed value stands on one line. -/
theorem Value.unbroken_render {depth : Nat} {v : Value} (h : v.Printable depth) :
    Unbroken v.render := by
  match v, h with
  | .null, _ => simp [Value.render, Unbroken, Literal.isControl]
  | .bool true, _ => simp [Value.render, Unbroken, Literal.isControl]
  | .bool false, _ => simp [Value.render, Unbroken, Literal.isControl]
  | .number (.integer n), _ => exact unbroken_signed n
  | .number (.real x), h => simp [Value.Printable] at h
  | .string s, _ => exact unbroken_literal s.toList
  | .array items, h =>
    cases depth with
    | zero => simp [Value.Printable] at h
    | succ depth =>
      rw [Value.Printable] at h
      match items, h with
      | [], _ => simp [Value.render, Unbroken, Literal.isControl]
      | v :: vs, ⟨hv, hvs⟩ =>
        rw [Value.render, unbroken_cons, unbroken_append]
        exact ⟨by decide, Value.unbroken_render hv, Value.unbroken_renderItems hvs⟩
  | .object members, h =>
    cases depth with
    | zero => simp [Value.Printable] at h
    | succ depth =>
      rw [Value.Printable] at h
      match members, h with
      | [], _ => simp [Value.render, Unbroken, Literal.isControl]
      | (k, v) :: ms, ⟨hv, hms⟩ =>
        rw [Value.render, unbroken_cons, unbroken_append, unbroken_cons, unbroken_append]
        exact ⟨by decide, unbroken_literal _, by decide, Value.unbroken_render hv,
          Value.unbroken_renderMembers hms⟩

theorem Value.unbroken_renderItems {depth : Nat} {vs : List Value}
    (h : Value.PrintableItems depth vs) : Unbroken (Value.renderItems vs) := by
  match vs, h with
  | [], _ => simp [Value.renderItems, Unbroken, Literal.isControl]
  | v :: vs, ⟨hv, hvs⟩ =>
    rw [Value.renderItems, unbroken_cons, unbroken_append]
    exact ⟨by decide, Value.unbroken_render hv, Value.unbroken_renderItems hvs⟩

theorem Value.unbroken_renderMembers {depth : Nat} {ms : List (String × Value)}
    (h : Value.PrintableMembers depth ms) : Unbroken (Value.renderMembers ms) := by
  match ms, h with
  | [], _ => simp [Value.renderMembers, Unbroken, Literal.isControl]
  | (k, v) :: ms, ⟨hv, hms⟩ =>
    rw [Value.renderMembers, unbroken_cons, unbroken_append, unbroken_cons, unbroken_append]
    exact ⟨by decide, unbroken_literal _, by decide, Value.unbroken_render hv,
      Value.unbroken_renderMembers hms⟩

end

end ShardBridge.Json
