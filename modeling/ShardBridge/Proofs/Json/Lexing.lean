/-
  ShardBridge.Proofs.Json.Lexing

  Strings and numbers are scanned as they are spelled: a literal that was
  spelled is taken whole, and what is taken was spelled.  The number of a
  literal is a whole number in a few cases only (`Numeral.number_eq_integer`).
-/
import ShardBridge.Proofs.Json.Spelling
import ShardBridge.Proofs.Text.Numerals

namespace ShardBridge.Json

/-! ## Strings -/

namespace Literal

theorem shortEscape_u : shortEscape 'u' = none := by decide

theorem decode_plain {c : Char} {rest : List Char} (hquote : c ≠ '"') (hslash : c ≠ '\\')
    (hcontrol : isControl c = false) : decode (c :: rest) = prepend c (decode rest) := by
  rw [decode.eq_7] <;> simp_all

theorem decode_letter {e c : Char} {rest : List Char} (he : shortEscape e = some c) :
    decode ('\\' :: e :: rest) = prepend c (decode rest) := by
  -- The arm for escapes by number comes first, and must not apply.
  have hu : e ≠ 'u' := by
    rintro rfl
    simp [shortEscape_u] at he
  rw [decode.eq_6] <;> simp_all

theorem pass_plain {c : Char} {rest : List Char} (hquote : c ≠ '"') (hslash : c ≠ '\\')
    (hcontrol : isControl c = false) : pass (c :: rest) = pass rest := by
  rw [pass.eq_7] <;> simp_all

theorem pass_letter {e c : Char} {rest : List Char} (he : shortEscape e = some c) :
    pass ('\\' :: e :: rest) = pass rest := by
  have hu : e ≠ 'u' := by
    rintro rfl
    simp [shortEscape_u] at he
  rw [pass.eq_6] <;> simp_all

/-- No number is both halves of a pair. -/
theorem isLow_of_isHigh {n : Nat} (h : isHigh n = true) : isLow n = false := by
  simp only [isHigh, isLow, Bool.and_eq_true, decide_eq_true_eq, Bool.and_eq_false_iff,
    decide_eq_false_iff_not] at h ⊢
  omega

/-- What is spelled is decoded. -/
theorem Spelled.decode_eq {body text rest : List Char} (h : Spelled body text rest) :
    decode body = .ok (text, rest) := by
  induction h with
  | close => rfl
  | plain hquote hslash hcontrol _ ih => rw [decode_plain hquote hslash hcontrol, ih]; rfl
  | letter he _ ih => rw [decode_letter he, ih]; rfl
  | unit hn hlow hhigh _ ih => simp [decode.eq_3, hn, hlow, hhigh, ih, prepend]
  | pair hn hhigh hm hlow _ ih =>
    -- A first half is never taken for a second one.
    have hlow' := isLow_of_isHigh hhigh
    simp [decode.eq_3, hn, hhigh, hlow', hm, hlow, ih, prepend]

/-- What is spelled is passed over. -/
theorem Spelled.pass_eq {body text rest : List Char} (h : Spelled body text rest) :
    pass body = .ok rest := by
  induction h with
  | close => rfl
  | plain hquote hslash hcontrol _ ih => rw [pass_plain hquote hslash hcontrol, ih]
  | letter he _ ih => rw [pass_letter he, ih]
  | unit hn _ _ _ ih => simp [pass.eq_3, hn, ih]
  | pair hn _ hm _ _ ih => simp [pass.eq_3, hn, hm, ih]

/-- A spelled literal is scanned whole. -/
theorem Spelled.scan_eq {body text rest : List Char} (h : Spelled body text rest) :
    scan body = (whole text, rest) := by
  simp [scan, h.decode_eq, h.pass_eq, whole, Except.map]

theorem prepend_eq_ok {c : Char} {r : Except Fault (List Char × List Char)}
    {text rest : List Char} (h : prepend c r = .ok (text, rest)) :
    ∃ text', text = c :: text' ∧ r = .ok (text', rest) := by
  cases r with
  | error f => simp [prepend] at h
  | ok p =>
    simp only [prepend, Except.ok.injEq, Prod.mk.injEq] at h
    obtain ⟨rfl, rfl⟩ := h
    exact ⟨p.1, rfl, rfl⟩

/-- What is decoded was spelled. -/
theorem spelled_of_decode {body text rest : List Char} (h : decode body = .ok (text, rest)) :
    Spelled body text rest := by
  -- Of all the arms of the decoder five succeed, one for each way of spelling.
  fun_induction decode body generalizing text rest with
  | case2 rest =>
    simp only [Except.ok.injEq, Prod.mk.injEq] at h
    obtain ⟨rfl, rfl⟩ := h
    exact .close
  | case8 a b c d n hn hlow hhigh a' b' c' d' rest' m hm hlow' ih =>
    obtain ⟨text', rfl, hr⟩ := prepend_eq_ok h
    exact .pair hn hhigh hm hlow' (ih hr)
  | case12 a b c d rest n hn hlow hhigh ih =>
    obtain ⟨text', rfl, hr⟩ := prepend_eq_ok h
    exact .unit hn (by simpa using hlow) (by simpa using hhigh) (ih hr)
  | case15 e rest _ _ c he ih =>
    obtain ⟨text', rfl, hr⟩ := prepend_eq_ok h
    exact .letter he (ih hr)
  | case18 c after hquote _ _ hend hslash hcontrol ih =>
    obtain ⟨text', rfl, hr⟩ := prepend_eq_ok h
    refine .plain hquote ?_ (by simpa using hcontrol) (ih hr)
    rintro rfl
    cases after with
    | nil => exact hend rfl rfl
    | cons e after => exact hslash e after rfl rfl
  | _ => simp at h

/-- A literal that can be decoded was spelled. -/
theorem spelled_of_scan {body text rest : List Char} {l : Literal}
    (hscan : scan body = (l, rest)) (htext : l.text = .ok text) :
    l = whole text ∧ Spelled body text rest := by
  cases hd : decode body with
  | error f =>
    -- A literal has a text only if it was decoded.
    have hl : (scan body).1.text = .error f := by
      rw [scan, hd]
      cases pass body <;> rfl
    rw [hscan, htext] at hl
    cases hl
  | ok p =>
    have hs : Spelled body p.1 p.2 := spelled_of_decode hd
    rw [hs.scan_eq] at hscan
    obtain ⟨rfl, rfl⟩ := Prod.mk.inj hscan
    simp only [whole, Except.ok.injEq] at htext
    exact ⟨by rw [htext], htext ▸ hs⟩

end Literal

/-! ## Numbers -/

namespace Numeral

open Text.Decimal (isDigit)

/-- The text does not go on with a digit. -/
def NoDigit (rest : List Char) : Prop := ∀ c ∈ rest.head?, isDigit c = false

/-- The text does not go on with anything that a number could take. -/
def Delimits (rest : List Char) : Prop :=
  ∀ c ∈ rest.head?, isDigit c = false ∧ c ≠ '.' ∧ c ≠ 'e' ∧ c ≠ 'E'

theorem Delimits.noDigit {rest : List Char} (h : Delimits rest) : NoDigit rest :=
  fun c hc => (h c hc).1

/-- A run of digits is taken up to the first character that is none. -/
theorem scanDigits_append {ds rest : List Char} (h : Digits ds) (hrest : NoDigit rest) :
    scanDigits (ds ++ rest) = .ok (ds, rest) := by
  obtain ⟨hne, hds⟩ := h
  -- Past the run there is no digit, so it ends where `rest` begins.
  have htake : rest.takeWhile isDigit = [] := by
    cases rest with
    | nil => rfl
    | cons c rest => simp [hrest c rfl]
  have hdrop : rest.dropWhile isDigit = rest := by
    cases rest with
    | nil => rfl
    | cons c rest => simp [hrest c rfl]
  simp only [scanDigits, List.takeWhile_append_of_pos hds, List.dropWhile_append_of_pos hds,
    htake, hdrop, List.append_nil, if_neg hne]

theorem scanWhole_append {ds rest : List Char} (h : IsWhole ds) (hrest : NoDigit rest) :
    scanWhole (ds ++ rest) = .ok (ds, rest) := by
  rcases h with rfl | ⟨hds, hzero⟩
  · -- A zero stands alone, and what follows it is no digit.
    cases rest with
    | nil => rfl
    | cons c rest => simp [scanWhole, hrest c rfl]
  · cases ds with
    | nil => exact absurd rfl hds.1
    | cons d ds =>
      rw [scanWhole.eq_def]
      split
      · next heq => simp_all
      · exact scanDigits_append hds hrest

theorem scanFraction_append {fraction ds rest : List Char} (h : FractionSpelled fraction ds)
    (hrest : NoDigit rest) (hpoint : rest.head? ≠ some '.') :
    scanFraction (fraction ++ rest) = .ok (ds, rest) := by
  cases h with
  | absent =>
    rw [List.nil_append, scanFraction.eq_def]
    split
    · simp at hpoint
    · rfl
  | present hds => exact scanDigits_append hds hrest

theorem scanSign_digits {ds rest : List Char} (h : Digits ds) :
    scanSign (ds ++ rest) = (false, ds ++ rest) := by
  obtain ⟨hne, hds⟩ := h
  cases ds with
  | nil => exact absurd rfl hne
  | cons d ds =>
    have hd : isDigit d = true := hds d (List.mem_cons_self ..)
    have hplus : d ≠ '+' := by rintro rfl; exact absurd hd (by decide)
    have hminus : d ≠ '-' := by rintro rfl; exact absurd hd (by decide)
    rw [List.cons_append, scanSign.eq_def]
    split
    · next heq => exact absurd (List.cons.inj heq).1 hplus
    · next heq => exact absurd (List.cons.inj heq).1 hminus
    · rfl

theorem startsExponent_cons {e : Char} {rest : List Char} (h : e = 'e' ∨ e = 'E') :
    startsExponent (e :: rest) = true := by
  rcases h with rfl | rfl <;> rfl

theorem scanExponent_append {exponent rest : List Char} {x : Option (Bool × List Char)}
    (h : ExponentSpelled exponent x) (hrest : Delimits rest) :
    scanExponent (exponent ++ rest) = .ok (x, rest) := by
  cases h with
  | absent =>
    have hstart : startsExponent rest = false := by
      cases rest with
      | nil => rfl
      | cons c rest =>
        obtain ⟨-, -, he, hE⟩ := hrest c rfl
        simp [startsExponent, he, hE]
    simp [scanExponent, hstart]
  | bare he hds =>
    simp [scanExponent, startsExponent_cons he, scanSign_digits hds,
      scanDigits_append hds hrest.noDigit]
  | plus he hds =>
    simp [scanExponent, startsExponent_cons he, scanSign, scanDigits_append hds hrest.noDigit]
  | minus he hds =>
    simp [scanExponent, startsExponent_cons he, scanSign, scanDigits_append hds hrest.noDigit]

theorem noDigit_of_spelled {fraction exponent ds rest : List Char}
    {x : Option (Bool × List Char)} (hf : FractionSpelled fraction ds)
    (hx : ExponentSpelled exponent x) (hrest : Delimits rest) :
    NoDigit (fraction ++ (exponent ++ rest)) := by
  cases hf with
  | present _ => intro c hc; cases hc; decide
  | absent =>
    cases hx with
    | absent => exact hrest.noDigit
    | bare he _ => intro c hc; cases hc; rcases he with rfl | rfl <;> decide
    | plus he _ => intro c hc; cases hc; rcases he with rfl | rfl <;> decide
    | minus he _ => intro c hc; cases hc; rcases he with rfl | rfl <;> decide

theorem noFraction_of_spelled {exponent rest : List Char} {x : Option (Bool × List Char)}
    (hx : ExponentSpelled exponent x) (hrest : Delimits rest) :
    NoDigit (exponent ++ rest) ∧ (exponent ++ rest).head? ≠ some '.' := by
  refine ⟨noDigit_of_spelled .absent hx hrest, ?_⟩
  cases hx with
  | absent => exact fun h => (hrest '.' h).2.1 rfl
  | bare he _ => rcases he with rfl | rfl <;> simp
  | plus he _ => rcases he with rfl | rfl <;> simp
  | minus he _ => rcases he with rfl | rfl <;> simp

/-- A spelled number is scanned whole. -/
theorem Spelled.scan_eq {text rest : List Char} {l : Numeral} (h : l.Spelled text rest)
    (hrest : Delimits rest) : scan text = .ok (l, rest) := by
  obtain ⟨negative, whole, ds, x⟩ := l
  obtain ⟨fraction, exponent, hf, hx, hw, rfl⟩ := h
  simp only at hf hx hw
  have hunsigned : scanUnsigned negative (whole ++ (fraction ++ (exponent ++ rest)))
      = .ok (⟨negative, whole, ds, x⟩, rest) := by
    obtain ⟨hdigit, hpoint⟩ := noFraction_of_spelled hx hrest
    simp [scanUnsigned, scanWhole_append hw (noDigit_of_spelled hf hx hrest),
      scanFraction_append hf hdigit hpoint, scanExponent_append hx hrest]
  -- The sign is read first, and a digit is no sign.
  cases negative with
  | true => simpa [scan] using hunsigned
  | false =>
    obtain ⟨d, tail, rfl⟩ := List.exists_cons_of_ne_nil hw.ne_nil
    have hminus : d ≠ '-' := by
      rintro rfl
      rcases hw with hz | ⟨⟨-, hall⟩, -⟩
      · simp at hz
      · exact absurd (hall '-' (List.mem_cons_self ..)) (by decide)
    rw [scan.eq_def]
    split
    · next heq => simp [hminus] at heq
    · simpa using hunsigned

/-! What is scanned was spelled. -/

theorem digits_of_scanDigits {text ds rest : List Char} (h : scanDigits text = .ok (ds, rest)) :
    Digits ds ∧ text = ds ++ rest := by
  simp only [scanDigits] at h
  split at h
  · simp at h
  · next hne =>
    simp only [Except.ok.injEq, Prod.mk.injEq] at h
    obtain ⟨rfl, rfl⟩ := h
    refine ⟨⟨hne, ?_⟩, (List.takeWhile_append_dropWhile).symm⟩
    exact fun d hd => List.all_eq_true.1 List.all_takeWhile d hd

theorem isWhole_of_scanWhole {text ds rest : List Char} (h : scanWhole text = .ok (ds, rest)) :
    IsWhole ds ∧ text = ds ++ rest := by
  rw [scanWhole.eq_def] at h
  split at h
  · split at h
    · split at h
      · simp at h
      · simp only [Except.ok.injEq, Prod.mk.injEq] at h
        obtain ⟨rfl, rfl⟩ := h
        exact ⟨.inl rfl, rfl⟩
    · simp only [Except.ok.injEq, Prod.mk.injEq] at h
      obtain ⟨rfl, rfl⟩ := h
      exact ⟨.inl rfl, rfl⟩
  · next hzero =>
    obtain ⟨hds, rfl⟩ := digits_of_scanDigits h
    refine ⟨.inr ⟨hds, ?_⟩, rfl⟩
    cases ds with
    | nil => simp
    | cons d ds =>
      intro hd
      simp only [List.head?_cons, Option.some.injEq] at hd
      exact hzero (ds ++ rest) (by rw [hd]; rfl)

theorem fraction_of_scanFraction {text ds rest : List Char}
    (h : scanFraction text = .ok (ds, rest)) :
    ∃ fraction, FractionSpelled fraction ds ∧ text = fraction ++ rest := by
  rw [scanFraction.eq_def] at h
  split at h
  · obtain ⟨hds, rfl⟩ := digits_of_scanDigits h
    exact ⟨_, .present hds, rfl⟩
  · simp only [Except.ok.injEq, Prod.mk.injEq] at h
    obtain ⟨rfl, rfl⟩ := h
    exact ⟨[], .absent, rfl⟩

theorem exponent_of_scanExponent {text rest : List Char} {x : Option (Bool × List Char)}
    (h : scanExponent text = .ok (x, rest)) :
    ∃ exponent, ExponentSpelled exponent x ∧ text = exponent ++ rest := by
  rw [scanExponent] at h
  split at h
  · next hstart =>
    obtain ⟨e, tail, rfl⟩ : ∃ e tail, text = e :: tail := by
      cases text with
      | nil => simp [startsExponent] at hstart
      | cons e tail => exact ⟨e, tail, rfl⟩
    have he : e = 'e' ∨ e = 'E' := by simpa [startsExponent] using hstart
    simp only [List.drop_succ_cons, List.drop_zero] at h
    split at h
    · next ds rest' hds =>
      simp only [Except.ok.injEq, Prod.mk.injEq] at h
      obtain ⟨rfl, rfl⟩ := h
      obtain ⟨hds', heq⟩ := digits_of_scanDigits hds
      -- The sign tells which of the three spellings it was.
      rw [scanSign.eq_def] at heq hds ⊢
      split at heq
      · exact ⟨_, .plus he hds', congrArg (fun tail => e :: '+' :: tail) heq⟩
      · exact ⟨_, .minus he hds', congrArg (fun tail => e :: '-' :: tail) heq⟩
      · exact ⟨_, .bare he hds', congrArg (fun tail => e :: tail) heq⟩
    · simp at h
  · simp only [Except.ok.injEq, Prod.mk.injEq] at h
    obtain ⟨rfl, rfl⟩ := h
    exact ⟨[], .absent, rfl⟩

theorem spelled_of_scanUnsigned {text rest : List Char} {l : Numeral} {negative : Bool}
    (h : scanUnsigned negative text = .ok (l, rest)) :
    l.Spelled ((if negative then ['-'] else []) ++ text) rest := by
  rw [scanUnsigned] at h
  split at h
  · simp at h
  · next whole rest₁ hw =>
    split at h
    · simp at h
    · next fraction rest₂ hf =>
      split at h
      · simp at h
      · next exponent rest₃ hx =>
        simp only [Except.ok.injEq, Prod.mk.injEq] at h
        obtain ⟨rfl, rfl⟩ := h
        obtain ⟨hw', rfl⟩ := isWhole_of_scanWhole hw
        obtain ⟨f, hf', rfl⟩ := fraction_of_scanFraction hf
        obtain ⟨x, hx', rfl⟩ := exponent_of_scanExponent hx
        exact ⟨f, x, hf', hx', hw', by simp⟩

/-- A number that is scanned was spelled. -/
theorem spelled_of_scan {text rest : List Char} {l : Numeral} (h : scan text = .ok (l, rest)) :
    l.Spelled text rest := by
  rw [scan.eq_def] at h
  split at h
  · exact spelled_of_scanUnsigned h
  · exact spelled_of_scanUnsigned h

/-- A number begins with a minus sign or a digit. -/
theorem Spelled.head {text rest : List Char} {l : Numeral} (h : l.Spelled text rest) :
    ∃ c tail, text = c :: tail ∧ (c = '-' ∨ isDigit c = true) := by
  obtain ⟨fraction, exponent, -, -, hw, rfl⟩ := h
  cases hneg : l.negative with
  | true => exact ⟨'-', _, rfl, .inl rfl⟩
  | false =>
    obtain ⟨d, tail, hd⟩ := List.exists_cons_of_ne_nil hw.ne_nil
    refine ⟨d, tail ++ fraction ++ exponent ++ rest, by simp [hd], .inr ?_⟩
    rcases hw with hz | ⟨⟨-, hall⟩, -⟩
    · rw [hd] at hz
      rw [(List.cons.inj hz).1]
      decide
    · exact hall d (by simp [hd])

/-! The value of a number. -/

open Text.Decimal (digitValue value valueAfter le_valueAfter)

/-- Every digit is added exactly when the number stays within bounds. -/
theorem addDigits_all {n m : Nat} {ds : List Char} (hn : n ≤ greatestWhole) :
    addDigits n ds = (m, []) ↔ m = valueAfter n ds ∧ m ≤ greatestWhole := by
  -- More digits never make the number smaller, so the first that is left out settles it.
  induction ds generalizing n with
  | nil =>
    simp only [addDigits, valueAfter, List.foldl_nil, Prod.mk.injEq, and_true]
    constructor
    · rintro rfl
      exact ⟨rfl, hn⟩
    · exact fun h => h.1.symm
  | cons d ds ih =>
    rw [addDigits]
    have hle := le_valueAfter (n * 10 + digitValue d) ds
    simp only [valueAfter, List.foldl_cons] at hle ih ⊢
    split
    · next h => exact ih h
    · next h =>
      constructor
      · intro heq
        simp at heq
      · rintro ⟨rfl, hm⟩
        omega

theorem addDigits_zero {m : Nat} {ds : List Char} :
    addDigits 0 ds = (m, []) ↔ m = value ds ∧ m ≤ greatestWhole := addDigits_all (Nat.zero_le _)

theorem realOf_ne_integer {negative : Bool} {m : Option Number.Magnitude} {n : Int} :
    realOf negative m ≠ .ok (.integer n) := by
  cases m <;> simp [realOf]

/-- The literals of whole numbers: neither point nor exponent, and not a zero with a sign. -/
theorem number_eq_integer {l : Numeral} {n : Int} :
    l.number = .ok (.integer n) ↔
      l.fraction = [] ∧ l.exponent = none ∧ value l.whole ≤ greatestWhole ∧
        (l.negative = false ∧ n = value l.whole ∨
          l.negative = true ∧ 0 < value l.whole ∧ value l.whole ≤ greatestNegated ∧
            n = -(value l.whole : Int)) := by
  obtain ⟨negative, whole, fraction, exponent⟩ := l
  rcases hwhole : addDigits 0 whole with ⟨w, dropped⟩
  rcases hfraction : addDigits w fraction with ⟨s, ignored⟩
  simp only [number, hwhole, hfraction]
  cases exponent with
  | some e =>
    -- With an exponent the number is never whole, however small it is.
    obtain ⟨down, ds⟩ := e
    simp only [reduceCtorEq, false_and, and_false, iff_false]
    split
    · split <;> simp
    · exact realOf_ne_integer
  | none =>
    by_cases hle : value whole ≤ greatestWhole
    · have hall := addDigits_zero.2 ⟨rfl, hle⟩
      rw [hwhole] at hall
      obtain ⟨rfl, rfl⟩ := Prod.mk.inj hall
      by_cases hpoint : fraction = []
      · subst hpoint
        obtain ⟨rfl, -⟩ := Prod.mk.inj hfraction
        cases negative with
        | false => simp [hle, eq_comm]
        | true =>
          -- Zero with a sign, and what lies below the least integer, are floating point numbers.
          by_cases hout : value whole = 0 ∨ greatestNegated < value whole
          · simp only [hout, decide_true, Bool.true_and, ← Bool.decide_or, if_true, Bool.not_true,
              Bool.false_eq_true, if_false, realOf_ne_integer, false_iff]
            rintro ⟨-, -, -, ⟨hsign, -⟩ | ⟨-, hpos, hle, -⟩⟩
            · cases hsign
            · omega
          · simp [hout, hle]
            omega
      · simp [hpoint, realOf_ne_integer]
    · -- Some digit was left out, and what is left is rounded.
      have hdropped : dropped ≠ [] := by
        rintro rfl
        obtain ⟨rfl, hle'⟩ := addDigits_zero.1 hwhole
        exact hle hle'
      simp [hle, hdropped, realOf_ne_integer]

end Numeral

end ShardBridge.Json
