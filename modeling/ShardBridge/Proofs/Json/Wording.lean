/-
  ShardBridge.Proofs.Json.Wording

  How long the words of an error are.  A number is named in a few characters,
  because whole numbers keep to 64 bits and all others are binary numbers with
  short texts; and a type, a field and a list have short names when the words
  of the schema are short (`Vocabulary.Short`).  Only a string of the text, or
  a name of no variant, stands in the wording at its own length
  (`Error.repeats?`): without one the wording of a complaint is short, and with
  one it is not much longer (`Complaint.size_le`, `Complaint.size_le_of_repeats`).
  The place that may stand after the words adds 57 bytes at most, and 38 in the
  first line of a text (`Error.size_message_le`).
-/
import ShardBridge.Proofs.Json.Complaint
import ShardBridge.Proofs.Number.Brevity

namespace ShardBridge.Json

/-! ## Numbers of a text -/

/-- A whole number keeps to 64 bits, and every other number is a computed magnitude. -/
inductive Number.Readable : Number → Prop
  | integer {n : Int} (h : n.natAbs ≤ Numeral.greatestWhole) : Readable (.integer n)
  | real {x : Number.Binary64} (h : x.magnitude.Bounded) : Readable (.real x)

namespace Numeral

theorem addDigits_le {significand : Nat} (h : significand ≤ greatestWhole) (ds : List Char) :
    (addDigits significand ds).1 ≤ greatestWhole := by
  induction ds generalizing significand with
  | nil => exact h
  | cons d ds ih =>
    simp only [addDigits]
    split
    · next hnext => exact ih hnext
    · exact h

theorem readable_realOf {negative : Bool} {o : Option Number.Magnitude} {n : Number}
    (ho : ∀ m ∈ o, m.Bounded) (h : realOf negative o = .ok n) : n.Readable := by
  cases o with
  | none => cases h
  | some m =>
    cases h
    exact .real (ho m rfl)

/-- What a literal denotes is no longer than its type, however long the literal is. -/
theorem readable_of_number {l : Numeral} {n : Number} (h : l.number = .ok n) : n.Readable := by
  have hsignificand := addDigits_le (addDigits_le (Nat.zero_le _) l.whole) l.fraction
  have hdecimal : ∀ significand exponent,
      ∀ m ∈ Number.Magnitude.ofDecimal significand exponent, m.Bounded :=
    fun _ _ _ => Number.Magnitude.bounded_ofDecimal
  simp only [number] at h
  -- Only a literal without exponent and fraction is whole, and not when it negates zero or a number
  -- past the type.
  split at h
  · split at h
    · split at h
      · cases h
      · cases h
        exact .real Number.Magnitude.bounded_zero
    · exact readable_realOf (hdecimal _ _) h
  · split at h
    · split at h
      · cases h
        exact .integer hsignificand
      · split at h
        · exact readable_realOf (hdecimal _ _) h
        · cases h
          refine .integer ?_
          rw [Int.natAbs_neg]
          exact hsignificand
    · exact readable_realOf (hdecimal _ _) h

end Numeral

/-! ## Sizes -/

/-- Fixed words on either side of a text add their own length. -/
theorem size_around {before after : String} {n : Nat}
    (h : before.utf8ByteSize + after.utf8ByteSize = n) (text : String) :
    (before ++ text ++ after).utf8ByteSize = n + text.utf8ByteSize := by
  rw [String.utf8ByteSize_append, String.utf8ByteSize_append]
  omega

/-- And so do fixed words before and between two texts. -/
theorem size_between {before between : String} {n : Nat}
    (h : before.utf8ByteSize + between.utf8ByteSize = n) (first second : String) :
    (before ++ first ++ between ++ second).utf8ByteSize =
      n + first.utf8ByteSize + second.utf8ByteSize := by
  rw [String.utf8ByteSize_append, size_around h]

theorem size_signed {n : Int} (h : n.natAbs ≤ Numeral.greatestWhole) :
    (String.ofList (Text.Decimal.signed n)).utf8ByteSize ≤ 21 := by
  have hlt : n.natAbs < 10 ^ 20 := Nat.lt_of_le_of_lt h (by decide)
  have hlength := Number.length_digits_le (by decide) hlt
  cases n with
  | ofNat n =>
    rw [Text.Decimal.signed, Number.utf8ByteSize_of_plain (Number.isPlain_digits n)]
    exact Nat.le_succ_of_le hlength
  | negSucc n =>
    have hplain : ∀ c ∈ '-' :: Text.Decimal.digits (n + 1), Number.IsPlain c := by
      rw [List.forall_mem_cons]
      exact ⟨.inr (by decide), Number.isPlain_digits _⟩
    rw [Text.Decimal.signed, Number.utf8ByteSize_of_plain hplain, List.length_cons]
    exact Nat.succ_le_succ hlength

/-- The text that an error repeats from the line, as it stands in the wording. -/
def Found.repeats? : Found → Option String
  | .string s => some (Text.Quoted.quote s)
  | _ => none

def Mismatch.repeats? : Mismatch → Option String
  | .wrongType found _ => found.repeats?
  | .wrongValue found _ => found.repeats?
  | .unknownVariant name _ => some name
  | _ => none

def Error.repeats? : Error → Option String
  | .mismatch m => m.repeats?
  | .fault _ => none

theorem Tree.Denotes.size_int {t : Tree} {n : Int} (h : t.Denotes (.int n)) :
    (Value.int n).found.name.utf8ByteSize ≤ 31 := by
  cases h with
  | number h =>
    cases Numeral.readable_of_number h with
    | integer hrange =>
      have hsize := size_signed hrange
      have hwords : "integer `".utf8ByteSize + "`".utf8ByteSize = 10 := by decide
      show ("integer `" ++ _ ++ "`" : String).utf8ByteSize ≤ 31
      rw [size_around hwords]
      omega

theorem Tree.Denotes.size_real {t : Tree} {x : Number.Binary64}
    (h : t.Denotes (.number (.real x))) :
    (Found.number (.real x)).name.utf8ByteSize ≤ 43 := by
  cases h with
  | number h =>
    cases Numeral.readable_of_number h with
    | real hbounded =>
      have hsize := Number.Binary64.utf8ByteSize_text_le hbounded
      have hwords : "floating point `".utf8ByteSize + "`".utf8ByteSize = 17 := by decide
      show ("floating point `" ++ _ ++ "`" : String).utf8ByteSize ≤ 43
      rw [size_around hwords]
      omega

/-- A value that is no string is named in a few words. -/
theorem Tree.Denotes.size_found {t : Tree} {v : Value} (h : t.Denotes v)
    (hnone : v.found.repeats? = none) : v.found.name.utf8ByteSize ≤ 43 := by
  cases v with
  | null => exact (by decide : Found.null.name.utf8ByteSize ≤ 43)
  | bool b =>
    have hbool : ∀ b, (Found.bool b).name.utf8ByteSize ≤ 43 := by decide
    exact hbool b
  | number n =>
    cases n with
    | integer n => exact Nat.le_trans h.size_int (by decide)
    | real x => exact h.size_real
  | string s => cases hnone
  | array vs => exact (by decide : Found.sequence.name.utf8ByteSize ≤ 43)
  | object ms => exact (by decide : Found.map.name.utf8ByteSize ≤ 43)

/-- A value that is a string is named by its label and the string. -/
theorem Found.size_of_repeats {found : Found} {text : String} (h : found.repeats? = some text) :
    found.name.utf8ByteSize = 7 + text.utf8ByteSize := by
  cases found with
  | string s =>
    cases h
    have hlabel : "string ".utf8ByteSize = 7 := by decide
    show ("string " ++ _ : String).utf8ByteSize = _
    rw [String.utf8ByteSize_append, hlabel]
  | _ => cases h

/-! ## Places -/

theorem size_digits_le (n : UInt64) :
    (String.ofList (Text.Decimal.digits n.toNat)).utf8ByteSize ≤ 20 := by
  have hlt : n.toNat < 10 ^ 20 := Nat.lt_trans n.toNat_lt (by decide)
  rw [Number.utf8ByteSize_of_plain (Number.isPlain_digits n.toNat)]
  exact Number.length_digits_le (by decide) hlt

theorem Place.size_eq (p : Place) : p.words.utf8ByteSize =
    17 + (String.ofList (Text.Decimal.digits p.line.toNat)).utf8ByteSize +
      (String.ofList (Text.Decimal.digits p.column.toNat)).utf8ByteSize := by
  show (" at line " ++ _ ++ " column " ++ _ : String).utf8ByteSize = _
  exact size_between (by decide) _ _

theorem Place.size_le (p : Place) : p.words.utf8ByteSize ≤ 57 := by
  have hline := size_digits_le p.line
  have hcolumn := size_digits_le p.column
  rw [p.size_eq]
  omega

/-- The number of the first line has one digit. -/
theorem Place.size_le_of_first {p : Place} (h : p.line = 1) : p.words.utf8ByteSize ≤ 38 := by
  have hone : (String.ofList (Text.Decimal.digits (1 : UInt64).toNat)).utf8ByteSize = 1 := by
    decide +kernel
  have hcolumn := size_digits_le p.column
  rw [p.size_eq, h, hone]
  omega

/-- A wording is as long as its words and the place after them. -/
theorem Error.size_message_le {place : Option Place} {room : Nat}
    (hplace : ∀ p, place = some p → p.words.utf8ByteSize ≤ room) (e : Error) :
    (e.message place).utf8ByteSize ≤ e.words.utf8ByteSize + room := by
  rw [message, String.utf8ByteSize_append]
  refine Nat.add_le_add_left ?_ _
  -- Without a place, nothing follows the words.
  cases place with
  | none => exact Nat.zero_le room
  | some p => exact hplace p rfl

/-! ## Complaints -/

/-- The words are short, and no list of fields has more than ten of them. -/
structure Vocabulary.Short (w : Vocabulary) : Prop where
  types : ∀ name ∈ w.types, name.utf8ByteSize ≤ 13
  fields : ∀ name ∈ w.fields, name.utf8ByteSize ≤ 27
  lengths : ∀ l ∈ w.lengths, l.1 ≤ 10 ∧ l.2.utf8ByteSize ≤ 29

variable {w : Vocabulary} {e : Error}

theorem Fault.size_le (f : Fault) : f.message.utf8ByteSize ≤ 62 := by
  cases f <;> decide

theorem size_wrongType (found : Found) (expected : String) :
    (found.wrongType expected).words.utf8ByteSize =
      25 + found.name.utf8ByteSize + expected.utf8ByteSize := by
  show ("invalid type: " ++ _ ++ ", expected " ++ _ : String).utf8ByteSize = _
  exact size_between (by decide) found.name expected

theorem size_wrongValue (found : Found) (expected : String) :
    (found.wrongValue expected).words.utf8ByteSize =
      26 + found.name.utf8ByteSize + expected.utf8ByteSize := by
  show ("invalid value: " ++ _ ++ ", expected " ++ _ : String).utf8ByteSize = _
  exact size_between (by decide) found.name expected

theorem size_wrongLength {n : Nat} (hn : n < 10) (expected : String) :
    (Mismatch.wrongLength n expected).message.utf8ByteSize = 27 + expected.utf8ByteSize := by
  have hdigit : ∀ n < 10, (toString n).utf8ByteSize = 1 := by decide
  have hwords : "invalid length ".utf8ByteSize + ", expected ".utf8ByteSize = 26 := by decide
  show ("invalid length " ++ toString n ++ ", expected " ++ _ : String).utf8ByteSize = _
  rw [size_between hwords, hdigit n hn]

theorem size_missingField (name : String) :
    (Mismatch.missingField name).message.utf8ByteSize = 16 + name.utf8ByteSize := by
  show ("missing field `" ++ _ ++ "`" : String).utf8ByteSize = _
  exact size_around (by decide) name

theorem size_duplicateField (name : String) :
    (Mismatch.duplicateField name).message.utf8ByteSize = 18 + name.utf8ByteSize := by
  show ("duplicate field `" ++ _ ++ "`" : String).utf8ByteSize = _
  exact size_around (by decide) name

theorem size_unknownVariant (name : String) (variants : List String) :
    (Mismatch.unknownVariant name variants).message.utf8ByteSize =
      20 + name.utf8ByteSize + (expectedVariants variants).utf8ByteSize := by
  show ("unknown variant `" ++ _ ++ "`, " ++ _ : String).utf8ByteSize = _
  exact size_between (by decide) name _

/-- A complaint that repeats no text of the line is short. -/
theorem Complaint.size_le (hw : w.Short) (h : Complaint w e) (hnone : e.repeats? = none) :
    e.words.utf8ByteSize ≤ 81 := by
  cases h with
  | @form f _ =>
    have hsize := f.size_le
    show f.message.utf8ByteSize ≤ 81
    omega
  | wrongType hvalue h =>
    have hfound := hvalue.size_found hnone
    have htype := hw.types _ h
    rw [size_wrongType]
    omega
  | wrongValue hvalue h =>
    have hfound := hvalue.size_int
    have htype := hw.types _ h
    rw [size_wrongValue]
    omega
  | @wrongLength n count expected hn h =>
    obtain ⟨hcount, hname⟩ := hw.lengths (count, expected) h
    dsimp only at hcount hname
    show (Mismatch.wrongLength n expected).message.utf8ByteSize ≤ 81
    rw [size_wrongLength (by omega)]
    omega
  | @missingField name h =>
    have hname := hw.fields _ h
    show (Mismatch.missingField name).message.utf8ByteSize ≤ 81
    rw [size_missingField]
    omega
  | @duplicateField name h =>
    have hname := hw.fields _ h
    show (Mismatch.duplicateField name).message.utf8ByteSize ≤ 81
    rw [size_duplicateField]
    omega
  | unknownVariant _ => cases hnone

/-- Apart from a text of the line that it repeats, a complaint is short, but for the variants that
    it enumerates. -/
theorem Complaint.size_le_of_repeats (hw : w.Short) {room : Nat} (hroom : 25 ≤ room)
    (hvariants : ∀ variants ∈ w.variants, (expectedVariants variants).utf8ByteSize ≤ room)
    (h : Complaint w e) {text : String} (hsome : e.repeats? = some text) :
    e.words.utf8ByteSize ≤ 20 + room + text.utf8ByteSize := by
  cases h with
  | wrongType hvalue h =>
    have hfound := Found.size_of_repeats hsome
    have htype := hw.types _ h
    rw [size_wrongType]
    omega
  | @unknownVariant name variants h =>
    have hlist := hvariants _ h
    obtain rfl : name = text := Option.some.inj hsome
    show (Mismatch.unknownVariant name variants).message.utf8ByteSize ≤ _
    rw [size_unknownVariant]
    omega
  | _ => cases hsome

end ShardBridge.Json
