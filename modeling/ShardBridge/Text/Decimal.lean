/-
  ShardBridge.Text.Decimal

  Numbers in decimal: the digits of a number, most significant first and
  without leading zeros, and the number that a run of digits denotes. Reading
  what was written gives the number back.
-/

namespace ShardBridge.Text.Decimal

/-- The digit of a number below ten. -/
def digit (n : Nat) : Char := Char.ofNat ('0'.toNat + n)

/-- The character is an ASCII digit. -/
def isDigit (c : Char) : Bool := '0' ≤ c && c ≤ '9'

/-- The number that an ASCII digit stands for. -/
def digitValue (c : Char) : Nat := c.toNat - '0'.toNat

/-- The digits of a number. -/
def digits (n : Nat) : List Char :=
  if n < 10 then [digit n] else digits (n / 10) ++ [digit (n % 10)]

/-- The number that a run of digits denotes. -/
def value (text : List Char) : Nat := text.foldl (fun n c => n * 10 + digitValue c) 0

/-- The digits of an integer, with a minus sign before a negative one. -/
def signed : Int → List Char
  | .ofNat n => digits n
  | .negSucc n => '-' :: digits (n + 1)

/-- The digits of a number, with zeros before them up to a least count. -/
def padded (count : Nat) (n : Nat) : List Char :=
  let ds := digits n
  List.replicate (count - ds.length) '0' ++ ds

/-! ## Laws -/

theorem value_append_singleton (text : List Char) (c : Char) :
    value (text ++ [c]) = value text * 10 + digitValue c := by
  simp [value]

theorem digitValue_digit {n : Nat} (h : n < 10) : digitValue (digit n) = n := by
  have key : ∀ m, m < 10 → digitValue (digit m) = m := by decide
  exact key n h

theorem digits_ne_nil (n : Nat) : digits n ≠ [] := by
  rw [digits]
  split <;> simp

theorem isDigit_digit {n : Nat} (h : n < 10) : isDigit (digit n) = true := by
  have key : ∀ m, m < 10 → isDigit (digit m) = true := by decide
  exact key n h

theorem isDigit_of_mem_digits {n : Nat} {c : Char} (h : c ∈ digits n) : isDigit c = true := by
  induction n using Nat.strongRecOn with
  | _ n ih =>
    rw [digits] at h
    split at h
    · next hn =>
      rw [List.mem_singleton.1 h]
      exact isDigit_digit hn
    · next hn =>
      rcases List.mem_append.1 h with h | h
      · exact ih (n / 10) (by omega) h
      · rw [List.mem_singleton.1 h]
        exact isDigit_digit (by omega)

theorem value_digits (n : Nat) : value (digits n) = n := by
  induction n using Nat.strongRecOn with
  | _ n ih =>
    rw [digits]
    split
    · next h => simp [value, digitValue_digit h]
    · next h =>
      rw [value_append_singleton, ih (n / 10) (by omega), digitValue_digit (by omega)]
      omega

end ShardBridge.Text.Decimal
