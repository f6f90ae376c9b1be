/-
  ShardBridge.Text.Natural

  Bounded natural numbers in text, as people write them: digits, and a plus
  sign before them if they like. The first thing wrong from the left is what is
  wrong.
-/
import ShardBridge.Text.Decimal

namespace ShardBridge.Text.Natural

/-- Why a text is no number. -/
inductive Fault where
  | empty
  | invalidDigit
  /-- The number is past the bound. -/
  | tooLarge
  deriving DecidableEq, Repr

def Fault.message : Fault → String
  | .empty => "cannot parse integer from empty string"
  | .invalidDigit => "invalid digit found in string"
  | .tooLarge => "number too large to fit in target type"

/-- Goes on with a number, digit by digit. -/
def readDigits (greatest : Nat) (n : Nat) : List Char → Except Fault Nat
  | [] => .ok n
  | c :: rest =>
    if Decimal.isDigit c then
      if n * 10 + Decimal.digitValue c ≤ greatest then
        readDigits greatest (n * 10 + Decimal.digitValue c) rest
      else .error .tooLarge
    else .error .invalidDigit

/-- Reads a number up to a bound. A sign alone is no digit. -/
def read (greatest : Nat) : List Char → Except Fault Nat
  | [] => .error .empty
  | ['+'] => .error .invalidDigit
  | '+' :: rest => readDigits greatest 0 rest
  | text => readDigits greatest 0 text

end ShardBridge.Text.Natural
