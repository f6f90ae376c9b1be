/-
  ShardBridge.Number.Binary64

  Finite binary floating point numbers of 64 bits, as exact values: a sign and
  a magnitude `mantissa * 2 ^ exponent`. Every operation computes the exact
  result as a quotient of natural numbers and rounds it once, to the nearest
  magnitude, a tie going to the even mantissa.
-/

namespace ShardBridge.Number

/-- A magnitude. In rounded results the mantissa is below `2 ^ 53`, the exponent is at least
    `-1074`, and a mantissa below `2 ^ 52` comes with the least exponent. -/
structure Magnitude where
  mantissa : Nat
  exponent : Int
  deriving DecidableEq, Repr

/-- A signed number; zero has both signs. -/
structure Binary64 where
  negative : Bool
  magnitude : Magnitude
  deriving DecidableEq, Repr

namespace Magnitude

def leastExponent : Int := -1074

def greatestExponent : Int := 971

def zero : Magnitude := ⟨0, leastExponent⟩

def isZero (m : Magnitude) : Bool := m.mantissa = 0

/-- A quotient scaled by a power of two, as a numerator and a denominator: dividing by
    `2 ^ e`. -/
def scaled (num den : Nat) (e : Int) : Nat × Nat :=
  -- `Nat.pow` and not `^`, which stands for different terms where other instances are known.
  if 0 ≤ e then (num, den * Nat.pow 2 e.toNat) else (num * Nat.pow 2 (-e).toNat, den)

/-- The nearest natural number to a quotient, a tie going to the even one. -/
def roundQuotient (num den : Nat) : Nat :=
  let q := num / den
  let r := num % den
  if 2 * r < den then q
  else if den < 2 * r then q + 1
  else if q % 2 = 0 then q else q + 1

/-- The exponent at which the whole part of a quotient has 53 binary digits, but not below the
    least exponent. -/
def fittingExponent (num den : Nat) : Int :=
  let guess : Int := Int.ofNat num.log2 - Int.ofNat den.log2 - 52
  let (n, d) := scaled num den guess
  max leastExponent (if n / d < Nat.pow 2 52 then guess - 1 else guess)

/-- The magnitude nearest to a quotient; none when it is past the greatest one. -/
def nearest (num den : Nat) : Option Magnitude :=
  if num = 0 then some zero
  else
    let e := fittingExponent num den
    let (n, d) := scaled num den e
    let m := roundQuotient n d
    let rounded : Magnitude := if m = Nat.pow 2 53 then ⟨Nat.pow 2 52, e + 1⟩ else ⟨m, e⟩
    if greatestExponent < rounded.exponent then none else some rounded

/-- The exact value as a numerator and a denominator. -/
def quotient (m : Magnitude) : Nat × Nat :=
  if 0 ≤ m.exponent then (m.mantissa * Nat.pow 2 m.exponent.toNat, 1)
  else (m.mantissa, Nat.pow 2 (-m.exponent).toNat)

def mul (a b : Magnitude) : Option Magnitude :=
  let (n, d) := a.quotient
  let (n', d') := b.quotient
  nearest (n * n') (d * d')

/-- The rounded quotient of a magnitude by one that is not zero. -/
def div (a b : Magnitude) : Option Magnitude :=
  let (n, d) := a.quotient
  let (n', d') := b.quotient
  nearest (n * d') (d * n')

/-- The magnitude nearest to a power of ten up to `10 ^ 308`. -/
def powerOfTen (k : Nat) : Magnitude := (nearest (Nat.pow 10 k) 1).getD zero

/-- The greatest power of ten that is a magnitude. -/
def greatestPowerOfTen : Nat := 308

/-- A whole number times a negative power of ten: the number is rounded first and then divided,
    by the greatest power as long as the power asked for is past it. -/
def shiftedDown (m : Magnitude) (k : Nat) : Magnitude :=
  if k ≤ greatestPowerOfTen then (m.div (powerOfTen k)).getD zero
  else if m.isZero then m
  else shiftedDown ((m.div (powerOfTen greatestPowerOfTen)).getD zero) (k - greatestPowerOfTen)
  termination_by k
  decreasing_by simp only [greatestPowerOfTen] at *; omega

/-- A whole number times a power of ten; none when it is past the greatest magnitude. The number
    is rounded first, so the result can differ from the nearest one in the last place. -/
def ofDecimal (significand : Nat) (exponent : Int) : Option Magnitude :=
  match nearest significand 1 with
  | none => none
  | some m =>
    if exponent < 0 then some (m.shiftedDown (-exponent).toNat)
    else if exponent.toNat ≤ greatestPowerOfTen then m.mul (powerOfTen exponent.toNat)
    else if m.isZero then some m
    else none

end Magnitude

end ShardBridge.Number
