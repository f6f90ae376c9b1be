/-
  ShardBridge.Json.Numeral

  Number literals: their form, and the number that a literal denotes. The form
  is kept as written, because whether a literal is a whole number, and whether
  it is in range, is asked only where its value is wanted.
-/
import ShardBridge.Json.Error

namespace ShardBridge.Json

/-- A number literal as written. -/
structure Numeral where
  negative : Bool
  whole : List Char
  /-- The digits after a point; none of them when there is no point. -/
  fraction : List Char
  /-- The digits of an exponent, and whether a minus sign stands before them. -/
  exponent : Option (Bool × List Char)
  deriving DecidableEq, Repr

namespace Numeral

open Text.Decimal (isDigit digitValue value)

/-! ## Form -/

/-- How a literal fails: by a character, or by the end of the text. -/
inductive Flaw where
  | malformed
  | cut
  deriving DecidableEq, Repr

/-- The flaw of a literal that lacks a digit before this rest of the text. -/
def lacking (rest : List Char) : Flaw := if rest = [] then .cut else .malformed

/-- A run of at least one digit. -/
def scanDigits (text : List Char) : Except Flaw (List Char × List Char) :=
  let ds := text.takeWhile isDigit
  let rest := text.dropWhile isDigit
  if ds = [] then .error (lacking rest) else .ok (ds, rest)

/-- The digits before the point: no zero before another digit. -/
def scanWhole : List Char → Except Flaw (List Char × List Char)
  | '0' :: rest =>
    match rest with
    | c :: _ => if isDigit c then .error .malformed else .ok (['0'], rest)
    | [] => .ok (['0'], [])
  | text => scanDigits text

/-- The digits after a point, if there is one. -/
def scanFraction : List Char → Except Flaw (List Char × List Char)
  | '.' :: rest => scanDigits rest
  | text => .ok ([], text)

def scanSign : List Char → Bool × List Char
  | '+' :: rest => (false, rest)
  | '-' :: rest => (true, rest)
  | text => (false, text)

/-- The text begins with the letter of an exponent. -/
def startsExponent : List Char → Bool
  | c :: _ => c = 'e' || c = 'E'
  | [] => false

/-- An exponent, if there is one. -/
def scanExponent (text : List Char) : Except Flaw (Option (Bool × List Char) × List Char) :=
  if startsExponent text then
    let (negative, rest) := scanSign (text.drop 1)
    match scanDigits rest with
    | .ok (ds, rest') => .ok (some (negative, ds), rest')
    | .error flaw => .error flaw
  else .ok (none, text)

/-- A literal, its sign already taken. -/
def scanUnsigned (negative : Bool) (text : List Char) : Except Flaw (Numeral × List Char) :=
  match scanWhole text with
  | .error flaw => .error flaw
  | .ok (whole, rest) =>
    match scanFraction rest with
    | .error flaw => .error flaw
    | .ok (fraction, rest') =>
      match scanExponent rest' with
      | .error flaw => .error flaw
      | .ok (exponent, rest'') => .ok (⟨negative, whole, fraction, exponent⟩, rest'')

/-- A literal and the text after it. -/
def scan : List Char → Except Flaw (Numeral × List Char)
  | '-' :: rest => scanUnsigned true rest
  | text => scanUnsigned false text

/-! ## Value -/

/-- The greatest whole number that keeps its value. -/
def greatestWhole : Nat := UInt64.size - 1

/-- The greatest whole number that keeps its value with a minus sign before it. -/
def greatestNegated : Nat := 9223372036854775808

/-- Adds digits to a significand for as long as it stays within `greatestWhole`; also the digits
    that are left. -/
def addDigits (significand : Nat) : List Char → Nat × List Char
  | [] => (significand, [])
  | d :: rest =>
    let next := significand * 10 + digitValue d
    if next ≤ greatestWhole then addDigits next rest else (significand, d :: rest)

/-- A signed magnitude, or the fault that there is none. -/
def realOf (negative : Bool) : Option Number.Magnitude → Except Fault Number
  | some m => .ok (.real ⟨negative, m⟩)
  | none => .error .numberOutOfRange

/-- The greatest exponent that is read as a number. -/
def greatestExponent : Nat := 2147483647

/-- The number that a literal denotes. -/
def number (l : Numeral) : Except Fault Number :=
  let (wholePart, dropped) := addDigits 0 l.whole
  let (significand, ignored) := addDigits wholePart l.fraction
  let shift : Int := Int.ofNat dropped.length - Int.ofNat (l.fraction.length - ignored.length)
  match l.exponent with
  | some (down, ds) =>
    let e := value ds
    if greatestExponent < e then
      if significand ≠ 0 && !down then .error .numberOutOfRange
      else .ok (.real ⟨l.negative, .zero⟩)
    else
      realOf l.negative
        (Number.Magnitude.ofDecimal significand (if down then shift - e else shift + e))
  | none =>
    if l.fraction = [] && dropped = [] then
      if !l.negative then .ok (.integer significand)
      else if significand = 0 || greatestNegated < significand then
        realOf true (Number.Magnitude.ofDecimal significand 0)
      else .ok (.integer (-significand))
    else realOf l.negative (Number.Magnitude.ofDecimal significand shift)

end Numeral

end ShardBridge.Json
