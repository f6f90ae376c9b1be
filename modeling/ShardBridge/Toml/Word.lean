/-
  ShardBridge.Toml.Word

  The values of TOML that are single words: truth values, whole numbers,
  numbers with a fraction, dates and times. A word is taken as long as it goes
  and then has to be a value as a whole.
-/
import ShardBridge.Json.Literal
import ShardBridge.Number.Binary64
import ShardBridge.Text.Decimal

namespace ShardBridge.Toml

open ShardBridge.Text.Decimal (isDigit digitValue value)

/-- What a word stands for. Of numbers with a fraction, and of dates and times, nothing but their
    form is kept. -/
inductive Word where
  | boolean (b : Bool)
  | integer (n : Int)
  | real
  | date
  | moment
  deriving DecidableEq, Repr

namespace Word

/-! ## Digits -/

/-- The digits of a run; a single underscore may stand between two of them. -/
def ungroup (digit : Char → Bool) : List Char → Option (List Char)
  | [] => none
  | [c] => if digit c then some [c] else none
  | c :: '_' :: rest => if digit c then (ungroup digit rest).map (c :: ·) else none
  | c :: rest => if digit c then (ungroup digit rest).map (c :: ·) else none

/-- The digits have a zero before other digits. -/
def hasLeadingZero : List Char → Bool
  | '0' :: _ :: _ => true
  | _ => false

/-- The digits of a decimal number: no zero before other digits. -/
def decimalDigits (text : List Char) : Option (List Char) :=
  (ungroup isDigit text).bind fun ds => if hasLeadingZero ds then none else some ds

/-! ## Whole numbers -/

/-- The number, if it fits into 64 bits with a sign. -/
def ranged (n : Int) : Option Int :=
  if -9223372036854775808 ≤ n && n ≤ 9223372036854775807 then some n else none

/-- The number that digits denote in a base. -/
def inBase (base : Nat) (text : List Char) : Option Int :=
  let digit (c : Char) : Bool := (Json.Literal.hexValue c).any (· < base)
  (ungroup digit text).bind fun ds =>
    ranged (ds.foldl (fun n c => n * base + (Json.Literal.hexValue c).getD 0) 0 : Nat)

/-- A sign, if there is one, and what follows it. -/
def splitSign : List Char → Bool × List Char
  | '+' :: rest => (false, rest)
  | '-' :: rest => (true, rest)
  | text => (false, text)

/-- A whole number. -/
def integer? : List Char → Option Int
  | '0' :: 'x' :: rest => inBase 16 rest
  | '0' :: 'o' :: rest => inBase 8 rest
  | '0' :: 'b' :: rest => inBase 2 rest
  | text =>
    let (negative, rest) := splitSign text
    (decimalDigits rest).bind fun ds =>
      ranged (if negative then -(value ds : Int) else (value ds : Int))

/-! ## Numbers with a fraction -/

/-- The decimal `significand * 10 ^ exponent` is past the greatest magnitude. The number of its
    places before the point settles all but the nearest cases. -/
def isPastGreatest (significand : Nat) (exponent : Int) : Bool :=
  let places : Int := (Text.Decimal.digits significand).length + exponent
  if significand = 0 || places ≤ 308 then false
  else if 310 < places then true
  else if 0 ≤ exponent then
    (Number.Magnitude.nearest (significand * Nat.pow 10 exponent.toNat) 1).isNone
  else (Number.Magnitude.nearest significand (Nat.pow 10 (-exponent).toNat)).isNone

/-- The exponent after its letter. -/
def exponent? (text : List Char) : Option Int :=
  let (negative, rest) := splitSign text
  (ungroup isDigit rest).map fun ds => if negative then -(value ds : Int) else (value ds : Int)

/-- The fraction and the exponent after a whole part; at least one of them is there. -/
def tail? : List Char → Option (List Char × Int)
  | '.' :: rest =>
    let fraction := rest.takeWhile fun c => c ≠ 'e' && c ≠ 'E'
    (ungroup isDigit fraction).bind fun ds =>
      match rest.dropWhile fun c => c ≠ 'e' && c ≠ 'E' with
      | [] => some (ds, 0)
      | _ :: rest' => (exponent? rest').map fun e => (ds, e)
  | _ :: rest => (exponent? rest).map fun e => ([], e)
  | [] => none

/-- The word is a number with a fraction or an exponent. Its magnitude must not be past the
    greatest one, unless it is negative. -/
def isReal (text : List Char) : Bool :=
  let (negative, rest) := splitSign text
  if rest = ['i', 'n', 'f'] || rest = ['n', 'a', 'n'] then true
  else
    let isPart (c : Char) : Bool := isDigit c || c = '_'
    match decimalDigits (rest.takeWhile isPart), rest.dropWhile isPart with
    | some whole, c :: rest' =>
      if c = '.' || c = 'e' || c = 'E' then
        match tail? (c :: rest') with
        | none => false
        | some (fraction, e) =>
          negative || !isPastGreatest (value (whole ++ fraction)) (e - fraction.length)
      else false
    | _, _ => false

/-! ## Dates and times -/

/-- A number of two digits. -/
def pair? (a b : Char) : Option Nat :=
  if isDigit a && isDigit b then some (digitValue a * 10 + digitValue b) else none

/-- The year has a leap day. -/
def isLeap (year : Nat) : Bool := year % 4 = 0 && (year % 100 ≠ 0 || year % 400 = 0)

/-- The number of days of a month. -/
def daysIn (year month : Nat) : Nat :=
  if month = 2 then (if isLeap year then 29 else 28)
  else if month = 4 || month = 6 || month = 9 || month = 11 then 30
  else 31

def isDay (year month day : Nat) : Bool :=
  1 ≤ month && month ≤ 12 && 1 ≤ day && day ≤ daysIn year month

def afterDate : List Char → Option (List Char)
  | a :: b :: c :: d :: '-' :: e :: f :: '-' :: g :: h :: rest => do
    let century ← pair? a b
    let year ← pair? c d
    let month ← pair? e f
    let day ← pair? g h
    if isDay (century * 100 + year) month day then some rest else none
  | _ => none

/-- The input after the fraction of a second, if there is one. -/
def afterFraction : List Char → Option (List Char)
  | '.' :: c :: rest => if isDigit c then some (rest.dropWhile isDigit) else none
  | '.' :: [] => none
  | rest => some rest

/-- The input after a time; a minute can have a leap second. -/
def afterTime : List Char → Option (List Char)
  | a :: b :: ':' :: c :: d :: ':' :: e :: f :: rest => do
    let hour ← pair? a b
    let minute ← pair? c d
    let second ← pair? e f
    if hour ≤ 23 && minute ≤ 59 && second ≤ 60 then afterFraction rest else none
  | _ => none

/-- The word is a distance from universal time. -/
def isZone : List Char → Bool
  | [c] => c = 'Z' || c = 'z'
  | [sign, a, b, ':', c, d] =>
    (sign = '+' || sign = '-') && (pair? a b).any (· ≤ 23) && (pair? c d).any (· ≤ 59)
  | _ => false

/-- The word is a time, with or without a distance from universal time. -/
def isZonedTime (text : List Char) : Bool :=
  match afterTime text with
  | some [] => true
  | some rest => isZone rest
  | none => false

/-- A date, a time, or both with a letter between them. -/
def moment? (text : List Char) : Option Word :=
  match afterDate text with
  | some [] => some .date
  | some (c :: rest) =>
    if (c = 'T' || c = 't') && isZonedTime rest then some .moment else none
  | none => if afterTime text = some [] then some .moment else none

/-! ## Words -/

/-- The character can be part of a word. -/
def isPart (c : Char) : Bool :=
  c.isAlphanum || c = '_' || c = '+' || c = '-' || c = '.' || c = ':'

/-- What a word stands for. -/
def ofText (text : List Char) : Option Word :=
  if text = ['t', 'r', 'u', 'e'] then some (.boolean true)
  else if text = ['f', 'a', 'l', 's', 'e'] then some (.boolean false)
  else
    match integer? text with
    | some n => some (.integer n)
    | none => if isReal text then some .real else moment? text

/-- Reads a word. After a date, a blank and a digit the time of the day follows. -/
def read (input : List Char) : Option (Word × List Char) :=
  let rest := input.dropWhile isPart
  match ofText (input.takeWhile isPart) with
  | none => none
  | some .date =>
    match rest with
    | ' ' :: c :: more =>
      if isDigit c then
        let time := (c :: more).takeWhile isPart
        if isZonedTime time then some (.moment, (c :: more).dropWhile isPart) else none
      else some (.date, rest)
    | _ => some (.date, rest)
  | some w => some (w, rest)

end Word

end ShardBridge.Toml
