/-
  ShardBridge.Number.Shortest

  The fewest decimal digits that read back as a given binary number, and the
  way they are laid out: positional from `0.00001` up to sixteen places before
  the point, with an exponent elsewhere, and always with a point or an
  exponent.
-/
import ShardBridge.Number.Binary64
import ShardBridge.Text.Decimal

namespace ShardBridge.Number

/-! ## The digits -/

/-- A decimal: `digits * 10 ^ exponent`. -/
structure Decimal where
  digits : Nat
  exponent : Int
  deriving DecidableEq, Repr

namespace Magnitude

/-- The reals that round to a magnitude, all scaled by one common factor so that they are natural
    numbers: the two ends, the value itself, and whether the ends belong. -/
structure Interval where
  low : Nat
  value : Nat
  high : Nat
  closed : Bool
  /-- The common factor is `numerator / denominator`. -/
  scaleNum : Nat
  scaleDen : Nat

/-- The interval of a magnitude. Below a power of two the magnitudes lie twice as dense. -/
def interval (m : Magnitude) : Interval :=
  let narrow := m.mantissa = Nat.pow 2 52 && leastExponent < m.exponent
  let below := if narrow then 1 else 2
  -- Four units to one place of the mantissa.
  let e := m.exponent - 2
  let up := if 0 ≤ e then Nat.pow 2 e.toNat else 1
  { low := (4 * m.mantissa - below) * up
    value := 4 * m.mantissa * up
    high := (4 * m.mantissa + 2) * up
    closed := m.mantissa % 2 = 0
    scaleNum := 1
    scaleDen := if 0 ≤ e then 1 else Nat.pow 2 (-e).toNat }

/-- The multiple `d` of a power of ten, given as a quotient, lies in the interval. -/
def Interval.contains (i : Interval) (d num den : Nat) : Bool :=
  let x := d * num * i.scaleDen
  if i.closed then i.low * den ≤ x && x ≤ i.high * den
  else i.low * den < x && x < i.high * den

/-- The nearer of the two multiples around the value that lie in the interval; of two that are
    equally near the even one. -/
def Interval.choose (i : Interval) (num den : Nat) : Option Nat :=
  let step := num * i.scaleDen
  let whole := i.value * den / step
  let r := i.value * den % step
  let lowIn := 0 < whole && i.contains whole num den
  let highIn := i.contains (whole + 1) num den
  if lowIn && highIn then
    if 2 * r < step then some whole
    else if step < 2 * r then some (whole + 1)
    else if whole % 2 = 0 then some whole else some (whole + 1)
  else if lowIn then some whole
  else if highIn then some (whole + 1)
  else none

/-- The power of ten with this exponent, as a quotient. -/
def tenTo (k : Int) : Nat × Nat :=
  if 0 ≤ k then (Nat.pow 10 k.toNat, 1) else (1, Nat.pow 10 (-k).toNat)

/-- Tries ever finer grids of decimals, from the exponent `k` downwards. -/
def firstOnGrid (i : Interval) : Nat → Int → Decimal
  | 0, k => ⟨0, k⟩
  | tries + 1, k =>
    let (num, den) := tenTo k
    match i.choose num den with
    | some d => ⟨d, k⟩
    | none => firstOnGrid i tries (k - 1)

/-- A decimal with no digit zero at its end. -/
def stripped (d : Decimal) : Nat → Decimal
  | 0 => d
  | fuel + 1 =>
    if d.digits ≠ 0 && d.digits % 10 = 0 then stripped ⟨d.digits / 10, d.exponent + 1⟩ fuel
    else d

/-- The shortest decimal that rounds to the magnitude, and of those the nearest to it. Seventeen
    digits always suffice; the search starts one place above the greatest that can hit. -/
def shortest (m : Magnitude) : Decimal :=
  if m.isZero then ⟨0, 0⟩
  else
    let top : Int := (m.exponent + 53) * 30103 / 100000 + 1
    stripped (firstOnGrid m.interval 400 top) 400

end Magnitude

/-! ## The layout -/

/-- The digits before and after the point, and the exponent's sign, of a number in text. -/
def Decimal.layout (d : Decimal) : List Char :=
  let ds := Text.Decimal.digits d.digits
  let places : Int := d.exponent + ds.length
  if d.digits = 0 then ['0', '.', '0']
  else if 0 ≤ d.exponent && places ≤ 16 then
    ds ++ List.replicate d.exponent.toNat '0' ++ ['.', '0']
  else if 0 < places && places ≤ 16 then
    ds.take places.toNat ++ '.' :: ds.drop places.toNat
  else if -5 < places && places ≤ 0 then
    '0' :: '.' :: (List.replicate (-places).toNat '0' ++ ds)
  else
    let e := places - 1
    let mark := if e < 0 then ['e', '-'] else ['e', '+']
    let whole := ds.take 1
    let fraction := ds.drop 1
    whole ++ (if fraction = [] then [] else '.' :: fraction) ++ mark ++
      Text.Decimal.digits e.natAbs

def Binary64.text (x : Binary64) : List Char :=
  (if x.negative then ['-'] else []) ++ x.magnitude.shortest.layout

end ShardBridge.Number
