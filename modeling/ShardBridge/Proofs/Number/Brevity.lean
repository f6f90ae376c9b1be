/-
  ShardBridge.Proofs.Number.Brevity

  The text of a binary number is short.  Every magnitude that is computed is
  `Bounded`, so it has few binary digits and an exponent that is not extreme.
  The search for its shortest decimal starts on a grid that is not much finer
  than the magnitude and stops at the first grid with a point in its interval;
  a grid without one is coarser than the interval is wide, so the next is not
  much finer than that (`Coarse`).  Hence a decimal that is found has at most
  eighteen digits, and its text at most twenty-six characters
  (`Binary64.utf8ByteSize_text_le`).
-/
import Mathlib.Data.String.Basic
import Mathlib.Tactic.Ring
import ShardBridge.Number.Shortest

namespace ShardBridge.Number

namespace Magnitude

/-! ## Magnitudes that are computed -/

/-- The magnitude has few binary digits, and its exponent is within the range of the type. -/
structure Bounded (m : Magnitude) : Prop where
  mantissa : m.mantissa ≤ 2 ^ 54
  least : -1074 ≤ m.exponent
  greatest : m.exponent ≤ 971

theorem bounded_zero : zero.Bounded := by
  constructor <;> decide

theorem roundQuotient_le (num den : Nat) : roundQuotient num den ≤ num / den + 1 := by
  simp only [roundQuotient]
  split
  · omega
  · split
    · exact Nat.le_refl _
    · split <;> omega

/-- Scaled down by as many binary digits as it has more than its denominator, less 53, a quotient
    keeps 54 at most. -/
theorem scaled_lt {num den : Nat} {e : Int} (he : (num.log2 : Int) - den.log2 - 53 ≤ e) :
    (scaled num den e).1 / (scaled num den e).2 < 2 ^ 54 := by
  have hnum : num < 2 ^ (num.log2 + 1) := Nat.lt_log2_self
  by_cases hden : den = 0
  · subst hden
    rw [scaled]
    split <;> simp
  · have hpow : 2 ^ den.log2 ≤ den := Nat.log2_self_le hden
    rw [scaled]
    split
    · next hsign =>
      apply Nat.div_lt_of_lt_mul
      calc num < 2 ^ (num.log2 + 1) := hnum
        _ ≤ 2 ^ (den.log2 + e.toNat + 54) := Nat.pow_le_pow_right (by decide) (by omega)
        _ = 2 ^ den.log2 * 2 ^ e.toNat * 2 ^ 54 := by rw [Nat.pow_add, Nat.pow_add]
        _ ≤ den * Nat.pow 2 e.toNat * 2 ^ 54 :=
          Nat.mul_le_mul_right _ (Nat.mul_le_mul_right _ hpow)
    · next hsign =>
      apply Nat.div_lt_of_lt_mul
      calc num * Nat.pow 2 (-e).toNat
        _ < 2 ^ (num.log2 + 1) * 2 ^ (-e).toNat :=
          Nat.mul_lt_mul_of_pos_right hnum (Nat.two_pow_pos _)
        _ = 2 ^ (num.log2 + 1 + (-e).toNat) := (Nat.pow_add ..).symm
        _ ≤ 2 ^ (den.log2 + 54) := Nat.pow_le_pow_right (by decide) (by omega)
        _ = 2 ^ den.log2 * 2 ^ 54 := Nat.pow_add ..
        _ ≤ den * 2 ^ 54 := Nat.mul_le_mul_right _ hpow

theorem le_fittingExponent (num den : Nat) :
    (num.log2 : Int) - den.log2 - 53 ≤ fittingExponent num den ∧
      -1074 ≤ fittingExponent num den := by
  simp only [fittingExponent, leastExponent, Int.ofNat_eq_natCast]
  split <;> omega

theorem bounded_nearest {num den : Nat} {m : Magnitude} (h : nearest num den = some m) :
    m.Bounded := by
  obtain ⟨hfits, hleast⟩ := le_fittingExponent num den
  have hrounded := roundQuotient_le (scaled num den (fittingExponent num den)).1
    (scaled num den (fittingExponent num den)).2
  have hquotient := scaled_lt hfits
  simp only [nearest] at h
  split at h
  · cases h
    exact bounded_zero
  · -- Rounding up to the next power of two halves the mantissa again.
    generalize hm : (if _ = Nat.pow 2 53 then _ else _ : Magnitude) = rounded at h
    have hmantissa : rounded.mantissa ≤ 2 ^ 54 ∧ -1074 ≤ rounded.exponent := by
      subst hm
      split
      · exact ⟨(by decide : 2 ^ 52 ≤ 2 ^ 54), by dsimp only; omega⟩
      · exact ⟨by dsimp only; omega, hleast⟩
    split at h
    · cases h
    · next hgreatest =>
      cases h
      exact ⟨hmantissa.1, hmantissa.2, Int.not_lt.1 hgreatest⟩

theorem bounded_getD {o : Option Magnitude} (h : ∀ m ∈ o, m.Bounded) : (o.getD zero).Bounded := by
  cases o with
  | none => exact bounded_zero
  | some m => exact h m rfl

theorem bounded_shiftedDown {m : Magnitude} (hm : m.Bounded) (k : Nat) :
    (m.shiftedDown k).Bounded := by
  have hdiv : ∀ m' k', ((div m' (powerOfTen k')).getD zero).Bounded :=
    fun m' k' => bounded_getD fun _ h => bounded_nearest h
  fun_induction shiftedDown m k with
  | case1 m k _ => exact hdiv m k
  | case2 m k _ _ => exact hm
  | case3 m k _ _ ih => exact ih (hdiv m greatestPowerOfTen)

theorem bounded_ofDecimal {significand : Nat} {exponent : Int} {m : Magnitude}
    (h : ofDecimal significand exponent = some m) : m.Bounded := by
  rw [ofDecimal] at h
  split at h
  · cases h
  · next m' hm' =>
    have hbounded := bounded_nearest hm'
    split at h
    · cases h
      exact bounded_shiftedDown hbounded _
    · split at h
      · exact bounded_nearest h
      · split at h
        · cases h
          exact hbounded
        · cases h

/-! ## Grids -/

/-- The values that the interval leaves on either side, by its parts. -/
structure Interval.Around (i : Interval) : Prop where
  low_le : i.low ≤ i.value
  lt_high : i.value < i.high
  scaleDen_pos : 0 < i.scaleDen

/-- A chosen multiple is the value divided by the step, or the one after. -/
theorem Interval.le_of_choose {i : Interval} {num den d : Nat} (h : i.choose num den = some d) :
    d ≤ i.value * den / (num * i.scaleDen) + 1 := by
  simp only [choose] at h
  split at h
  · split at h
    · cases h
      exact Nat.le_succ _
    · split at h
      · cases h
        exact Nat.le_refl _
      · split at h <;> cases h
        · exact Nat.le_succ _
        · exact Nat.le_refl _
  · split at h
    · cases h
      exact Nat.le_succ _
    · split at h
      · cases h
        exact Nat.le_refl _
      · cases h

theorem Interval.contains_iff {i : Interval} {d num den : Nat} :
    i.contains d num den = true ↔
      if i.closed then i.low * den ≤ d * num * i.scaleDen ∧ d * num * i.scaleDen ≤ i.high * den
      else i.low * den < d * num * i.scaleDen ∧ d * num * i.scaleDen < i.high * den := by
  simp only [contains]
  split <;> simp

/-- Nothing is chosen when neither of the two is in the interval. -/
theorem Interval.not_contains_of_choose {i : Interval} {num den : Nat}
    (h : i.choose num den = none) :
    (0 < i.value * den / (num * i.scaleDen) →
      ¬ i.contains (i.value * den / (num * i.scaleDen)) num den = true) ∧
      ¬ i.contains (i.value * den / (num * i.scaleDen) + 1) num den = true := by
  simp only [choose, Bool.and_eq_true, decide_eq_true_eq] at h
  split at h
  · split at h
    · cases h
    · split at h
      · cases h
      · split at h <;> cases h
  · split at h
    · cases h
    · next hlow =>
      split at h
      · cases h
      · next hhigh => exact ⟨fun hpos hcontains => hlow ⟨hpos, hcontains⟩, hhigh⟩

/-- When no multiple is chosen, a step is as wide as the interval. -/
theorem Interval.le_step_of_choose {i : Interval} (hi : i.Around) {num den : Nat} (hnum : 0 < num)
    (hden : 0 < den) (h : i.choose num den = none) :
    (i.high - i.low) * den ≤ num * i.scaleDen := by
  have hlow : i.low * den ≤ i.value * den := Nat.mul_le_mul_right den hi.low_le
  have hhigh : i.value * den < i.high * den := Nat.mul_lt_mul_of_pos_right hi.lt_high hden
  obtain ⟨hwhole, hnext⟩ := not_contains_of_choose h
  -- The value lies between two multiples, and neither of them is in the interval.
  have hbelow : i.value * den / (num * i.scaleDen) * (num * i.scaleDen) ≤ i.value * den :=
    Nat.div_mul_le_self ..
  have habove := Nat.lt_div_mul_add (a := i.value * den) (Nat.mul_pos hnum hi.scaleDen_pos)
  rw [contains_iff, Nat.mul_assoc] at hwhole hnext
  rw [Nat.add_mul, Nat.one_mul] at hnext
  rw [Nat.sub_mul]
  generalize i.value * den / (num * i.scaleDen) = q at *
  have hout : q * (num * i.scaleDen) ≤ i.low * den := by
    by_cases hpos : 0 < q
    · apply Nat.le_of_not_lt
      intro hin
      apply hwhole hpos
      split <;> omega
    · obtain rfl : q = 0 := by omega
      rw [Nat.zero_mul]
      exact Nat.zero_le _
  have hover : i.high * den ≤ q * (num * i.scaleDen) + num * i.scaleDen := by
    apply Nat.le_of_not_lt
    intro hin
    apply hnext
    split <;> omega
  omega

/-- The interval of a magnitude, with its factors as powers of two: one of them is 1. -/
theorem interval_eq (m : Magnitude) :
    m.interval.value = 4 * m.mantissa * Nat.pow 2 (m.exponent - 2).toNat ∧
      m.interval.high = (4 * m.mantissa + 2) * Nat.pow 2 (m.exponent - 2).toNat ∧
      m.interval.low ≤ (4 * m.mantissa - 1) * Nat.pow 2 (m.exponent - 2).toNat ∧
      m.interval.scaleDen = Nat.pow 2 (2 - m.exponent).toNat := by
  simp only [interval]
  by_cases hsign : 0 ≤ m.exponent - 2
  · have hden : (2 - m.exponent).toNat = 0 := by omega
    rw [if_pos hsign, if_pos hsign, hden]
    refine ⟨rfl, rfl, Nat.mul_le_mul_right _ ?_, rfl⟩
    split <;> omega
  · have hup : (m.exponent - 2).toNat = 0 := by omega
    have hden : -(m.exponent - 2) = 2 - m.exponent := by omega
    rw [if_neg hsign, if_neg hsign, hup, hden]
    refine ⟨rfl, rfl, Nat.mul_le_mul_right _ ?_, rfl⟩
    split <;> omega

theorem around_interval (m : Magnitude) : m.interval.Around := by
  obtain ⟨hvalue, hhigh, hlow, hden⟩ := m.interval_eq
  have hup : 0 < Nat.pow 2 (m.exponent - 2).toNat := Nat.two_pow_pos _
  refine ⟨?_, ?_, ?_⟩
  · rw [hvalue]
    exact Nat.le_trans hlow (Nat.mul_le_mul_right _ (Nat.sub_le ..))
  · rw [hvalue, hhigh]
    exact Nat.mul_lt_mul_of_pos_right (by omega) hup
  · rw [hden]
    exact Nat.two_pow_pos _

/-- The interval is three quarters of a unit in the last place wide at least. -/
theorem le_width {m : Magnitude} (hm : m.mantissa ≠ 0) :
    3 * Nat.pow 2 (m.exponent - 2).toNat ≤ m.interval.high - m.interval.low := by
  obtain ⟨-, hhigh, hlow, -⟩ := m.interval_eq
  have hwidth : 3 * Nat.pow 2 (m.exponent - 2).toNat =
      (4 * m.mantissa + 2) * Nat.pow 2 (m.exponent - 2).toNat -
        (4 * m.mantissa - 1) * Nat.pow 2 (m.exponent - 2).toNat := by
    rw [← Nat.sub_mul]
    congr 1
    omega
  omega

/-! ## The search -/

/-- The step of the grid is at least a tenth of three quarters of a unit in the last place. -/
def Coarse (m : Magnitude) (k : Int) : Prop :=
  3 * Nat.pow 2 (m.exponent - 2).toNat * (tenTo k).2 ≤ 10 * ((tenTo k).1 * m.interval.scaleDen)

theorem tenTo_pos (k : Int) : 0 < (tenTo k).1 ∧ 0 < (tenTo k).2 := by
  rw [tenTo]
  split
  · exact ⟨Nat.pow_pos (by decide), Nat.one_pos⟩
  · exact ⟨Nat.one_pos, Nat.pow_pos (by decide)⟩

/-- The grids of two exponents that follow each other are ten to one. -/
theorem tenTo_pred (k : Int) :
    (tenTo k).1 * (tenTo (k - 1)).2 = 10 * ((tenTo (k - 1)).1 * (tenTo k).2) := by
  rw [tenTo, tenTo]
  by_cases hk : 0 < k
  · have hstep : k.toNat = (k - 1).toNat + 1 := by omega
    rw [if_pos (show 0 ≤ k by omega), if_pos (show 0 ≤ k - 1 by omega), hstep]
    show 10 ^ (_ + 1) * 1 = 10 * (10 ^ _ * 1)
    rw [Nat.pow_succ]
    omega
  · have hstep : (-(k - 1)).toNat = (-k).toNat + 1 := by omega
    rw [if_neg (show ¬ 0 ≤ k - 1 by omega), hstep]
    by_cases hzero : 0 ≤ k
    · obtain rfl : k = 0 := by omega
      rfl
    · rw [if_neg hzero]
      show 1 * 10 ^ (_ + 1) = 10 * (1 * 10 ^ _)
      rw [Nat.pow_succ]
      omega

/-- After a grid without a point in the interval comes one that is not much finer than it. -/
theorem coarse_pred {m : Magnitude} (hm : m.mantissa ≠ 0) {k : Int}
    (h : m.interval.choose (tenTo k).1 (tenTo k).2 = none) : m.Coarse (k - 1) := by
  obtain ⟨hnum, hden⟩ := tenTo_pos k
  have hwide := Interval.le_step_of_choose m.around_interval hnum hden h
  have hstep : 3 * Nat.pow 2 (m.exponent - 2).toNat * (tenTo k).2 ≤
      (tenTo k).1 * m.interval.scaleDen :=
    Nat.le_trans (Nat.mul_le_mul_right _ (le_width hm)) hwide
  apply Nat.le_of_mul_le_mul_left _ hden
  calc (tenTo k).2 * (3 * Nat.pow 2 (m.exponent - 2).toNat * (tenTo (k - 1)).2)
    _ = 3 * Nat.pow 2 (m.exponent - 2).toNat * (tenTo k).2 * (tenTo (k - 1)).2 := by ring
    _ ≤ (tenTo k).1 * m.interval.scaleDen * (tenTo (k - 1)).2 := Nat.mul_le_mul_right _ hstep
    _ = (tenTo k).1 * (tenTo (k - 1)).2 * m.interval.scaleDen := Nat.mul_right_comm ..
    _ = 10 * ((tenTo (k - 1)).1 * (tenTo k).2) * m.interval.scaleDen := by rw [tenTo_pred]
    _ = (tenTo k).2 * (10 * ((tenTo (k - 1)).1 * m.interval.scaleDen)) := by ring

/-- On a grid that is not much finer than the interval, the multiple has at most eighteen digits. -/
theorem lt_of_choose {m : Magnitude} (hm : m.Bounded) {k : Int} (hk : m.Coarse k) {d : Nat}
    (h : m.interval.choose (tenTo k).1 (tenTo k).2 = some d) : d < 10 ^ 18 := by
  have hd := Interval.le_of_choose h
  obtain ⟨hvalue, -⟩ := m.interval_eq
  rw [Coarse] at hk
  rw [hvalue] at hd
  generalize (tenTo k).1 * m.interval.scaleDen = step at hd hk
  generalize Nat.pow 2 (m.exponent - 2).toNat = up at hd hk
  -- Three quarters of a unit are ten steps at most, so the value is as many as 40/3 mantissas.
  have hquotient : 4 * m.mantissa * up * (tenTo k).2 ≤ step * (14 * m.mantissa) := by
    have hscaled : m.mantissa * (3 * up * (tenTo k).2) ≤ m.mantissa * (10 * step) :=
      Nat.mul_le_mul_left _ hk
    have hleft : m.mantissa * (3 * up * (tenTo k).2) = 3 * (m.mantissa * up * (tenTo k).2) := by
      ring
    have hright : m.mantissa * (10 * step) = 10 * (m.mantissa * step) := by ring
    calc 4 * m.mantissa * up * (tenTo k).2
      _ = 4 * (m.mantissa * up * (tenTo k).2) := by ring
      _ ≤ 14 * (m.mantissa * step) := by omega
      _ = step * (14 * m.mantissa) := by ring
  have hdiv := Nat.div_le_of_le_mul hquotient
  have hmantissa := hm.mantissa
  omega

theorem two_pow_le_ten_pow {n t : Nat} (h : 4 * ((n + 12) / 13) ≤ t) : 2 ^ n ≤ 10 ^ t :=
  calc 2 ^ n ≤ 2 ^ (13 * ((n + 12) / 13)) := Nat.pow_le_pow_right (by decide) (by omega)
    _ = (2 ^ 13) ^ ((n + 12) / 13) := Nat.pow_mul ..
    _ ≤ (10 ^ 4) ^ ((n + 12) / 13) := Nat.pow_le_pow_left (by decide) _
    _ = 10 ^ (4 * ((n + 12) / 13)) := (Nat.pow_mul ..).symm
    _ ≤ 10 ^ t := Nat.pow_le_pow_right (by decide) h

theorem ten_pow_le_two_pow {n t : Nat} (h : 10 * ((n + 2) / 3) ≤ t) : 10 ^ n ≤ 2 ^ t :=
  calc 10 ^ n ≤ 10 ^ (3 * ((n + 2) / 3)) := Nat.pow_le_pow_right (by decide) (by omega)
    _ = (10 ^ 3) ^ ((n + 2) / 3) := Nat.pow_mul ..
    _ ≤ (2 ^ 10) ^ ((n + 2) / 3) := Nat.pow_le_pow_left (by decide) _
    _ = 2 ^ (10 * ((n + 2) / 3)) := (Nat.pow_mul ..).symm
    _ ≤ 2 ^ t := Nat.pow_le_pow_right (by decide) h

/-- The exponent of ten at which the search starts. -/
def top (m : Magnitude) : Int := (m.exponent + 53) * 30103 / 100000 + 1

/-- The first grid is coarse: its step is near the power of two above the magnitude. -/
theorem coarse_top {m : Magnitude} (hm : m.Bounded) : m.Coarse m.top := by
  obtain ⟨-, -, -, hden⟩ := m.interval_eq
  have hleast := hm.least
  have hgreatest := hm.greatest
  rw [Coarse, hden, tenTo]
  -- The search starts by log₁₀ 2; the bounds on the exponent leave room for cruder ratios.
  by_cases htop : 0 ≤ m.top
  · rw [if_pos htop]
    have hpow : 2 ^ (m.exponent - 2).toNat ≤ 10 ^ m.top.toNat := by
      apply two_pow_le_ten_pow
      rw [top]
      omega
    have hone : 1 ≤ 2 ^ (2 - m.exponent).toNat := Nat.one_le_two_pow
    have hmul := Nat.mul_le_mul_left (10 ^ m.top.toNat) hone
    show 3 * 2 ^ (m.exponent - 2).toNat * 1 ≤ 10 * (10 ^ m.top.toNat * 2 ^ (2 - m.exponent).toNat)
    omega
  · rw [if_neg htop]
    have hup : (m.exponent - 2).toNat = 0 := by
      rw [top] at htop
      omega
    have hpow : 10 ^ (-m.top).toNat ≤ 2 ^ (2 - m.exponent).toNat := by
      apply ten_pow_le_two_pow
      rw [top] at htop ⊢
      omega
    rw [hup]
    show 3 * 2 ^ 0 * 10 ^ (-m.top).toNat ≤ 10 * (1 * 2 ^ (2 - m.exponent).toNat)
    omega

/-- Whatever the search finds has at most eighteen digits. -/
theorem firstOnGrid_bounds {m : Magnitude} (hm : m.Bounded) (hzero : m.mantissa ≠ 0) (tries : Nat)
    {k : Int} (hk : m.Coarse k) : (firstOnGrid m.interval tries k).digits < 10 ^ 18 ∧
      k - tries ≤ (firstOnGrid m.interval tries k).exponent ∧
      (firstOnGrid m.interval tries k).exponent ≤ k := by
  induction tries generalizing k with
  | zero =>
    rw [firstOnGrid]
    exact ⟨Nat.pow_pos (by decide), by dsimp only; omega, Int.le_refl k⟩
  | succ tries ih =>
    simp only [firstOnGrid]
    split
    · next d hd => exact ⟨lt_of_choose hm hk hd, by dsimp only; omega, Int.le_refl k⟩
    · next hnone =>
      obtain ⟨hdigits, hleast, hgreatest⟩ := ih (coarse_pred hzero hnone)
      exact ⟨hdigits, by omega, by omega⟩

theorem stripped_bounds (d : Decimal) (fuel : Nat) : (stripped d fuel).digits ≤ d.digits ∧
    d.exponent ≤ (stripped d fuel).exponent ∧ (stripped d fuel).exponent ≤ d.exponent + fuel := by
  induction fuel generalizing d with
  | zero => exact ⟨Nat.le_refl _, Int.le_refl _, by rw [stripped]; omega⟩
  | succ fuel ih =>
    rw [stripped]
    split
    · obtain ⟨hdigits, hleast, hgreatest⟩ := ih ⟨d.digits / 10, d.exponent + 1⟩
      dsimp only at hdigits hleast hgreatest
      exact ⟨by omega, by omega, by omega⟩
    · exact ⟨Nat.le_refl _, Int.le_refl _, by omega⟩

/-- The shortest decimal of a magnitude has at most eighteen digits and three for its exponent. -/
theorem shortest_bounds {m : Magnitude} (hm : m.Bounded) : m.shortest.digits < 10 ^ 18 ∧
    -1000 ≤ m.shortest.exponent ∧ m.shortest.exponent ≤ 900 := by
  rw [shortest]
  split
  · decide
  · next hzero =>
    have hmantissa : m.mantissa ≠ 0 := by simpa [isZero] using hzero
    have hfirst := firstOnGrid_bounds hm hmantissa 400 (coarse_top hm)
    have hstripped := stripped_bounds (firstOnGrid m.interval 400 m.top) 400
    have htop : -310 ≤ m.top ∧ m.top ≤ 310 := by
      have hleast := hm.least
      have hgreatest := hm.greatest
      rw [top]
      omega
    show (stripped (firstOnGrid m.interval 400 m.top) 400).digits < _ ∧ _ ≤
      (stripped (firstOnGrid m.interval 400 m.top) 400).exponent ∧
      (stripped (firstOnGrid m.interval 400 m.top) 400).exponent ≤ _
    omega

end Magnitude

/-! ## The text -/

open Text.Decimal (digits digit)

theorem length_digits_le {n count : Nat} (hcount : 0 < count) (h : n < 10 ^ count) :
    (digits n).length ≤ count := by
  induction count generalizing n with
  | zero => exact absurd hcount (Nat.lt_irrefl 0)
  | succ count ih =>
    rw [digits]
    split
    · exact Nat.succ_le_succ (Nat.zero_le _)
    · next hn =>
      rw [Nat.pow_succ] at h
      by_cases hzero : count = 0
      · subst hzero
        omega
      · rw [List.length_append, List.length_singleton]
        exact Nat.succ_le_succ (ih (Nat.pos_of_ne_zero hzero) (by omega))

/-- A decimal with few digits and no extreme exponent is laid out in few places. -/
theorem Decimal.length_layout_le {d : Decimal} (hdigits : d.digits < 10 ^ 18)
    (hleast : -1000 ≤ d.exponent) (hgreatest : d.exponent ≤ 900) : d.layout.length ≤ 25 := by
  -- The longest has eighteen digits, a point, the two signs of an exponent and four digits of it.
  have hlength := length_digits_le (by decide) hdigits
  have hexponent : ∀ e : Int, -1001 ≤ e → e ≤ 1000 → (Text.Decimal.digits e.natAbs).length ≤ 4 :=
    fun e he he' => length_digits_le (by decide) (by omega)
  simp only [layout]
  generalize Text.Decimal.digits d.digits = ds at *
  split
  · exact (by decide : 3 ≤ 25)
  · split
    · next hplaces =>
      simp only [Bool.and_eq_true, decide_eq_true_eq] at hplaces
      simp only [List.length_append, List.length_replicate, List.length_cons, List.length_nil]
      omega
    · split
      · simp only [List.length_append, List.length_cons, List.length_take, List.length_drop]
        omega
      · split
        · next hplaces =>
          simp only [Bool.and_eq_true, decide_eq_true_eq] at hplaces
          simp only [List.length_append, List.length_replicate, List.length_cons]
          omega
        · have hlast := hexponent (d.exponent + ds.length - 1) (by omega) (by omega)
          have hmark : (if d.exponent + ds.length - 1 < 0 then ['e', '-']
              else ['e', '+']).length = 2 := by split <;> rfl
          have hmantissa : (ds.take 1 ++ if ds.drop 1 = [] then [] else '.' :: ds.drop 1).length ≤
              ds.length + 1 := by
            rw [List.length_append, List.length_take]
            split
            · exact Nat.le_trans (Nat.min_le_right ..) (Nat.le_succ _)
            · rw [List.length_cons, List.length_drop]
              omega
          rw [List.length_append, List.length_append, hmark]
          omega

/-- The character is a digit or one of the signs in a number. -/
def IsPlain (c : Char) : Prop := Text.Decimal.isDigit c = true ∨ c ∈ ['.', 'e', '+', '-']

theorem IsPlain.utf8Size {c : Char} (h : IsPlain c) : c.utf8Size = 1 := by
  apply Char.utf8Size_eq_one_iff.2
  rcases h with h | h
  · simp only [Text.Decimal.isDigit, Bool.and_eq_true, decide_eq_true_eq] at h
    exact UInt32.le_trans h.2 (by decide)
  · simp only [List.mem_cons, List.not_mem_nil, or_false] at h
    rcases h with rfl | rfl | rfl | rfl <;> decide

theorem isPlain_digits (n : Nat) : ∀ c ∈ Text.Decimal.digits n, IsPlain c :=
  fun _ hc => .inl (Text.Decimal.isDigit_of_mem_digits hc)

theorem Decimal.isPlain_layout (d : Decimal) : ∀ c ∈ d.layout, IsPlain c := by
  have hds := isPlain_digits d.digits
  have hzeros : ∀ n, ∀ c ∈ List.replicate n '0', IsPlain c := by
    rintro n c hc
    rw [List.eq_of_mem_replicate hc]
    exact .inl (by decide)
  have hzero : IsPlain '0' := .inl (by decide)
  have hpoint : IsPlain '.' := .inr (by decide)
  have hletter : IsPlain 'e' := .inr (by decide)
  have hplus : IsPlain '+' := .inr (by decide)
  have hminus : IsPlain '-' := .inr (by decide)
  have hnil := List.forall_mem_nil IsPlain
  simp only [layout]
  generalize Text.Decimal.digits d.digits = ds at *
  have htake : ∀ n, ∀ c ∈ ds.take n, IsPlain c := fun n c hc => hds c (List.mem_of_mem_take hc)
  have hdrop : ∀ n, ∀ c ∈ ds.drop n, IsPlain c := fun n c hc => hds c (List.mem_of_mem_drop hc)
  split
  · simp only [List.forall_mem_cons]
    exact ⟨hzero, hpoint, hzero, hnil⟩
  · split
    · simp only [List.forall_mem_append, List.forall_mem_cons]
      exact ⟨⟨hds, hzeros _⟩, hpoint, hzero, hnil⟩
    · split
      · simp only [List.forall_mem_append, List.forall_mem_cons]
        exact ⟨htake _, hpoint, hdrop _⟩
      · split
        · simp only [List.forall_mem_append, List.forall_mem_cons]
          exact ⟨hzero, hpoint, hzeros _, hds⟩
        · simp only [List.forall_mem_append]
          refine ⟨⟨⟨htake _, ?_⟩, ?_⟩, isPlain_digits _⟩
          · split
            · exact hnil
            · rw [List.forall_mem_cons]
              exact ⟨hpoint, hdrop _⟩
          · split
            · simp only [List.forall_mem_cons]
              exact ⟨hletter, hminus, hnil⟩
            · simp only [List.forall_mem_cons]
              exact ⟨hletter, hplus, hnil⟩

theorem utf8ByteSize_of_plain {text : List Char} (h : ∀ c ∈ text, IsPlain c) :
    (String.ofList text).utf8ByteSize = text.length := by
  rw [String.utf8ByteSize_ofList]
  induction text with
  | nil => rfl
  | cons c text ih =>
    rw [List.forall_mem_cons] at h
    rw [String.utf8Len_cons, ih h.2, h.1.utf8Size, List.length_cons]

/-- The text of a computed number has at most twenty-six characters, of one byte each. -/
theorem Binary64.utf8ByteSize_text_le {x : Binary64} (h : x.magnitude.Bounded) :
    (String.ofList x.text).utf8ByteSize ≤ 26 := by
  obtain ⟨hdigits, hleast, hgreatest⟩ := Magnitude.shortest_bounds h
  have hlength := Decimal.length_layout_le hdigits hleast hgreatest
  have hlayout := x.magnitude.shortest.isPlain_layout
  rw [text]
  split
  · have hsigned : ∀ c ∈ ['-'] ++ x.magnitude.shortest.layout, IsPlain c := by
      rw [List.singleton_append, List.forall_mem_cons]
      exact ⟨.inr (by decide), hlayout⟩
    rw [utf8ByteSize_of_plain hsigned, List.singleton_append, List.length_cons]
    omega
  · rw [List.nil_append, utf8ByteSize_of_plain hlayout]
    omega

end ShardBridge.Number
