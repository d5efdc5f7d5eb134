import Mathlib.Algebra.Order.Field.Basic
import Mathlib.Algebra.Order.Field.Power
import Mathlib.Algebra.Order.Field.Rat
import Mathlib.Tactic.FieldSimp
import Mathlib.Tactic.Linarith
import Mathlib.Tactic.Ring
import RelyingParty.Binary64

set_option autoImplicit false

namespace RelyingParty.Binary64

/-- A number in the one form that its 64 bits have. -/
structure InFormat (x : Binary64) : Prop where
  significand : x.significand < 2 ^ 53
  least : minExponent ≤ x.exponent
  greatest : x.exponent ≤ maxExponent
  normal : x.exponent = minExponent ∨ 2 ^ 52 ≤ x.significand

def magnitude (x : Binary64) : ℚ := x.significand * 2 ^ x.exponent

theorem twoPow_zpow (exponent : ℤ) : twoPow exponent = 2 ^ exponent := by
  cases exponent with
  | ofNat power => simp [twoPow]
  | negSucc power => simp [twoPow]

theorem magnitude_nonneg (x : Binary64) : 0 ≤ x.magnitude := by
  unfold magnitude
  positivity

theorem toRat_positive (x : Binary64) (positive : x.negative = false) : x.toRat = x.magnitude := by
  simp [toRat, magnitude, positive, twoPow_zpow]

theorem toRat_negative (x : Binary64) (negative : x.negative = true) : x.toRat = -x.magnitude := by
  simp [toRat, magnitude, negative, twoPow_zpow]

theorem abs_toRat (x : Binary64) : |x.toRat| = x.magnitude := by
  cases sign : x.negative with
  | false => rw [x.toRat_positive sign, abs_of_nonneg x.magnitude_nonneg]
  | true => rw [x.toRat_negative sign, abs_neg, abs_of_nonneg x.magnitude_nonneg]

theorem zero_inFormat (negative : Bool) : (zero negative).InFormat :=
  ⟨Nat.two_pow_pos 53, Int.le_refl _, show minExponent ≤ maxExponent by decide, .inl rfl⟩

section Ratio

variable (numerator denominator : ℕ)

theorem divideToEven_cases :
    (divideToEven numerator denominator = numerator / denominator ∧
      2 * (numerator % denominator) ≤ denominator) ∨
    (divideToEven numerator denominator = numerator / denominator + 1 ∧
      denominator ≤ 2 * (numerator % denominator)) := by
  unfold divideToEven
  grind

variable {denominator} (positive : 0 < denominator)

include positive

theorem scaled_ratio (exponent : ℤ) :
    0 < (scaled numerator denominator exponent).2 ∧
      ((scaled numerator denominator exponent).1 : ℚ) / (scaled numerator denominator exponent).2 =
        numerator / denominator / 2 ^ exponent := by
  cases exponent with
  | ofNat power =>
    refine ⟨Nat.mul_pos positive (Nat.two_pow_pos power), ?_⟩
    simp [scaled, div_div]
  | negSucc power =>
    refine ⟨positive, ?_⟩
    simp [scaled]
    ring

theorem divideToEven_half :
    |(divideToEven numerator denominator : ℚ) - numerator / denominator| ≤ 1 / 2 := by
  have divisor : (0 : ℚ) < denominator := by exact_mod_cast positive
  have whole : (numerator : ℚ) =
      denominator * (numerator / denominator : ℕ) + (numerator % denominator : ℕ) := by
    exact_mod_cast (Nat.div_add_mod numerator denominator).symm
  have rest : ((numerator % denominator : ℕ) : ℚ) < denominator := by
    exact_mod_cast Nat.mod_lt numerator positive
  have error (n : ℚ) : n - numerator / denominator =
      (denominator * n - numerator) / denominator := by
    field_simp
  rw [error, abs_div, abs_of_pos divisor, div_le_iff₀ divisor, abs_le]
  rcases divideToEven_cases numerator denominator with ⟨down, half⟩ | ⟨up, half⟩
  · have half : 2 * ((numerator % denominator : ℕ) : ℚ) ≤ denominator := by exact_mod_cast half
    rw [down]
    constructor <;> linarith
  · have half : (denominator : ℚ) ≤ 2 * (numerator % denominator : ℕ) := by exact_mod_cast half
    rw [up]
    push_cast at *
    constructor <;> linarith

theorem divideToEven_nearest (other : ℤ) :
    |(divideToEven numerator denominator : ℚ) - numerator / denominator| ≤
      |(other : ℚ) - numerator / denominator| := by
  have half := divideToEven_half numerator positive
  by_cases same : other = divideToEven numerator denominator
  next => simp [same]
  next =>
    -- Another integer is at least one away from this one, which is at most a half away.
    have apart : (1 : ℚ) ≤ |(other : ℚ) - divideToEven numerator denominator| := by
      have apart := Int.one_le_abs (sub_ne_zero.mpr same)
      exact_mod_cast apart
    have between := abs_sub_le (other : ℚ) (numerator / denominator)
      (divideToEven numerator denominator)
    rw [abs_sub_comm (numerator / denominator : ℚ)] at between
    linarith

end Ratio

/-- At this exponent, a positive rational number has a significand of 53 bits, or of fewer bits if
it is the least exponent. -/
structure FitsAt (value : ℚ) (exponent : ℤ) : Prop where
  least : minExponent ≤ exponent
  above : value < 2 ^ (exponent + 53)
  normal : exponent = minExponent ∨ 2 ^ (exponent + 52) ≤ value

theorem two_zpow_add (left right : ℤ) : (2 : ℚ) ^ (left + right) = 2 ^ left * 2 ^ right :=
  zpow_add₀ two_ne_zero left right

theorem two_zpow_le {left right : ℤ} (le : left ≤ right) : (2 : ℚ) ^ left ≤ 2 ^ right :=
  zpow_le_zpow_right₀ one_le_two le

theorem fitsAt_max (value : ℚ) (exponent : ℤ) (above : value < 2 ^ (exponent + 53))
    (normal : 2 ^ (exponent + 52) ≤ value) : FitsAt value (max minExponent exponent) where
  least := le_max_left _ _
  above := above.trans_le (two_zpow_le (by omega))
  normal := by
    rcases max_choice minExponent exponent with least | chosen
    · exact .inl least
    · rw [chosen]
      exact .inr normal

theorem ratio_bounds (numerator denominator : ℕ) (nonzero : 0 < numerator)
    (positive : 0 < denominator) :
    (2 : ℚ) ^ ((numerator.log2 : ℤ) - denominator.log2 - 1) ≤ numerator / denominator ∧
      (numerator : ℚ) / denominator < 2 ^ ((numerator.log2 : ℤ) - denominator.log2 + 1) := by
  have divisor : (0 : ℚ) < denominator := by exact_mod_cast positive
  have numeratorLow : (2 : ℚ) ^ (numerator.log2 : ℤ) ≤ numerator := by
    exact_mod_cast Nat.log2_self_le nonzero.ne'
  have numeratorHigh : (numerator : ℚ) < 2 ^ ((numerator.log2 : ℤ) + 1) := by
    exact_mod_cast Nat.lt_log2_self (n := numerator)
  have denominatorLow : (2 : ℚ) ^ (denominator.log2 : ℤ) ≤ denominator := by
    exact_mod_cast Nat.log2_self_le positive.ne'
  have denominatorHigh : (denominator : ℚ) ≤ 2 ^ ((denominator.log2 : ℤ) + 1) := by
    exact_mod_cast (Nat.lt_log2_self (n := denominator)).le
  rw [le_div_iff₀ divisor, div_lt_iff₀ divisor]
  constructor
  next =>
    calc (2 : ℚ) ^ ((numerator.log2 : ℤ) - denominator.log2 - 1) * denominator
        ≤ 2 ^ ((numerator.log2 : ℤ) - denominator.log2 - 1) *
            2 ^ ((denominator.log2 : ℤ) + 1) := by gcongr
      _ = 2 ^ (numerator.log2 : ℤ) := by
        rw [← two_zpow_add]
        ring_nf
      _ ≤ numerator := numeratorLow
  next =>
    calc (numerator : ℚ) < 2 ^ ((numerator.log2 : ℤ) + 1) := numeratorHigh
      _ = 2 ^ ((numerator.log2 : ℤ) - denominator.log2 + 1) * 2 ^ (denominator.log2 : ℤ) := by
        rw [← two_zpow_add]
        ring_nf
      _ ≤ 2 ^ ((numerator.log2 : ℤ) - denominator.log2 + 1) * denominator := by gcongr

theorem exponentFor_chosen (numerator denominator : ℕ) (positive : 0 < denominator) (guess : ℤ)
    (guessed : guess = (numerator.log2 : ℤ) - (denominator.log2 : ℤ) - 52) :
    exponentFor numerator denominator =
      max minExponent (if (numerator : ℚ) / denominator < 2 ^ (guess + 52) then guess - 1
        else guess) := by
  obtain ⟨below, ratio⟩ := scaled_ratio numerator positive guess
  have test : (scaled numerator denominator guess).1 <
      (scaled numerator denominator guess).2 * Nat.pow 2 52 ↔
      (numerator : ℚ) / denominator < 2 ^ (guess + 52) := by
    have divisor : (0 : ℚ) < (scaled numerator denominator guess).2 := by exact_mod_cast below
    rw [add_comm, two_zpow_add, ← div_lt_iff₀ (by positivity), ← ratio, div_lt_iff₀ divisor,
      mul_comm]
    norm_cast
  unfold exponentFor
  simp only [← guessed, test]

theorem exponentFor_fits (numerator denominator : ℕ) (nonzero : 0 < numerator)
    (positive : 0 < denominator) :
    FitsAt (numerator / denominator) (exponentFor numerator denominator) := by
  obtain ⟨guess, guessed⟩ : ∃ guess : ℤ,
      guess = (numerator.log2 : ℤ) - (denominator.log2 : ℤ) - 52 := ⟨_, rfl⟩
  -- The logarithms give the value up to a factor of four, so that one comparison is left.
  obtain ⟨low, high⟩ := ratio_bounds numerator denominator nonzero positive
  rw [exponentFor_chosen numerator denominator positive guess guessed]
  split
  next small =>
    refine fitsAt_max _ _ ?_ ?_
    · rwa [show guess - 1 + 53 = guess + 52 by ring]
    · rwa [show guess - 1 + 52 = (numerator.log2 : ℤ) - denominator.log2 - 1 by omega]
  next large =>
    refine fitsAt_max _ _ ?_ (not_lt.mp large)
    rwa [show guess + 53 = (numerator.log2 : ℤ) - denominator.log2 + 1 by omega]

theorem InFormat.magnitude_lt {x : Binary64} (inFormat : x.InFormat) :
    x.magnitude < 2 ^ (x.exponent + 53) := by
  have bits : (x.significand : ℚ) < 2 ^ (53 : ℤ) := by exact_mod_cast inFormat.significand
  rw [add_comm, two_zpow_add]
  unfold magnitude
  gcongr

theorem magnitude_multiple (x : Binary64) (exponent : ℤ) (multiple : exponent ≤ x.exponent) :
    ∃ factor : ℕ, x.magnitude = factor * 2 ^ exponent := by
  obtain ⟨steps, same⟩ := Int.le.dest multiple
  refine ⟨x.significand * 2 ^ steps, ?_⟩
  rw [magnitude, ← same, two_zpow_add, zpow_natCast]
  push_cast
  ring

theorem scaled_distance (x value : ℚ) (exponent : ℤ) :
    |x * 2 ^ exponent - value| = 2 ^ exponent * |x - value / 2 ^ exponent| := by
  have power : (0 : ℚ) < 2 ^ exponent := by positivity
  have same : x * 2 ^ exponent - value = 2 ^ exponent * (x - value / 2 ^ exponent) := by
    field_simp
  rw [same, abs_mul, abs_of_pos power]

theorem grid_nearest {value : ℚ} {exponent : ℤ} (fits : FitsAt value exponent) (significand : ℕ)
    (nearest : ∀ other : ℤ,
      |(significand : ℚ) - value / 2 ^ exponent| ≤ |(other : ℚ) - value / 2 ^ exponent|)
    (y : Binary64) (inFormat : y.InFormat) :
    |(significand : ℚ) * 2 ^ exponent - value| ≤ |y.magnitude - value| := by
  have near (other : ℤ) : |(significand : ℚ) * 2 ^ exponent - value| ≤
      |(other : ℚ) * 2 ^ exponent - value| := by
    rw [scaled_distance, scaled_distance]
    exact mul_le_mul_of_nonneg_left (nearest other) (by positivity)
  by_cases multiple : exponent ≤ y.exponent
  next =>
    obtain ⟨factor, onGrid⟩ := y.magnitude_multiple exponent multiple
    rw [onGrid]
    exact_mod_cast near factor
  next =>
    -- The other number is below all that have this exponent, and the value is not.
    have least := inFormat.least
    have large := fits.normal.resolve_left (by omega)
    have below : y.magnitude < 2 ^ (exponent + 52) :=
      inFormat.magnitude_lt.trans_le (two_zpow_le (by omega))
    have edge : (((2 ^ 52 : ℕ) : ℤ) : ℚ) * 2 ^ exponent = 2 ^ (exponent + 52) := by
      rw [two_zpow_add, mul_comm]
      norm_cast
    calc |(significand : ℚ) * 2 ^ exponent - value|
        ≤ |(((2 ^ 52 : ℕ) : ℤ) : ℚ) * 2 ^ exponent - value| := near (2 ^ 52 : ℕ)
      _ = value - 2 ^ (exponent + 52) := by
        rw [edge, abs_of_nonpos (sub_nonpos.mpr large), neg_sub]
      _ ≤ value - y.magnitude := by linarith
      _ ≤ |y.magnitude - value| := by
        rw [abs_sub_comm]
        exact le_abs_self _

theorem divideToEven_bounds (numerator denominator : ℕ) (positive : 0 < denominator) :
    ((numerator : ℚ) / denominator < 2 ^ 53 ->
      divideToEven numerator denominator ≤ 2 ^ 53) ∧
    (2 ^ 52 ≤ (numerator : ℚ) / denominator ->
      2 ^ 52 ≤ divideToEven numerator denominator) := by
  have divisor : (0 : ℚ) < denominator := by exact_mod_cast positive
  have rounded := divideToEven_cases numerator denominator
  constructor
  · intro small
    rw [div_lt_iff₀ divisor] at small
    have small : numerator < 2 ^ 53 * denominator := by exact_mod_cast small
    have quotient := (Nat.div_lt_iff_lt_mul positive).mpr small
    omega
  · intro large
    rw [le_div_iff₀ divisor] at large
    have large : 2 ^ 52 * denominator ≤ numerator := by exact_mod_cast large
    have quotient := (Nat.le_div_iff_mul_le positive).mpr large
    omega

theorem ofRatio?_rounded (negative : Bool) (numerator denominator : ℕ) (nonzero : 0 < numerator) :
    ∃ above below exponent,
      exponent = exponentFor numerator denominator ∧
      scaled numerator denominator exponent = (above, below) ∧
      ofRatio? negative numerator denominator =
        if divideToEven above below = 2 ^ 53 then
          if maxExponent < exponent + 1 then none else some ⟨negative, 2 ^ 52, exponent + 1⟩
        else if maxExponent < exponent then none
        else some ⟨negative, divideToEven above below, exponent⟩ := by
  unfold ofRatio?
  rw [if_neg nonzero.ne']
  -- Unfolding the exponent would compare with powers that are counted down to.
  generalize exponentFor numerator denominator = exponent
  extract_lets _
  rcases parts : scaled numerator denominator exponent with ⟨above, below⟩
  refine ⟨above, below, exponent, rfl, parts, ?_⟩
  dsimp only
  by_cases carry : divideToEven above below = 2 ^ 53
  next =>
    simp only [carry, Nat.pow_eq, if_true]
    rfl
  next =>
    simp only [carry, Nat.pow_eq, if_false]
    rfl

theorem FitsAt.significand_bounds {value : ℚ} {exponent : ℤ} (fits : FitsAt value exponent)
    (numerator denominator : ℕ) (positive : 0 < denominator)
    (ratio : (numerator : ℚ) / denominator = value / 2 ^ exponent) :
    divideToEven numerator denominator ≤ 2 ^ 53 ∧
      (exponent = minExponent ∨ 2 ^ 52 ≤ divideToEven numerator denominator) := by
  have power : (0 : ℚ) < 2 ^ exponent := by positivity
  obtain ⟨above, below⟩ := divideToEven_bounds numerator denominator positive
  rw [ratio] at above below
  constructor
  next =>
    have fits := fits.above
    rw [two_zpow_add, mul_comm] at fits
    exact above ((div_lt_iff₀ power).mpr (by exact_mod_cast fits))
  next =>
    refine fits.normal.imp_right fun large => below ?_
    rw [two_zpow_add, mul_comm] at large
    exact (le_div_iff₀ power).mpr (by exact_mod_cast large)

theorem ofRatio?_nearest (negative : Bool) (numerator denominator : ℕ) (nonzero : 0 < numerator)
    (positive : 0 < denominator) (x : Binary64)
    (rounded : ofRatio? negative numerator denominator = some x) :
    x.negative = negative ∧ x.InFormat ∧ ∀ y : Binary64, y.InFormat ->
      |x.magnitude - numerator / denominator| ≤ |y.magnitude - numerator / denominator| := by
  have fits := exponentFor_fits numerator denominator nonzero positive
  obtain ⟨above, divisor, exponent, chosen, parts, found⟩ :=
    ofRatio?_rounded negative numerator denominator nonzero
  rw [← chosen] at fits
  obtain ⟨below, ratio⟩ := scaled_ratio numerator positive exponent
  rw [parts] at below ratio
  dsimp only at below ratio
  rw [rounded] at found
  obtain ⟨greatest, normal⟩ := fits.significand_bounds above divisor below ratio
  have least := fits.least
  have nearest := grid_nearest fits (divideToEven above divisor)
    (by simpa only [ratio] using divideToEven_nearest above below)
  split at found
  next carry =>
    obtain ⟨reached, made⟩ := Option.ite_none_left_eq_some.mp found.symm
    cases made
    refine ⟨rfl, ⟨by norm_num, by dsimp only; omega, not_lt.mp reached, .inr le_rfl⟩, ?_⟩
    have same : magnitude ⟨negative, 2 ^ 52, exponent + 1⟩ =
        (divideToEven above divisor : ℚ) * 2 ^ exponent := by
      rw [carry, magnitude, two_zpow_add]
      push_cast
      ring
    rwa [same]
  next carry =>
    obtain ⟨reached, made⟩ := Option.ite_none_left_eq_some.mp found.symm
    cases made
    exact ⟨rfl, ⟨lt_of_le_of_ne greatest carry, least, not_lt.mp reached, normal⟩, nearest⟩

theorem ofRatio?_inFormat (negative : Bool) (numerator denominator : ℕ) (positive : 0 < denominator)
    (x : Binary64) (rounded : ofRatio? negative numerator denominator = some x) : x.InFormat := by
  rcases Nat.eq_zero_or_pos numerator with rfl | nonzero
  · cases rounded
    exact zero_inFormat negative
  · exact (ofRatio?_nearest negative numerator denominator nonzero positive x rounded).2.1

/-- The number is as near to a rational as any number of the format. -/
structure Nearest (value : ℚ) (x : Binary64) : Prop where
  inFormat : x.InFormat
  nearest : ∀ y : Binary64, y.InFormat -> |x.toRat - value| ≤ |y.toRat - value|

theorem abs_ratio (value : ℚ) : (value.num.natAbs : ℚ) / value.den = |value| := by
  rw [Nat.cast_natAbs, Int.cast_abs]
  conv_rhs => rw [← Rat.num_div_den value, abs_div, Nat.abs_cast]

theorem ofRat?_nearest (value : ℚ) (x : Binary64) (rounded : ofRat? value = some x) :
    Nearest value x := by
  refine ⟨ofRatio?_inFormat _ _ _ value.den_pos x rounded, fun y inFormat => ?_⟩
  by_cases zero : value = 0
  next =>
    subst zero
    cases rounded
    simp [toRat, Binary64.zero]
  next =>
    have nonzero : 0 < value.num.natAbs := Int.natAbs_pos.mpr (Rat.num_ne_zero.mpr zero)
    obtain ⟨sign, _, nearest⟩ :=
      ofRatio?_nearest _ value.num.natAbs value.den nonzero value.den_pos x rounded
    -- A number with the sign of the value is as far from it as without the sign.
    have signed : |x.toRat - value| = abs (x.magnitude - |value|) := by
      by_cases negative : value < 0
      next =>
        rw [x.toRat_negative (sign.trans (by simpa using negative)), abs_of_neg negative,
          abs_sub_comm, sub_neg_eq_add, sub_neg_eq_add, add_comm]
      next =>
        rw [x.toRat_positive (sign.trans (by simpa using negative)),
          abs_of_nonneg (not_lt.mp negative)]
    calc |x.toRat - value| = abs (x.magnitude - |value|) := signed
      _ ≤ abs (y.magnitude - |value|) := by simpa only [abs_ratio] using nearest y inFormat
      _ = abs (|y.toRat| - |value|) := by rw [y.abs_toRat]
      _ ≤ |y.toRat - value| := abs_abs_sub_abs_le _ _

section Nearest

variable {left right : ℚ} {x y : Binary64}

theorem Nearest.monotone (first : Nearest left x) (second : Nearest right y)
    (before : left < right) : x.toRat ≤ y.toRat := by
  by_contra crossed
  -- The middle between the two numbers is neither above the left rational nor below the right one.
  have crossed := not_le.mp crossed
  have low : x.toRat + y.toRat ≤ 2 * left := by
    by_contra above
    have farther : |y.toRat - left| < x.toRat - left := abs_lt.mpr ⟨by linarith, by linarith⟩
    exact absurd (first.nearest y second.inFormat)
      (not_le.mpr (farther.trans_le (le_abs_self _)))
  have high : 2 * right ≤ x.toRat + y.toRat := by
    by_contra below
    have farther : |x.toRat - right| < -(y.toRat - right) :=
      abs_lt.mpr ⟨by linarith, by linarith⟩
    exact absurd (second.nearest x first.inFormat)
      (not_le.mpr (farther.trans_le (neg_le_abs _)))
  linarith

end Nearest

theorem ofRat?_monotone {left right : ℚ} {x y : Binary64} (le : left ≤ right)
    (first : ofRat? left = some x) (second : ofRat? right = some y) : x.toRat ≤ y.toRat := by
  rcases le.lt_or_eq with before | rfl
  · exact (ofRat?_nearest left x first).monotone (ofRat?_nearest right y second) before
  · rw [first] at second
    rw [Option.some.inj second]

theorem ofRat?_available (value : ℚ) (small : |value| < 2 ^ (1023 : ℤ)) :
    ∃ x, ofRat? value = some x := by
  by_cases zero : value = 0
  next =>
    subst zero
    exact ⟨_, rfl⟩
  next =>
    have nonzero : 0 < value.num.natAbs := Int.natAbs_pos.mpr (Rat.num_ne_zero.mpr zero)
    have fits := exponentFor_fits value.num.natAbs value.den nonzero value.den_pos
    obtain ⟨above, below, exponent, chosen, _, found⟩ :=
      ofRatio?_rounded (decide (value.num < 0)) value.num.natAbs value.den nonzero
    rw [← chosen, abs_ratio] at fits
    have room : exponent + 1 ≤ maxExponent := by
      unfold maxExponent
      rcases fits.normal with least | large
      · rw [least]
        decide
      · have power := (zpow_lt_zpow_iff_right₀ (one_lt_two (α := ℚ))).mp (large.trans_lt small)
        omega
    unfold ofRat?
    rw [found, if_neg (not_lt.mpr room), if_neg (show ¬ maxExponent < exponent by omega)]
    split <;> exact ⟨_, rfl⟩

theorem InFormat.below_one {x : Binary64} (inFormat : x.InFormat) (below : x.toRat < 1) :
    x.toRat ≤ 1 - 1 / 2 ^ 53 := by
  rcases lt_or_ge x.toRat 0 with negative | nonneg
  · norm_num
    linarith
  · have unsigned : x.toRat = x.magnitude := by rw [← x.abs_toRat, abs_of_nonneg nonneg]
    rw [unsigned] at below ⊢
    by_cases multiple : -53 ≤ x.exponent
    next =>
      obtain ⟨factor, onGrid⟩ := x.magnitude_multiple (-53) multiple
      have step : (2 : ℚ) ^ (-53 : ℤ) = 1 / 2 ^ 53 := by norm_num
      rw [onGrid, step, mul_one_div, div_lt_one (by positivity)] at below
      have below : factor + 1 ≤ 2 ^ 53 := by exact_mod_cast below
      have below : (factor : ℚ) + 1 ≤ 2 ^ 53 := by exact_mod_cast below
      rw [onGrid, step, mul_one_div, div_le_iff₀ (by positivity)]
      linarith
    next =>
      have small : x.magnitude < 2 ^ (-1 : ℤ) :=
        inFormat.magnitude_lt.trans_le (two_zpow_le (by omega))
      norm_num at small ⊢
      linarith

theorem InFormat.coarse_or_small {x : Binary64} (inFormat : x.InFormat) :
    (∃ units : ℤ, x.toRat = units / 2 ^ 52) ∨ |x.toRat| < 1 := by
  rw [x.abs_toRat]
  by_cases multiple : -52 ≤ x.exponent
  next =>
    obtain ⟨units, same⟩ := x.magnitude_multiple (-52) multiple
    have same : x.magnitude = units / 2 ^ 52 := by
      rw [same]
      norm_num
      ring
    left
    cases sign : x.negative with
    | false => exact ⟨units, by rw [x.toRat_positive sign, same, Int.cast_natCast]⟩
    | true =>
      refine ⟨-units, ?_⟩
      rw [x.toRat_negative sign, same]
      push_cast
      ring
  next =>
    have small := inFormat.magnitude_lt.trans_le
      (two_zpow_le (show x.exponent + 53 ≤ 0 by omega))
    exact .inr (by simpa using small)

end RelyingParty.Binary64
