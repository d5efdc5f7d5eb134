import Mathlib.Algebra.Order.Floor.Ring
import Mathlib.Data.Rat.Floor
import RelyingParty.Proofs.Binary64
import RelyingParty.Proofs.Json.Number
import RelyingParty.Proofs.Time.Instant

set_option autoImplicit false

namespace RelyingParty.Instant

def nanosecondsOf? (part : ℚ) : Option ℕ := do
  let fraction ← Binary64.ofRat? part
  let nanoseconds ← Binary64.ofRat? (fraction.toRat * perSecond)
  return nanoseconds.toRat.floor.toNat

theorem nanosecondsOf?_some (part : ℚ) (nanoseconds : ℕ) :
    nanosecondsOf? part = some nanoseconds ↔
      ∃ fraction product, Binary64.ofRat? part = some fraction ∧
        Binary64.ofRat? (fraction.toRat * perSecond) = some product ∧
        product.toRat.floor.toNat = nanoseconds := by
  simp [nanosecondsOf?, Option.bind_eq_some_iff]

theorem nanosecondsOf?_monotone {left right : ℚ} {fewer more : ℕ} (le : left ≤ right)
    (first : nanosecondsOf? left = some fewer) (second : nanosecondsOf? right = some more) :
    fewer ≤ more := by
  obtain ⟨_, _, leftRounded, leftProduct, rfl⟩ := (nanosecondsOf?_some _ _).mp first
  obtain ⟨_, _, rightRounded, rightProduct, rfl⟩ := (nanosecondsOf?_some _ _).mp second
  have fractions := Binary64.ofRat?_monotone le leftRounded rightRounded
  have products := Binary64.ofRat?_monotone
    (mul_le_mul_of_nonneg_right fractions (Nat.cast_nonneg _)) leftProduct rightProduct
  exact Int.toNat_le_toNat (Rat.floor_monotone products)

theorem nanosecondsOf?_zero : nanosecondsOf? 0 = some 0 := by decide +kernel

theorem nanosecondsOf?_one : nanosecondsOf? 1 = some perSecond := by decide +kernel

theorem nanosecondsOf?_tie : nanosecondsOf? (1 - 1 / 2 ^ 54) = some perSecond := by decide +kernel

theorem nanosecondsOf?_bounded {part : ℚ} {nanoseconds : ℕ} (below : part < 1)
    (rounded : nanosecondsOf? part = some nanoseconds) : nanoseconds ≤ perSecond :=
  nanosecondsOf?_monotone below.le rounded nanosecondsOf?_one

theorem fraction_bounds {part : ℚ} {fraction : Binary64} (nonneg : 0 ≤ part) (below : part < 1)
    (rounded : Binary64.ofRat? part = some fraction) :
    0 ≤ fraction.toRat ∧ fraction.toRat ≤ 1 := by
  have zero : Binary64.ofRat? 0 = some (.zero false) := by decide +kernel
  have one : Binary64.ofRat? 1 = some ⟨false, 2 ^ 52, -52⟩ := by decide +kernel
  have low := Binary64.ofRat?_monotone nonneg zero rounded
  have high := Binary64.ofRat?_monotone below.le rounded one
  have zeroRat : (Binary64.zero false).toRat = 0 := by decide +kernel
  have oneRat : (Binary64.mk false (2 ^ 52) (-52)).toRat = 1 := by decide +kernel
  rw [zeroRat] at low
  rw [oneRat] at high
  exact ⟨low, high⟩

theorem nanosecondsOf?_available {part : ℚ} (nonneg : 0 ≤ part) (below : part < 1) :
    ∃ nanoseconds, nanosecondsOf? part = some nanoseconds := by
  have large : (2 : ℚ) ^ (30 : ℤ) ≤ 2 ^ (1023 : ℤ) := Binary64.two_zpow_le (by decide)
  have room : (perSecond : ℚ) < 2 ^ (30 : ℤ) := by norm_num [perSecond]
  obtain ⟨fraction, rounded⟩ := Binary64.ofRat?_available part <| by
    rw [abs_of_nonneg nonneg]
    exact below.trans_le ((by norm_num : (1 : ℚ) ≤ 2 ^ (30 : ℤ)).trans large)
  obtain ⟨low, high⟩ := fraction_bounds nonneg below rounded
  obtain ⟨product, scaled⟩ := Binary64.ofRat?_available (fraction.toRat * perSecond) <| by
    rw [abs_of_nonneg (mul_nonneg low (Nat.cast_nonneg _))]
    exact ((mul_le_of_le_one_left (Nat.cast_nonneg _) high).trans_lt room).trans_le large
  exact ⟨_, (nanosecondsOf?_some _ _).mpr ⟨fraction, product, rounded, scaled, rfl⟩⟩

theorem fraction_below_one {part : ℚ} {fraction : Binary64} (small : part < 1 - 1 / 2 ^ 54)
    (rounded : Binary64.ofRat? part = some fraction) : fraction.toRat ≤ 1 - 1 / 2 ^ 53 := by
  have nearest := Binary64.ofRat?_nearest part fraction rounded
  refine nearest.inFormat.below_one (not_le.mp fun reached => ?_)
  -- The greatest number below one is nearer than one is.
  have inFormat : (Binary64.mk false (2 ^ 53 - 1) (-53)).InFormat :=
    ⟨by decide, by decide, by decide, .inr (by decide)⟩
  have same : (Binary64.mk false (2 ^ 53 - 1) (-53)).toRat = 1 - 1 / 2 ^ 53 := by decide +kernel
  have distance := nearest.nearest _ inFormat
  rw [same] at distance
  have nearer : |1 - 1 / 2 ^ 53 - part| < fraction.toRat - part :=
    abs_lt.mpr ⟨by linarith, by linarith⟩
  exact absurd distance (not_le.mpr (nearer.trans_le (le_abs_self _)))

theorem nanosecondsOf?_full {part : ℚ} {nanoseconds : ℕ} (below : part < 1)
    (rounded : nanosecondsOf? part = some nanoseconds) :
    nanoseconds = perSecond ↔ 1 - 1 / 2 ^ 54 ≤ part := by
  constructor
  next =>
    rintro rfl
    by_contra small
    obtain ⟨fraction, product, found, scaled, full⟩ := (nanosecondsOf?_some _ _).mp rounded
    have least := fraction_below_one (not_le.mp small) found
    -- The product is rounded as well, but not up to the whole second.
    have most : Binary64.ofRat? ((1 - 1 / 2 ^ 53) * perSecond) =
        some ⟨false, 8388608000000000 - 1, -23⟩ := by decide +kernel
    have products := Binary64.ofRat?_monotone
      (mul_le_mul_of_nonneg_right least (Nat.cast_nonneg _)) scaled most
    have floors := Int.toNat_le_toNat (Rat.floor_monotone products)
    have last : (Binary64.mk false (8388608000000000 - 1) (-23)).toRat.floor.toNat = 999999999 := by
      decide +kernel
    rw [full, last] at floors
    exact absurd floors (by decide)
  next =>
    intro large
    exact Nat.le_antisymm (nanosecondsOf?_bounded below rounded)
      (nanosecondsOf?_monotone large nanosecondsOf?_tie rounded)

theorem ofBinary64?_parts (value : Binary64) :
    ofBinary64? value =
      (nanosecondsOf? (value.toRat - value.toRat.floor)).bind (of? value.toRat.floor) := by
  simp [ofBinary64?, nanosecondsOf?, Option.bind_assoc, of?_saturated]

theorem ofInt?_floor {value : ℤ} {rounded : Binary64} (found : Binary64.ofInt? value = some rounded)
    (large : ¬ (-2 ^ 63 ≤ value ∧ value < 2 ^ 63)) :
    rounded.toRat.floor ≤ -2 ^ 63 ∨ 2 ^ 63 ≤ rounded.toRat.floor := by
  have low : Binary64.ofRat? (-2 ^ 63) = some ⟨true, 2 ^ 52, 11⟩ := by decide +kernel
  have high : Binary64.ofRat? (2 ^ 63) = some ⟨false, 2 ^ 52, 11⟩ := by decide +kernel
  have lowFloor : (Binary64.mk true (2 ^ 52) 11).toRat.floor = -2 ^ 63 := by decide +kernel
  have highFloor : (Binary64.mk false (2 ^ 52) 11).toRat.floor = 2 ^ 63 := by decide +kernel
  by_cases above : 2 ^ 63 ≤ value
  next =>
    have le : (2 ^ 63 : ℚ) ≤ value := by exact_mod_cast above
    have floors := Rat.floor_monotone (Binary64.ofRat?_monotone le high found)
    exact .inr (highFloor ▸ floors)
  next =>
    have le : (value : ℚ) ≤ -2 ^ 63 := by exact_mod_cast (show value ≤ -2 ^ 63 by omega)
    have floors := Rat.floor_monotone (Binary64.ofRat?_monotone le found low)
    exact .inl (lowFloor ▸ floors)

/-- An integer beyond 64 bits with a sign is rounded first, but the calendar does not reach it. -/
theorem ofNumber?_int (value : ℤ) : ofNumber? (.int value) = of? value 0 := by
  by_cases small : -2 ^ 63 ≤ value ∧ value < 2 ^ 63
  next => exact if_pos small
  next =>
    have large : ofNumber? (.int value) = (Binary64.ofInt? value).bind ofBinary64? := if_neg small
    rw [large, of?_unreached value 0, Option.bind_eq_none_iff]
    · intro rounded found
      have far := ofInt?_floor found small
      rw [ofBinary64?_parts, Option.bind_eq_none_iff]
      intro nanoseconds _
      refine of?_unreached _ _ ?_
      simp only [firstSecond, lastSecond]
      omega
    · simp only [firstSecond, lastSecond]
      omega

theorem ofNumber?_parts (number : Json.Number) :
    ofNumber? number =
      (nanosecondsOf? (number.toRat - number.toRat.floor)).bind (of? number.toRat.floor) := by
  cases number with
  | int value =>
    -- Nothing is left of an integer, so that the rounding has nothing to do.
    have floor : (value : ℚ).floor = value := Rat.floor_intCast value
    rw [Json.Number.toRat, floor, sub_self, nanosecondsOf?_zero, Option.bind_some, ofNumber?_int]
  | float value => exact ofBinary64?_parts value

theorem part_nonneg (value : ℚ) : 0 ≤ value - value.floor := by
  have floor := Rat.floor_le (a := value)
  linarith

theorem part_below (value : ℚ) : value - value.floor < 1 := by
  have floor := Rat.lt_floor_add_one (a := value)
  push_cast at floor
  linarith

theorem coarse_part (units : ℤ) (value : ℚ) (coarse : value = units / 2 ^ 52) :
    value - value.floor < 1 - 1 / 2 ^ 54 ∧ ¬ (-(1 / 2 ^ 54) ≤ value ∧ value < 0) := by
  have unit : (units : ℚ) = value * 2 ^ 52 := by
    rw [coarse]
    norm_num
  constructor
  next =>
    -- Below the next second there is room for one more unit.
    have below : units < (value.floor + 1) * 2 ^ 52 := by
      have floor := Rat.lt_floor_add_one (a := value)
      have scaled : (units : ℚ) < (value.floor + 1) * 2 ^ 52 := by
        push_cast at floor
        rw [unit]
        linarith
      exact_mod_cast scaled
    have below : units + 1 ≤ (value.floor + 1) * 2 ^ 52 := below
    have below : (units : ℚ) + 1 ≤ (value.floor + 1) * 2 ^ 52 := by exact_mod_cast below
    linarith
  next =>
    rintro ⟨above, negative⟩
    have negative : units < 0 := by
      have scaled : (units : ℚ) < 0 := by linarith
      exact_mod_cast scaled
    have negative : (units : ℚ) ≤ -1 := by exact_mod_cast Int.le_sub_one_of_lt negative
    linarith

theorem floor_negative {value : ℚ} (low : -1 ≤ value) (negative : value < 0) :
    value.floor = -1 := by
  refine (Int.floor_eq_iff (a := value)).mpr ⟨?_, ?_⟩
  · push_cast
    exact low
  · push_cast
    linarith

theorem small_part (value : Binary64) (inFormat : value.InFormat) (small : |value.toRat| < 1) :
    1 - 1 / 2 ^ 54 ≤ value.toRat - value.toRat.floor ↔
      -(1 / 2 ^ 54) ≤ value.toRat ∧ value.toRat < 0 := by
  obtain ⟨low, high⟩ := abs_lt.mp small
  rcases lt_or_ge value.toRat 0 with negative | nonneg
  next =>
    rw [floor_negative low.le negative]
    push_cast
    constructor
    · exact fun part => ⟨by linarith, negative⟩
    · exact fun range => by linarith [range.1]
  next =>
    have floor : value.toRat.floor = 0 :=
      (Int.floor_eq_iff (a := value.toRat)).mpr ⟨by simpa, by simpa⟩
    -- The format ends 2^-53 below one, and no more than 2^-54 is rounded up.
    have most := inFormat.below_one high
    rw [floor]
    refine iff_of_false (fun part => ?_) fun range => not_le.mpr range.2 nonneg
    push_cast at part
    linarith

theorem part_full (number : Json.Number) (held : number.Held) :
    1 - 1 / 2 ^ 54 ≤ number.toRat - number.toRat.floor ↔
      -(1 / 2 ^ 54) ≤ number.toRat ∧ number.toRat < 0 := by
  cases number with
  | int value =>
    have coarse : (value : ℚ) = (value * 2 ^ 52 : ℤ) / 2 ^ 52 := by
      push_cast
      ring
    obtain ⟨part, range⟩ := coarse_part _ _ coarse
    exact iff_of_false (not_le.mpr part) range
  | float value =>
    rcases Binary64.InFormat.coarse_or_small held with ⟨units, coarse⟩ | small
    · obtain ⟨part, range⟩ := coarse_part units _ coarse
      exact iff_of_false (not_le.mpr part) range
    · exact small_part value held small

theorem ofNumber?_made (number : Json.Number) (instant : Instant)
    (named : ofNumber? number = some instant) :
    instant.seconds = number.toRat.floor ∧
      nanosecondsOf? (number.toRat - number.toRat.floor) = some instant.nanoseconds := by
  rw [ofNumber?_parts] at named
  obtain ⟨nanoseconds, rounded, made⟩ := Option.bind_eq_some_iff.mp named
  obtain ⟨rfl, _⟩ := of?_some _ _ instant made
  exact ⟨rfl, rounded⟩

/-- The second is exact, and only just before the first second of 1970 it is filled. -/
structure Converts (number : Json.Number) (instant : Instant) : Prop where
  seconds : instant.seconds = number.toRat.floor
  whole : ∀ value : ℤ, number.toRat = value -> instant.nanoseconds = 0
  bounded : instant.nanoseconds ≤ 1000000000
  full : instant.nanoseconds = 1000000000 ↔ -(1 / 2 ^ 54) ≤ number.toRat ∧ number.toRat < 0

theorem ofNumber?_converts (number : Json.Number) (held : number.Held) (instant : Instant)
    (named : ofNumber? number = some instant) : Converts number instant := by
  obtain ⟨seconds, rounded⟩ := ofNumber?_made number instant named
  have below := part_below number.toRat
  constructor
  case seconds => exact seconds
  case whole =>
    intro value same
    have floor : (value : ℚ).floor = value := Rat.floor_intCast value
    rw [same, floor, sub_self, nanosecondsOf?_zero] at rounded
    exact (Option.some.inj rounded).symm
  case bounded => exact nanosecondsOf?_bounded below rounded
  case full => exact (nanosecondsOf?_full below rounded).trans (part_full number held)

theorem ofNumber?_reached (number : Json.Number) (held : number.Held) :
    (∃ instant, ofNumber? number = some instant) ↔
      firstSecond ≤ number.toRat.floor ∧ number.toRat.floor ≤ lastSecond := by
  constructor
  next =>
    rintro ⟨instant, named⟩
    rw [← (ofNumber?_made number instant named).1]
    exact ofNumber?_some number instant named
  next =>
    rintro ⟨first, last⟩
    have below := part_below number.toRat
    obtain ⟨nanoseconds, rounded⟩ := nanosecondsOf?_available (part_nonneg number.toRat) below
    refine ⟨⟨number.toRat.floor, nanoseconds⟩, ?_⟩
    rw [ofNumber?_parts, rounded, Option.bind_some]
    refine if_pos ⟨first, last, ?_⟩
    rcases (nanosecondsOf?_bounded below rounded).lt_or_eq with fewer | full
    · exact .inl fewer
    · -- A full second is the one before 1970, and that is the last one of a minute.
      obtain ⟨above, negative⟩ :=
        (part_full number held).mp ((nanosecondsOf?_full below rounded).mp full)
      rw [floor_negative (by linarith) negative, full]
      exact .inr ⟨by decide, by decide⟩

theorem ofNumber?_monotone (left right : Json.Number) (earlier later : Instant)
    (le : left.toRat ≤ right.toRat) (first : ofNumber? left = some earlier)
    (second : ofNumber? right = some later) : later.before earlier = false := by
  obtain ⟨leftSeconds, leftRounded⟩ := ofNumber?_made left earlier first
  obtain ⟨rightSeconds, rightRounded⟩ := ofNumber?_made right later second
  have seconds : earlier.seconds ≤ later.seconds := by
    rw [leftSeconds, rightSeconds]
    exact Rat.floor_monotone le
  have nanoseconds (same : earlier.seconds = later.seconds) :
      earlier.nanoseconds ≤ later.nanoseconds := by
    rw [leftSeconds, rightSeconds] at same
    rw [same] at leftRounded
    exact nanosecondsOf?_monotone (sub_le_sub_right le _) leftRounded rightRounded
  simp only [before, Bool.or_eq_false_iff, Bool.and_eq_false_imp, decide_eq_false_iff_not,
    beq_iff_eq]
  omega

end RelyingParty.Instant
