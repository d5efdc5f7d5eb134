import RelyingParty.Time

set_option autoImplicit false

namespace RelyingParty.Instant

/-- Nanoseconds since 1970, without those of leap seconds. -/
def total (instant : Instant) : Int := instant.seconds * perSecond + instant.nanoseconds

def Reached (total : Int) : Prop :=
  firstSecond * perSecond ≤ total ∧ total < (lastSecond + 1) * perSecond

/-- A point in time of the calendar that is not within a leap second. -/
structure Ordinary (instant : Instant) : Prop where
  first : firstSecond ≤ instant.seconds
  last : instant.seconds ≤ lastSecond
  nanoseconds : instant.nanoseconds < perSecond

theorem Ordinary.reached {instant : Instant} (ordinary : instant.Ordinary) :
    Reached instant.total := by
  obtain ⟨first, last, nanoseconds⟩ := ordinary
  simp only [Reached, total, perSecond] at *
  omega

theorem before_total (left right : Instant) (ordinary : left.Ordinary)
    (otherOrdinary : right.Ordinary) : left.before right = true ↔ left.total < right.total := by
  have nanoseconds := ordinary.nanoseconds
  have others := otherOrdinary.nanoseconds
  simp only [before, total, perSecond, Bool.or_eq_true, Bool.and_eq_true, decide_eq_true_eq,
    beq_iff_eq] at *
  omega

theorem of?_some (seconds : Int) (nanoseconds : Nat) (instant : Instant)
    (made : of? seconds nanoseconds = some instant) :
    instant = ⟨seconds, nanoseconds⟩ ∧ firstSecond ≤ seconds ∧ seconds ≤ lastSecond := by
  unfold of? at made
  split at made
  next reached =>
    cases made
    exact ⟨rfl, reached.1, reached.2.1⟩
  next => cases made

theorem ofBinary64?_some (value : Binary64) (instant : Instant)
    (named : ofBinary64? value = some instant) :
    firstSecond ≤ instant.seconds ∧ instant.seconds ≤ lastSecond := by
  obtain ⟨fraction, _, named⟩ := Option.bind_eq_some_iff.mp named
  obtain ⟨nanoseconds, _, named⟩ := Option.bind_eq_some_iff.mp named
  obtain ⟨rfl, reached⟩ := of?_some _ _ instant named
  exact reached

theorem of?_unreached (seconds : Int) (nanoseconds : Nat)
    (unreached : ¬ (firstSecond ≤ seconds ∧ seconds ≤ lastSecond ∧ nanoseconds < 2 * perSecond)) :
    of? seconds nanoseconds = none := by
  refine if_neg fun reached => unreached ⟨reached.1, reached.2.1, ?_⟩
  simp only [perSecond] at reached ⊢
  omega

theorem toInt64_eq (value : Int) :
    toInt64 value = max (-9223372036854775808) (min value 9223372036854775807) := rfl

theorem toUInt32_eq (value : Int) : toUInt32 value = min value.toNat 4294967295 := rfl

theorem of?_saturated (seconds nanoseconds : Int) :
    of? (toInt64 seconds) (toUInt32 nanoseconds) = of? seconds nanoseconds.toNat := by
  have cast := toInt64_eq seconds
  have castUnsigned := toUInt32_eq nanoseconds
  by_cases reached : firstSecond ≤ seconds ∧ seconds ≤ lastSecond ∧
      nanoseconds.toNat < 2 * perSecond
  next =>
    simp only [firstSecond, lastSecond, perSecond] at reached
    rw [show toInt64 seconds = seconds by omega,
      show toUInt32 nanoseconds = nanoseconds.toNat by omega]
  next =>
    rw [of?_unreached seconds _ reached, of?_unreached]
    simp only [firstSecond, lastSecond, perSecond] at *
    omega

theorem ofNumber?_some (number : Json.Number) (instant : Instant)
    (named : ofNumber? number = some instant) :
    firstSecond ≤ instant.seconds ∧ instant.seconds ≤ lastSecond := by
  cases number with
  | int value =>
    rw [ofNumber?] at named
    split at named
    next =>
      obtain ⟨rfl, reached⟩ := of?_some _ _ instant named
      exact reached
    next =>
      obtain ⟨rounded, _, named⟩ := Option.bind_eq_some_iff.mp named
      exact ofBinary64?_some rounded instant named
  | float value => exact ofBinary64?_some value instant named

theorem ofNanoseconds?_cases (number : Int) :
    (∃ instant, ofNanoseconds? number = some instant ∧ instant.Ordinary ∧
      instant.total = number) ∨ (ofNanoseconds? number = none ∧ ¬ Reached number) := by
  -- Seconds are rounded down, so that the rest is never negative.
  have seconds := Int.fdiv_eq_ediv_of_nonneg number (b := (perSecond : Int)) (by decide)
  have rest := Int.fmod_eq_emod_of_nonneg number (b := (perSecond : Int)) (by decide)
  have fits : (number.fmod perSecond).toNat < perSecond := by
    rw [rest]
    unfold perSecond
    omega
  have whole : number.fdiv perSecond * perSecond + (number.fmod perSecond).toNat = number := by
    rw [seconds, rest]
    unfold perSecond
    omega
  unfold ofNanoseconds? of?
  by_cases reached : firstSecond ≤ number.fdiv perSecond ∧ number.fdiv perSecond ≤ lastSecond
  next =>
    refine .inl ⟨⟨number.fdiv perSecond, (number.fmod perSecond).toNat⟩, ?_, ?_, whole⟩
    · exact if_pos ⟨reached.1, reached.2, .inl fits⟩
    · exact ⟨reached.1, reached.2, fits⟩
  next =>
    refine .inr ⟨if_neg fun inside => reached ⟨inside.1, inside.2.1⟩, fun inside => reached ?_⟩
    simp only [Reached, perSecond] at *
    omega

theorem add?_cases (instant : Instant) (duration : Duration) (ordinary : instant.Ordinary) :
    (∃ sum, instant.add? duration = some sum ∧ sum.Ordinary ∧
      sum.total = instant.total + duration.nanoseconds) ∨
    (instant.add? duration = none ∧ ¬ Reached (instant.total + duration.nanoseconds)) := by
  have added : instant.add? duration =
      ofNanoseconds? (instant.total + duration.nanoseconds) := if_pos ordinary.nanoseconds
  rw [added]
  exact ofNanoseconds?_cases _

end RelyingParty.Instant
