import RelyingParty.Json.Number

set_option autoImplicit false

namespace RelyingParty

structure Date where
  year : Int
  month : Nat
  day : Nat
  deriving Repr, DecidableEq

namespace Date

/--
The date a number of days after the first of January 1970. Years are counted from March, so that the
day that leap years add comes last; 400 of them have 146097 days.
-/
def ofDays (days : Int) : Date :=
  let shifted := days + 719468
  let cycle := shifted.fdiv 146097
  let dayOfCycle := (shifted.fmod 146097).toNat
  let yearOfCycle :=
    (dayOfCycle - dayOfCycle / 1460 + dayOfCycle / 36524 - dayOfCycle / 146096) / 365
  let dayOfYear := dayOfCycle - (365 * yearOfCycle + yearOfCycle / 4 - yearOfCycle / 100)
  let marchMonth := (5 * dayOfYear + 2) / 153
  let day := dayOfYear - (153 * marchMonth + 2) / 5 + 1
  let month := if marchMonth < 10 then marchMonth + 3 else marchMonth - 9
  ⟨cycle * 400 + yearOfCycle + (if month ≤ 2 then 1 else 0), month, day⟩

def padded (width value : Nat) : String :=
  let digits := toString value
  "".pushn '0' (width - digits.length) ++ digits

def yearText (year : Int) : String :=
  if 0 ≤ year ∧ year ≤ 9999 then padded 4 year.toNat
  else (if year < 0 then "-" else "+") ++ padded 4 year.natAbs

def text (date : Date) : String :=
  yearText date.year ++ "-" ++ padded 2 date.month ++ "-" ++ padded 2 date.day

end Date

structure Duration where
  nanoseconds : Int
  deriving Repr, DecidableEq

namespace Duration

def second : Int := 1000000000

def of (seconds nanoseconds : Int) : Duration := ⟨seconds * second + nanoseconds⟩

def zero : Duration := ⟨0⟩

def seconds (d : Duration) : Int := d.nanoseconds.fdiv second

def fraction (d : Duration) : Int := d.nanoseconds.fmod second

end Duration

structure Instant where
  seconds : Int
  nanoseconds : Nat
  deriving Repr, DecidableEq

namespace Instant

def firstSecond : Int := -8334601228800

def lastSecond : Int := 8210266876799

def perSecond : Nat := 1000000000

/--
Seconds and nanoseconds as a point in time. 10^9 nanoseconds or more make a leap second, which only
the last second of a minute has.
-/
def of? (seconds : Int) (nanoseconds : Nat) : Option Instant :=
  if firstSecond ≤ seconds ∧ seconds ≤ lastSecond ∧
      (nanoseconds < perSecond ∨ (nanoseconds < 2 * perSecond ∧ seconds % 60 = 59)) then
    some ⟨seconds, nanoseconds⟩
  else none

def toInt64 (value : Int) : Int :=
  max (-(Nat.pow 2 63 : Nat)) (min value ((Nat.pow 2 63 : Nat) - 1))

def toUInt32 (value : Int) : Nat := min value.toNat (Nat.pow 2 32 - 1)

def ofBinary64? (value : Binary64) : Option Instant := do
  let seconds := value.toRat.floor
  let fraction ← Binary64.ofRat? (value.toRat - seconds)
  let nanoseconds ← Binary64.ofRat? (fraction.toRat * perSecond)
  -- The casts saturate, and what they cut off lies outside the calendar anyway.
  of? (toInt64 seconds) (toUInt32 nanoseconds.toRat.floor)

def ofNumber? : Json.Number -> Option Instant
  | .int value =>
    if -(Nat.pow 2 63 : Nat) ≤ value ∧ value < (Nat.pow 2 63 : Nat) then of? value 0
    else do ofBinary64? (← Binary64.ofInt? value)
  | .float value => ofBinary64? value

def before (left right : Instant) : Bool :=
  decide (left.seconds < right.seconds) ||
    (left.seconds == right.seconds && decide (left.nanoseconds < right.nanoseconds))

def ofNanoseconds? (total : Int) : Option Instant :=
  of? (total.fdiv perSecond) (total.fmod perSecond).toNat

/--
The point in time a duration later, if the calendar reaches it. From within a leap second a duration
of less than a second may stay within it; any other leaves it, forwards as if the leap second were
the one before and backwards as if it were the one after.
-/
def add? (instant : Instant) (duration : Duration) : Option Instant :=
  let added := duration.nanoseconds
  let whole := added.tdiv Duration.second
  let part := added.tmod Duration.second
  let nanoseconds : Int := instant.nanoseconds
  let total := instant.seconds * perSecond + nanoseconds + added
  if instant.nanoseconds < perSecond then ofNanoseconds? total
  else if 0 < whole ∨ (0 < part ∧ 2 * (perSecond : Int) - part ≤ nanoseconds) then
    ofNanoseconds? (total - perSecond)
  else if whole < 0 then ofNanoseconds? total
  else some ⟨instant.seconds, (nanoseconds + part).toNat⟩

def fractionText (nanoseconds : Nat) : String :=
  if nanoseconds = 0 then ""
  else if nanoseconds % 1000000 = 0 then "." ++ Date.padded 3 (nanoseconds / 1000000)
  else if nanoseconds % 1000 = 0 then "." ++ Date.padded 6 (nanoseconds / 1000)
  else "." ++ Date.padded 9 nanoseconds

def text (instant : Instant) : String :=
  let timeOfDay := (instant.seconds.fmod 86400).toNat
  let leap := instant.nanoseconds / perSecond
  (Date.ofDays (instant.seconds.fdiv 86400)).text ++ " " ++
    Date.padded 2 (timeOfDay / 3600) ++ ":" ++ Date.padded 2 (timeOfDay / 60 % 60) ++ ":" ++
    Date.padded 2 (timeOfDay % 60 + leap) ++
    fractionText (instant.nanoseconds % perSecond) ++ " UTC"

end Instant

end RelyingParty
