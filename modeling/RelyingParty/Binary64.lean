set_option autoImplicit false

namespace RelyingParty

structure Binary64 where
  negative : Bool
  significand : Nat
  exponent : Int
  deriving Repr, DecidableEq

namespace Binary64

def minExponent : Int := -1074

def maxExponent : Int := 971

def twoPow : Int -> Rat
  | .ofNat power => ((Nat.pow 2 power : Nat) : Rat)
  | .negSucc power => 1 / ((Nat.pow 2 (power + 1) : Nat) : Rat)

def toRat (x : Binary64) : Rat :=
  (if x.negative then -(x.significand : Rat) else (x.significand : Rat)) * twoPow x.exponent

def zero (negative : Bool) : Binary64 := ⟨negative, 0, minExponent⟩

def divideToEven (numerator denominator : Nat) : Nat :=
  let quotient := numerator / denominator
  let twice := 2 * (numerator % denominator)
  if twice < denominator then quotient
  else if denominator < twice then quotient + 1
  else if quotient % 2 = 0 then quotient
  else quotient + 1

def scaled (numerator denominator : Nat) : Int -> Nat × Nat
  | .ofNat power => (numerator, denominator * Nat.pow 2 power)
  | .negSucc power => (numerator * Nat.pow 2 (power + 1), denominator)

/-- The exponent at which a positive ratio has a significand of 53 bits, if the format has it. -/
def exponentFor (numerator denominator : Nat) : Int :=
  let guess : Int := (numerator.log2 : Int) - (denominator.log2 : Int) - 52
  let (above, below) := scaled numerator denominator guess
  max minExponent (if above < below * Nat.pow 2 52 then guess - 1 else guess)

def ofRatio? (negative : Bool) (numerator denominator : Nat) : Option Binary64 :=
  if numerator = 0 then some (zero negative)
  else
    let exponent := exponentFor numerator denominator
    let (above, below) := scaled numerator denominator exponent
    let significand := divideToEven above below
    -- Rounding up may reach the next power of two.
    let (significand, exponent) :=
      if significand = Nat.pow 2 53 then (Nat.pow 2 52, exponent + 1) else (significand, exponent)
    if maxExponent < exponent then none else some ⟨negative, significand, exponent⟩

def ofRat? (q : Rat) : Option Binary64 := ofRatio? (decide (q.num < 0)) q.num.natAbs q.den

def mul? (x y : Binary64) : Option Binary64 := ofRat? (x.toRat * y.toRat)

def div? (x y : Binary64) : Option Binary64 := ofRat? (x.toRat / y.toRat)

def ofInt? (i : Int) : Option Binary64 := ofRat? i

def toBits (x : Binary64) : Nat :=
  let sign := if x.negative then Nat.pow 2 63 else 0
  if x.significand < Nat.pow 2 52 then sign + x.significand
  else sign + (x.exponent + 1075).toNat * Nat.pow 2 52 + (x.significand - Nat.pow 2 52)

end Binary64

end RelyingParty
