import RelyingParty.Binary64

set_option autoImplicit false

namespace RelyingParty.Json

inductive Number
  | int (value : Int)
  | float (value : Binary64)
  deriving Repr, DecidableEq

def Number.toRat : Number -> Rat
  | .int value => (value : Rat)
  | .float value => value.toRat

/-- The part of a numeral that has been read. The digits are one significand of 64 bits, without
those that no longer fit, and `scale` is the power of ten that goes with it. -/
structure Numeral where
  negative : Bool
  significand : Nat
  fits : significand < Nat.pow 2 64
  scale : Int
  full : Bool
  integral : Bool
  exponent : Bool × Nat
  deriving Repr, DecidableEq

namespace Numeral

def start (negative : Bool) : Numeral :=
  ⟨negative, 0, Nat.pow_pos (by decide), 0, false, true, false, 0⟩

def push? (n : Numeral) (digit : Nat) : Option Numeral :=
  if n.full then none
  else if fits : 10 * n.significand + digit < Nat.pow 2 64 then
    some { n with significand := 10 * n.significand + digit, fits }
  else none

def addWhole (n : Numeral) (digit : Nat) : Numeral :=
  match n.push? digit with
  | some pushed => pushed
  | none => { n with scale := n.scale + 1, full := true, integral := false }

/-- Begins the fraction, whose digits are tried again even if digits before it were left out. -/
def point (n : Numeral) : Numeral := { n with full := false, integral := false }

def addFraction (n : Numeral) (digit : Nat) : Numeral :=
  match n.push? digit with
  | some pushed => { pushed with scale := n.scale - 1 }
  | none => { n with full := true }

def mark (n : Numeral) : Numeral := { n with integral := false }

def addPower (n : Numeral) (digit : Nat) : Numeral :=
  { n with exponent := (n.exponent.1, 10 * n.exponent.2 + digit) }

def powerOfTen? (power : Nat) : Option Binary64 := Binary64.ofInt? (Nat.pow 10 power : Nat)

def divideBy? (f : Binary64) (power : Nat) : Option Binary64 := do f.div? (← powerOfTen? power)

def shrink? (f : Binary64) : Nat -> Option Binary64
  | 0 => some f
  | times + 1 =>
    if f.significand = 0 then some f
    else do
      -- Greater powers of ten than this one are not in the format.
      let smaller ← divideBy? f 308
      shrink? smaller times

/-- The significand is rounded first, then its product or quotient with a power of ten; none if it
is too large. -/
def fromParts? (significand : Nat) (exponent : Int) : Option Binary64 := do
  let f ← Binary64.ofInt? significand
  match exponent with
  | .ofNat power =>
    if power ≤ 308 then do f.mul? (← powerOfTen? power)
    else if f.significand = 0 then some f
    else none
  | .negSucc power => do divideBy? (← shrink? f (power / 308)) (power % 308 + 1)

def float? (n : Numeral) : Option Binary64 :=
  let written : Int := if n.exponent.1 then -(n.exponent.2 : Int) else n.exponent.2
  (fromParts? n.significand (n.scale + written)).map fun f => { f with negative := n.negative }

def number? (n : Numeral) : Option Number :=
  let value : Int := if n.negative then -(n.significand : Int) else n.significand
  -- There is no negative zero among the integers.
  if n.integral && !(n.negative && n.significand == 0) &&
      decide (-(Nat.pow 2 63 : Nat) ≤ value) then
    some (.int value)
  else n.float?.map .float

end Numeral

end RelyingParty.Json
