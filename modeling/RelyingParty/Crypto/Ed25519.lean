import RelyingParty.Crypto.Sha2
import RelyingParty.Basic

set_option autoImplicit false

namespace RelyingParty.Ed25519

def prime : Nat := Nat.pow 2 255 - 19

def order : Nat := Nat.pow 2 252 + 27742317777372353535851937790883648493

/-- The constant of the curve equation `y ^ 2 - x ^ 2 = 1 + constant * x ^ 2 * y ^ 2`. -/
def constant : Nat := 37095705934669439343138083508754565189542113879843219016388785533085940283555

def rootOfMinusOne : Nat :=
  19681161376707505956807079304988542015446066515923890162744021073123829784752

/-- The point with coordinates `x / z` and `y / z`; `t` is `x * y / z`. -/
structure Point where
  x : Nat
  y : Nat
  z : Nat
  t : Nat
  deriving Repr, DecidableEq

def Point.neutral : Point := ⟨0, 1, 1, 0⟩

def Point.base : Point :=
  let x := 15112221349535400772501151409588531511454012693041857206046113283949847762202
  let y := 46316835694926478169428394003475163141307993866256225615783033603165251855960
  ⟨x, y, 1, x * y % prime⟩

def Point.add (left right : Point) : Point :=
  let a := Modular.sub left.y left.x prime * Modular.sub right.y right.x prime % prime
  let b := (left.y + left.x) * (right.y + right.x) % prime
  let c := 2 * constant * left.t % prime * right.t % prime
  let d := 2 * left.z * right.z % prime
  let e := Modular.sub b a prime
  let f := Modular.sub d c prime
  let g := (d + c) % prime
  let h := (b + a) % prime
  ⟨e * f % prime, g * h % prime, f * g % prime, e * h % prime⟩

def Point.scale (factor : Nat) (point : Point) : Point :=
  (Modular.bits factor).foldl
    (fun total bit =>
      let twice := total.add total
      if bit then twice.add point else twice)
    .neutral

def Point.neg (point : Point) : Point :=
  ⟨(prime - point.x) % prime, point.y, point.z, (prime - point.t) % prime⟩

def Point.encode (point : Point) : Bytes :=
  let inverse := Modular.inverse point.z prime
  let x := point.x * inverse % prime
  let y := point.y * inverse % prime
  Bytes.ofNatLittle 32 (y + x % 2 * Nat.pow 2 255)

def rootOfRatio? (numerator denominator : Nat) : Option Nat :=
  let cube := denominator * denominator % prime * denominator % prime
  let seventh := cube * cube % prime * denominator % prime
  let root := numerator * cube % prime *
    Modular.pow (numerator * seventh % prime) ((prime - 5) / 8) prime % prime
  let check := denominator * root % prime * root % prime
  let even (r : Nat) : Nat := if r % 2 = 0 then r else prime - r
  if check = numerator then some (even root)
  else if check = (prime - numerator) % prime then some (even (root * rootOfMinusOne % prime))
  else none

/--
The point that 32 bytes encode. The coordinate may be written unreduced, and zero with either sign.
-/
def Point.decode? (bytes : Bytes) : Option Point :=
  let value := Bytes.toNatLittle bytes
  let y := value % Nat.pow 2 255 % prime
  let square := y * y % prime
  (rootOfRatio? (Modular.sub square 1 prime) ((constant * square + 1) % prime)).map fun root =>
    let x := if value / Nat.pow 2 255 = 0 then root else (prime - root) % prime
    ⟨x, y, 1, x * y % prime⟩

def verify (keyBytes : Bytes) (key : Point) (message signature : Bytes) : Bool :=
  let point := signature.take 32
  let scalar := Bytes.toNatLittle (signature.drop 32)
  let challenge :=
    Bytes.toNatLittle (Sha2.sha512.digest (point ++ keyBytes ++ message)) % order
  decide (scalar < order) &&
    ((key.neg.scale challenge).add (Point.base.scale scalar)).encode == point

end RelyingParty.Ed25519
