import RelyingParty.Crypto.Sha2
import RelyingParty.Basic

set_option autoImplicit false

namespace RelyingParty

inductive PrimeCurve
  | p256
  | p384
  | p521
  deriving Repr, DecidableEq

namespace PrimeCurve

structure Parameters where
  prime : Nat
  constant : Nat
  order : Nat
  x : Nat
  y : Nat

def parameters : PrimeCurve -> Parameters
  | .p256 =>
    { prime := 0xffffffff00000001000000000000000000000000ffffffffffffffffffffffff
      constant := 0x5ac635d8aa3a93e7b3ebbd55769886bc651d06b0cc53b0f63bce3c3e27d2604b
      order := 0xffffffff00000000ffffffffffffffffbce6faada7179e84f3b9cac2fc632551
      x := 0x6b17d1f2e12c4247f8bce6e563a440f277037d812deb33a0f4a13945d898c296
      y := 0x4fe342e2fe1a7f9b8ee7eb4a7c0f9e162bce33576b315ececbb6406837bf51f5 }
  | .p384 =>
    { prime := Nat.pow 2 384 - Nat.pow 2 128 - Nat.pow 2 96 + Nat.pow 2 32 - 1
      constant := 0xb3312fa7e23ee7e4988e056be3f82d19181d9c6efe8141120314088f5013875ac656398d8a2ed19d2a85c8edd3ec2aef
      order := 0xffffffffffffffffffffffffffffffffffffffffffffffffc7634d81f4372ddf581a0db248b0a77aecec196accc52973
      x := 0xaa87ca22be8b05378eb1c71ef320ad746e1d3b628ba79b9859f741e082542a385502f25dbf55296c3a545e3872760ab7
      y := 0x3617de4a96262c6f5d9e98bf9292dc29f8f41dbd289a147ce9da3113b5f0b8c00a60b1ce1d7e819d7a431d7c90ea0e5f }
  | .p521 =>
    { prime := Nat.pow 2 521 - 1
      constant := 0x051953eb9618e1c9a1f929a21a0b68540eea2da725b99b315f3b8b489918ef109e156193951ec7e937b1652c0bd3bb1bf073573df883d2c34f1ef451fd46b503f00
      order := 0x01fffffffffffffffffffffffffffffffffffffffffffffffffffffffffffffffffa51868783bf2f966b7fcc0148f709a5d03bb5c9b8899c47aebb6fb71e91386409
      x := 0x00c6858e06b70404e9cd9e3ecb662395b4429c648139053fb521f828af606b4d3dbaa14b5e77efe75928fe1dc127a2ffa8de3348b3c1856a429bf97e7e31c2e5bd66
      y := 0x011839296a789a3bc0045c8a5fb42c7d1bd998f54449579b446817afbd17273e662c97ee72995ef42640c550b9013fad0761353c7086a272c24088be94769fd16650 }

def size : PrimeCurve -> Nat
  | .p256 => 32
  | .p384 => 48
  | .p521 => 66

def hash : PrimeCurve -> Sha2
  | .p256 => .sha256
  | .p384 => .sha384
  | .p521 => .sha512

end PrimeCurve

/-- The point with coordinates `x / z ^ 2` and `y / z ^ 3`; the point at infinity if `z` is zero. -/
structure ProjectivePoint where
  x : Nat
  y : Nat
  z : Nat
  deriving Repr, DecidableEq

namespace ProjectivePoint

def infinity : ProjectivePoint := ⟨1, 1, 0⟩

def ofAffine (x y : Nat) : ProjectivePoint := ⟨x, y, 1⟩

/-- Twice a point of a curve whose equation has the linear term minus three. -/
def double (prime : Nat) (point : ProjectivePoint) : ProjectivePoint :=
  if point.z = 0 ∨ point.y = 0 then infinity
  else
    let square := point.y * point.y % prime
    let cross := 4 * point.x * square % prime
    let depth := point.z * point.z % prime
    let slope := 3 * (Modular.sub point.x depth prime) * (point.x + depth) % prime
    let x := Modular.sub (slope * slope) (2 * cross) prime
    let y := Modular.sub (slope * Modular.sub cross x prime) (8 * square * square) prime
    ⟨x, y, 2 * point.y * point.z % prime⟩

def add (prime : Nat) (left right : ProjectivePoint) : ProjectivePoint :=
  if left.z = 0 then right
  else if right.z = 0 then left
  else
    let leftDepth := left.z * left.z % prime
    let rightDepth := right.z * right.z % prime
    let leftX := left.x * rightDepth % prime
    let rightX := right.x * leftDepth % prime
    let leftY := left.y * right.z * rightDepth % prime
    let rightY := right.y * left.z * leftDepth % prime
    if leftX = rightX then
      if leftY = rightY then double prime left else infinity
    else
      let run := Modular.sub rightX leftX prime
      let rise := Modular.sub rightY leftY prime
      let runSquare := run * run % prime
      let runCube := run * runSquare % prime
      let base := leftX * runSquare % prime
      let x := Modular.sub (rise * rise) (runCube + 2 * base) prime
      let y := Modular.sub (rise * Modular.sub base x prime) (leftY * runCube) prime
      ⟨x, y, run * left.z * right.z % prime⟩

def scale (prime : Nat) (factor : Nat) (point : ProjectivePoint) : ProjectivePoint :=
  (Modular.bits factor).foldl
    (fun total bit =>
      let twice := double prime total
      if bit then add prime twice point else twice)
    infinity

def x? (prime : Nat) (point : ProjectivePoint) : Option Nat :=
  if point.z = 0 then none
  else
    let inverse := Modular.inverse point.z prime
    some (point.x * (inverse * inverse % prime) % prime)

end ProjectivePoint

namespace Ecdsa

structure PublicKey where
  curve : PrimeCurve
  x : Nat
  y : Nat
  deriving Repr, DecidableEq

structure Signature where
  r : Nat
  s : Nat
  deriving Repr, DecidableEq

def PublicKey.of? (curve : PrimeCurve) (x y : Nat) : Option PublicKey :=
  let p := curve.parameters
  let right := Modular.sub (x * x % p.prime * x + p.constant) (3 * x) p.prime
  if x < p.prime ∧ y < p.prime ∧ y * y % p.prime = right then some ⟨curve, x, y⟩ else none

def Signature.of? (curve : PrimeCurve) (bytes : Bytes) : Option Signature :=
  let order := curve.parameters.order
  let r := Bytes.toNat (bytes.take curve.size)
  let s := Bytes.toNat (bytes.drop curve.size)
  if bytes.length = 2 * curve.size ∧ 0 < r ∧ r < order ∧ 0 < s ∧ s < order then some ⟨r, s⟩
  else none

def verify (key : PublicKey) (digest : Bytes) (signature : Signature) : Bool :=
  let p := key.curve.parameters
  let inverse := Modular.inverse signature.s p.order
  let first := Bytes.toNat digest * inverse % p.order
  let second := signature.r * inverse % p.order
  let sum := ProjectivePoint.add p.prime
    (ProjectivePoint.scale p.prime first (.ofAffine p.x p.y))
    (ProjectivePoint.scale p.prime second (.ofAffine key.x key.y))
  match sum.x? p.prime with
  | some x => x % p.order == signature.r
  | none => false

end Ecdsa

end RelyingParty
