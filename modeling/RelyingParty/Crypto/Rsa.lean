import RelyingParty.Crypto.Sha2
import RelyingParty.Basic

set_option autoImplicit false

namespace RelyingParty.Rsa

structure PublicKey where
  modulus : Nat
  exponent : Nat
  deriving Repr, DecidableEq

inductive KeyFault
  | modulusTooLarge
  | exponentTooLarge
  | invalidModulus
  | invalidExponent
  | exponentTooSmall
  deriving Repr, DecidableEq

def KeyFault.message : KeyFault -> String
  | .modulusTooLarge => "modulus too large"
  | .exponentTooLarge => "public exponent too large"
  | .invalidModulus => "invalid modulus"
  | .invalidExponent => "invalid exponent"
  | .exponentTooSmall => "public exponent too small"

def bitLength (n : Nat) : Nat := if n = 0 then 0 else n.log2 + 1

/--
The public key with a modulus and an exponent: the modulus is odd and has at most 4096 bits, the
exponent is odd, at least three and at most 2^33 - 1.
-/
def PublicKey.of (modulus exponent : Nat) : Except KeyFault PublicKey :=
  if 4096 < bitLength modulus then .error .modulusTooLarge
  else if 64 < bitLength exponent then .error .exponentTooLarge
  else if modulus ≤ exponent ∨ modulus % 2 = 0 then .error .invalidModulus
  else if exponent % 2 = 0 then .error .invalidExponent
  else if exponent < 2 then .error .exponentTooSmall
  else if Nat.pow 2 33 - 1 < exponent then .error .exponentTooLarge
  else .ok ⟨modulus, exponent⟩

namespace PublicKey

def size (key : PublicKey) : Nat := (bitLength key.modulus + 7) / 8

def recover (key : PublicKey) (signature : Bytes) : Bytes :=
  Bytes.ofNat key.size (Modular.pow (Bytes.toNat signature) key.exponent key.modulus)

end PublicKey

-- The DER encoding of an algorithm and an octet string, up to the digest itself.
def digestPrefix : Sha2 -> Bytes
  | .sha256 =>
    [0x30, 0x31, 0x30, 0x0d, 0x06, 0x09, 0x60, 0x86, 0x48, 0x01, 0x65, 0x03, 0x04, 0x02, 0x01, 0x05,
      0x00, 0x04, 0x20]
  | .sha384 =>
    [0x30, 0x41, 0x30, 0x0d, 0x06, 0x09, 0x60, 0x86, 0x48, 0x01, 0x65, 0x03, 0x04, 0x02, 0x02, 0x05,
      0x00, 0x04, 0x30]
  | .sha512 =>
    [0x30, 0x51, 0x30, 0x0d, 0x06, 0x09, 0x60, 0x86, 0x48, 0x01, 0x65, 0x03, 0x04, 0x02, 0x03, 0x05,
      0x00, 0x04, 0x40]

def blockPadded? (size : Nat) (hash : Sha2) (digest : Bytes) : Option Bytes :=
  let tail := digestPrefix hash ++ digest
  if size < tail.length + 11 then none
  else some (0x00 :: 0x01 :: List.replicate (size - tail.length - 3) 0xff ++ 0x00 :: tail)

def verifyBlock (key : PublicKey) (hash : Sha2) (digest signature : Bytes) : Bool :=
  signature.length == key.size && decide (Bytes.toNat signature < key.modulus) &&
    blockPadded? key.size hash digest == some (key.recover signature)

def mask (hash : Sha2) (seed : Bytes) (length : Nat) : Bytes :=
  ((List.range ((length + hash.size - 1) / hash.size)).flatMap fun counter =>
    hash.digest (seed ++ Bytes.ofNat 4 counter)).take length

/--
Checks the salted padding of a digest, whose salt is as long as the digest. `bits` is one less than
the bit length of the modulus: higher bits of the first byte have to be zero.
-/
def checkSalted (hash : Sha2) (digest encoded : Bytes) (bits : Nat) : Bool :=
  let spare := 8 * encoded.length - bits
  let length := encoded.length - hash.size - 1
  let masked := encoded.take length
  let trace := (encoded.drop length).take hash.size
  let first := (masked.headD 0).toNat
  let clear := Bytes.xor masked (mask hash trace length)
  let block := UInt8.ofNat ((clear.headD 0).toNat % Nat.pow 2 (8 - spare)) :: clear.drop 1
  let zeros := length - hash.size - 1
  decide (2 * hash.size + 2 ≤ encoded.length) && encoded.getLast? == some 0xbc &&
    decide (first < Nat.pow 2 (8 - spare)) &&
    block.take zeros == List.replicate zeros 0 && (block.drop zeros).head? == some 0x01 &&
    hash.digest (List.replicate 8 0 ++ digest ++ block.drop (zeros + 1)) == trace

def verifySalted (key : PublicKey) (hash : Sha2) (digest signature : Bytes) : Bool :=
  let bits := bitLength key.modulus - 1
  let length := (bits + 7) / 8
  signature.length == key.size &&
    checkSalted hash digest ((key.recover signature).drop (key.size - length)) bits

end RelyingParty.Rsa
