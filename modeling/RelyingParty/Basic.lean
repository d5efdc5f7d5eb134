set_option autoImplicit false

namespace RelyingParty

def orFault {F A : Type} (fault : F) : Option A -> Except F A
  | some value => .ok value
  | none => .error fault

def require {F : Type} (condition : Bool) (fault : F) : Except F Unit :=
  if condition then .ok () else .error fault

abbrev Bytes := List UInt8

namespace Bytes

def ofText (text : String) : Bytes := text.toByteArray.toList

def text? (bytes : Bytes) : Option String := String.fromUTF8? bytes.toByteArray

def toNat (bytes : Bytes) : Nat :=
  bytes.foldl (fun total byte => 256 * total + byte.toNat) 0

def toNatLittle : Bytes -> Nat
  | [] => 0
  | byte :: rest => byte.toNat + 256 * toNatLittle rest

def ofNatLittle : Nat -> Nat -> Bytes
  | 0, _ => []
  | width + 1, value => UInt8.ofNat value :: ofNatLittle width (value / 256)

def ofNat (width value : Nat) : Bytes := (ofNatLittle width value).reverse

def array? (size : Nat) (bytes : Bytes) : Option Bytes :=
  if bytes.length = size then some bytes else none

def xor (left right : Bytes) : Bytes := List.zipWith (· ^^^ ·) left right

def chunks (width : Nat) : Bytes -> List Bytes
  | [] => []
  | byte :: rest => (byte :: rest.take (width - 1)) :: chunks width (rest.drop (width - 1))
termination_by bytes => bytes.length
decreasing_by
  simp only [List.length_drop, List.length_cons]
  omega

end Bytes

end RelyingParty

namespace RelyingParty.Modular

def bits (n : Nat) : List Bool := (List.range (n.log2 + 1)).reverse.map n.testBit

def pow (base exponent modulus : Nat) : Nat :=
  (bits exponent).foldl
    (fun total bit =>
      let square := total * total % modulus
      if bit then square * base % modulus else square)
    (1 % modulus)

def inverse (value prime : Nat) : Nat := pow (value % prime) (prime - 2) prime

def sub (a b modulus : Nat) : Nat := (a + (modulus - b % modulus)) % modulus

end RelyingParty.Modular
