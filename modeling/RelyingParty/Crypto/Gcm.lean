import RelyingParty.Crypto.Aes

set_option autoImplicit false

namespace RelyingParty.Gcm

def ivSize : Nat := 12

def tagSize : Nat := 16

/-- The reducing polynomial of the field of 2^128 elements, highest powers last. -/
def polynomial : Nat := 0xe1 * Nat.pow 2 120

def multiply (left right : Nat) : Nat :=
  ((List.range 128).foldl
    (fun (total, power) place =>
      (if left.testBit (127 - place) then total ^^^ power else total,
        if power % 2 = 0 then power / 2 else power / 2 ^^^ polynomial))
    (0, right)).1

def hash (key : Nat) (start : Nat) (bytes : Bytes) : Nat :=
  (Bytes.chunks 16 bytes).foldl
    (fun total block =>
      multiply (total ^^^ Bytes.toNat (block ++ List.replicate (16 - block.length) 0)) key)
    start

def stream (keys : List Bytes) (iv : Bytes) : Nat -> List Bytes -> Bytes
  | _, [] => []
  | counter, block :: rest =>
    Bytes.xor block (Aes.encipher keys (iv ++ Bytes.ofNat 4 counter)) ++
      stream keys iv (counter + 1) rest

def tag (keys : List Bytes) (iv aad ciphertext : Bytes) : Bytes :=
  let key := Bytes.toNat (Aes.encipher keys (List.replicate 16 0))
  let lengths := Bytes.ofNat 8 (8 * aad.length) ++ Bytes.ofNat 8 (8 * ciphertext.length)
  let total := hash key (hash key (hash key 0 aad) ciphertext) lengths
  Bytes.xor (Bytes.ofNat 16 total) (Aes.encipher keys (iv ++ Bytes.ofNat 4 1))

def open? (key iv aad ciphertext given : Bytes) : Option Bytes :=
  let keys := Aes.roundKeys key
  if tag keys iv aad ciphertext = given then some (stream keys iv 2 (Bytes.chunks 16 ciphertext))
  else none

def openSealed? (key iv aad sealed : Bytes) : Option Bytes :=
  let size := sealed.length - tagSize
  if tagSize ≤ sealed.length then open? key iv aad (sealed.take size) (sealed.drop size) else none

end RelyingParty.Gcm
