import RelyingParty.Basic

set_option autoImplicit false

namespace RelyingParty

inductive Sha2
  | sha256
  | sha384
  | sha512
  deriving Repr, DecidableEq

namespace Sha2

structure Rounds (width : Nat) where
  majority : Nat × Nat × Nat
  choice : Nat × Nat × Nat
  early : Nat × Nat × Nat
  late : Nat × Nat × Nat
  constants : List (BitVec width)

structure Work (width : Nat) where
  a : BitVec width
  b : BitVec width
  c : BitVec width
  d : BitVec width
  e : BitVec width
  f : BitVec width
  g : BitVec width
  h : BitVec width

/-- The cube roots of the first eighty primes: 64 bits after the point. -/
def cubeRoots : List (BitVec 64) :=
  [0x428a2f98d728ae22, 0x7137449123ef65cd, 0xb5c0fbcfec4d3b2f, 0xe9b5dba58189dbbc,
    0x3956c25bf348b538, 0x59f111f1b605d019, 0x923f82a4af194f9b, 0xab1c5ed5da6d8118,
    0xd807aa98a3030242, 0x12835b0145706fbe, 0x243185be4ee4b28c, 0x550c7dc3d5ffb4e2,
    0x72be5d74f27b896f, 0x80deb1fe3b1696b1, 0x9bdc06a725c71235, 0xc19bf174cf692694,
    0xe49b69c19ef14ad2, 0xefbe4786384f25e3, 0x0fc19dc68b8cd5b5, 0x240ca1cc77ac9c65,
    0x2de92c6f592b0275, 0x4a7484aa6ea6e483, 0x5cb0a9dcbd41fbd4, 0x76f988da831153b5,
    0x983e5152ee66dfab, 0xa831c66d2db43210, 0xb00327c898fb213f, 0xbf597fc7beef0ee4,
    0xc6e00bf33da88fc2, 0xd5a79147930aa725, 0x06ca6351e003826f, 0x142929670a0e6e70,
    0x27b70a8546d22ffc, 0x2e1b21385c26c926, 0x4d2c6dfc5ac42aed, 0x53380d139d95b3df,
    0x650a73548baf63de, 0x766a0abb3c77b2a8, 0x81c2c92e47edaee6, 0x92722c851482353b,
    0xa2bfe8a14cf10364, 0xa81a664bbc423001, 0xc24b8b70d0f89791, 0xc76c51a30654be30,
    0xd192e819d6ef5218, 0xd69906245565a910, 0xf40e35855771202a, 0x106aa07032bbd1b8,
    0x19a4c116b8d2d0c8, 0x1e376c085141ab53, 0x2748774cdf8eeb99, 0x34b0bcb5e19b48a8,
    0x391c0cb3c5c95a63, 0x4ed8aa4ae3418acb, 0x5b9cca4f7763e373, 0x682e6ff3d6b2b8a3,
    0x748f82ee5defb2fc, 0x78a5636f43172f60, 0x84c87814a1f0ab72, 0x8cc702081a6439ec,
    0x90befffa23631e28, 0xa4506cebde82bde9, 0xbef9a3f7b2c67915, 0xc67178f2e372532b,
    0xca273eceea26619c, 0xd186b8c721c0c207, 0xeada7dd6cde0eb1e, 0xf57d4f7fee6ed178,
    0x06f067aa72176fba, 0x0a637dc5a2c898a6, 0x113f9804bef90dae, 0x1b710b35131c471b,
    0x28db77f523047d84, 0x32caab7b40c72493, 0x3c9ebe0a15c9bebc, 0x431d67c49c100d4c,
    0x4cc5d4becb3e42b6, 0x597f299cfc657e2a, 0x5fcb6fab3ad6faec, 0x6c44198c4a475817]

/-- The square roots of the first sixteen primes: 64 bits after the point. -/
def squareRoots : List (BitVec 64) :=
  [0x6a09e667f3bcc908, 0xbb67ae8584caa73b, 0x3c6ef372fe94f82b, 0xa54ff53a5f1d36f1,
    0x510e527fade682d1, 0x9b05688c2b3e6c1f, 0x1f83d9abfb41bd6b, 0x5be0cd19137e2179,
    0xcbbb9d5dc1059ed8, 0x629a292a367cd507, 0x9159015a3070dd17, 0x152fecd8f70e5939,
    0x67332667ffc00b31, 0x8eb44a8768581511, 0xdb0c2e0d64f98fa7, 0x47b5481dbefa4fa4]

def leading (word : BitVec 64) : BitVec 32 := word.extractLsb' 32 32

def narrow : Rounds 32 :=
  ⟨(2, 13, 22), (6, 11, 25), (7, 18, 3), (17, 19, 10), (cubeRoots.take 64).map leading⟩

def wide : Rounds 64 :=
  ⟨(28, 34, 39), (14, 18, 41), (1, 8, 7), (19, 61, 6), cubeRoots⟩

section

variable {width : Nat}

def rotations (amounts : Nat × Nat × Nat) (x : BitVec width) : BitVec width :=
  x.rotateRight amounts.1 ^^^ x.rotateRight amounts.2.1 ^^^ x.rotateRight amounts.2.2

def rotationsAndShift (amounts : Nat × Nat × Nat) (x : BitVec width) : BitVec width :=
  x.rotateRight amounts.1 ^^^ x.rotateRight amounts.2.1 ^^^ x >>> amounts.2.2

def nextWord (rounds : Rounds width) (window : List (BitVec width)) : BitVec width :=
  rotationsAndShift rounds.late (window.getD 14 0) + window.getD 9 0 +
    rotationsAndShift rounds.early (window.getD 1 0) + window.getD 0 0

def round (rounds : Rounds width) (work : Work width) (constant word : BitVec width) :
    Work width :=
  let chosen := (work.e &&& work.f) ^^^ (~~~work.e &&& work.g)
  let first := work.h + rotations rounds.choice work.e + chosen + constant + word
  let agreed := (work.a &&& work.b) ^^^ (work.a &&& work.c) ^^^ (work.b &&& work.c)
  let second := rotations rounds.majority work.a + agreed
  { a := first + second, b := work.a, c := work.b, d := work.c
    e := work.d + first, f := work.e, g := work.f, h := work.g }

def runRounds (rounds : Rounds width) :
    List (BitVec width) -> List (BitVec width) -> Work width -> Work width
  | [], _, work => work
  | constant :: constants, window, work =>
    runRounds rounds constants (window.drop 1 ++ [nextWord rounds window])
      (round rounds work constant (window.getD 0 0))

def Work.toList (work : Work width) : List (BitVec width) :=
  [work.a, work.b, work.c, work.d, work.e, work.f, work.g, work.h]

def Work.ofList (words : List (BitVec width)) : Work width :=
  ⟨words.getD 0 0, words.getD 1 0, words.getD 2 0, words.getD 3 0,
    words.getD 4 0, words.getD 5 0, words.getD 6 0, words.getD 7 0⟩

def compress (rounds : Rounds width) (chain : List (BitVec width)) (block : Bytes) :
    List (BitVec width) :=
  let window :=
    (Bytes.chunks (width / 8) block).map fun word => BitVec.ofNat width (Bytes.toNat word)
  List.zipWith (· + ·) chain
    (runRounds rounds rounds.constants window (Work.ofList chain)).toList

def pad (width : Nat) (message : Bytes) : Bytes :=
  let block := 2 * width
  let length := width / 4
  let zeros := (block - (message.length + 1 + length) % block) % block
  message ++ 0x80 :: List.replicate zeros 0 ++ Bytes.ofNat length (8 * message.length)

def chain (rounds : Rounds width) (initial : List (BitVec width)) (message : Bytes) :
    List (BitVec width) :=
  (Bytes.chunks (2 * width) (pad width message)).foldl (compress rounds) initial

def chainBytes (words : List (BitVec width)) : Bytes :=
  words.flatMap fun word => Bytes.ofNat (width / 8) word.toNat

end

def size : Sha2 -> Nat
  | .sha256 => 32
  | .sha384 => 48
  | .sha512 => 64

def blockSize : Sha2 -> Nat
  | .sha256 => 64
  | .sha384 | .sha512 => 128

def digest : Sha2 -> Bytes -> Bytes
  | .sha256, message => chainBytes (chain narrow ((squareRoots.take 8).map leading) message)
  | .sha384, message => (chainBytes (chain wide (squareRoots.drop 8) message)).take 48
  | .sha512, message => chainBytes (chain wide (squareRoots.take 8) message)

end Sha2

end RelyingParty

namespace RelyingParty.Hmac

def blockKey (hash : Sha2) (key : Bytes) : Bytes :=
  let short := if hash.blockSize < key.length then hash.digest key else key
  short ++ List.replicate (hash.blockSize - short.length) 0

def code (hash : Sha2) (key message : Bytes) : Bytes :=
  let block := blockKey hash key
  hash.digest (block.map (· ^^^ 0x5c) ++ hash.digest (block.map (· ^^^ 0x36) ++ message))

def verify (hash : Sha2) (key message given : Bytes) : Bool := code hash key message == given

end RelyingParty.Hmac
