import RelyingParty.Basic

set_option autoImplicit false

namespace RelyingParty.Base64Url

inductive Fault
  | invalidByte (offset : Nat) (byte : UInt8)
  | invalidLength
  | invalidLastSymbol (offset : Nat) (byte : UInt8)
  | invalidPadding
  deriving Repr, DecidableEq

def Fault.message : Fault -> String
  | .invalidByte offset byte => s!"InvalidByte({offset}, {byte.toNat})"
  | .invalidLength => "InvalidLength"
  | .invalidLastSymbol offset byte => s!"InvalidLastSymbol({offset}, {byte.toNat})"
  | .invalidPadding => "InvalidPadding"

def symbol (value : Nat) : UInt8 :=
  if value < 26 then UInt8.ofNat (65 + value)
  else if value < 52 then UInt8.ofNat (97 + (value - 26))
  else if value < 62 then UInt8.ofNat (48 + (value - 52))
  else if value = 62 then 45
  else 95

def value? (byte : UInt8) : Option Nat :=
  let code := byte.toNat
  if 65 ≤ code ∧ code ≤ 90 then some (code - 65)
  else if 97 ≤ code ∧ code ≤ 122 then some (code - 97 + 26)
  else if 48 ≤ code ∧ code ≤ 57 then some (code - 48 + 52)
  else if code = 45 then some 62
  else if code = 95 then some 63
  else none

def sextets : Bytes -> List Nat
  | a :: b :: c :: rest =>
    a.toNat / 4 :: (a.toNat % 4 * 16 + b.toNat / 16) :: (b.toNat % 16 * 4 + c.toNat / 64) ::
      c.toNat % 64 :: sextets rest
  | [a, b] => [a.toNat / 4, a.toNat % 4 * 16 + b.toNat / 16, b.toNat % 16 * 4]
  | [a] => [a.toNat / 4, a.toNat % 4 * 16]
  | [] => []

def assemble : List Nat -> Option Bytes
  | a :: b :: c :: d :: rest =>
    (assemble rest).map fun bytes =>
      UInt8.ofNat (a * 4 + b / 16) :: UInt8.ofNat (b % 16 * 16 + c / 4) ::
        UInt8.ofNat (c % 4 * 64 + d) :: bytes
  | [a, b, c] =>
    if c % 4 = 0 then some [UInt8.ofNat (a * 4 + b / 16), UInt8.ofNat (b % 16 * 16 + c / 4)]
    else none
  | [a, b] => if b % 16 = 0 then some [UInt8.ofNat (a * 4 + b / 16)] else none
  | [_] => none
  | [] => some []

def encodeBytes (bytes : Bytes) : Bytes := (sextets bytes).map symbol

def encode (bytes : Bytes) : String :=
  String.ofList ((encodeBytes bytes).map fun byte => Char.ofNat byte.toNat)

def pad : UInt8 := 61

def lengthFault (symbols : Bytes) : Fault :=
  match symbols.getLast? with
  | some byte =>
    if (value? byte).isNone && byte != pad then .invalidByte (symbols.length - 1) byte
    else .invalidLength
  | none => .invalidLength

/--
The fault of a text with a byte outside the alphabet, which is the first such byte, unless that
byte begins padding that would complete the last group of four.
-/
def alphabetFault (symbols : Bytes) : Fault :=
  let offset := (symbols.takeWhile fun byte => (value? byte).isSome).length
  match symbols.drop offset with
  | [] => .invalidLength
  | byte :: rest =>
    if byte == pad && rest.all (· == pad) && decide (2 ≤ offset % 4) &&
        decide (offset % 4 + (rest.length + 1) ≤ 4) then .invalidPadding
    else .invalidByte offset byte

def decodeBytes (symbols : Bytes) : Except Fault Bytes :=
  if symbols.length % 4 = 1 then .error (lengthFault symbols)
  else
    match symbols.mapM value? with
    | none => .error (alphabetFault symbols)
    | some values =>
      match assemble values with
      | some bytes => .ok bytes
      | none => .error (.invalidLastSymbol (symbols.length - 1) (symbols.getLastD pad))

def decode (text : String) : Except Fault Bytes := decodeBytes (Bytes.ofText text)

end RelyingParty.Base64Url
