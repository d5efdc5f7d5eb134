import RelyingParty.Basic

set_option autoImplicit false

namespace RelyingParty.Url.Percent

def control (c : Char) : Bool := c.toNat < 32 || 126 < c.toNat

def fragment (c : Char) : Bool := control c || " \"<>`".toList.contains c

def path (c : Char) : Bool := fragment c || "#?\x7b\x7d".toList.contains c

def userInfo (c : Char) : Bool := path c || "/:;=@[\\]^|".toList.contains c

def query (c : Char) : Bool := control c || " \"#<>".toList.contains c

def specialQuery (c : Char) : Bool := query c || c == '\''

def hexDigit (value : Nat) : Char :=
  if value < 10 then Char.ofNat (48 + value) else Char.ofNat (55 + value)

def escape (byte : UInt8) : List Char :=
  ['%', hexDigit (byte.toNat / 16), hexDigit (byte.toNat % 16)]

def encode (escaped : Char -> Bool) (text : List Char) : List Char :=
  text.flatMap fun c => if escaped c then (String.utf8EncodeChar c).flatMap escape else [c]

def digit? (byte : UInt8) : Option Nat :=
  let code := byte.toNat
  if 48 ≤ code ∧ code ≤ 57 then some (code - 48)
  else if 65 ≤ code ∧ code ≤ 70 then some (code - 55)
  else if 97 ≤ code ∧ code ≤ 102 then some (code - 87)
  else none

def decode : Bytes -> Bytes
  | 37 :: high :: low :: rest =>
    match digit? high, digit? low with
    | some first, some second => UInt8.ofNat (16 * first + second) :: decode rest
    -- A sign without two digits stands for itself.
    | _, _ => 37 :: decode (high :: low :: rest)
  | byte :: rest => byte :: decode rest
  | [] => []

end RelyingParty.Url.Percent
