import RelyingParty.Url.Domain

set_option autoImplicit false

namespace RelyingParty.Url

inductive Fault
  | relativeWithoutBase
  | emptyHost
  | invalidPort
  | invalidIpv4
  | invalidIpv6
  | invalidDomain
  | invalidHostCharacter
  deriving Repr, DecidableEq

def Fault.message : Fault -> String
  | .relativeWithoutBase => "relative URL without a base"
  | .emptyHost => "empty host"
  | .invalidPort => "invalid port number"
  | .invalidIpv4 => "invalid IPv4 address"
  | .invalidIpv6 => "invalid IPv6 address"
  | .invalidDomain => "invalid international domain name"
  | .invalidHostCharacter => "invalid domain character"

namespace Host

def digit? (base : Nat) (c : Char) : Option Nat := do
  let value ← Percent.digit? (UInt8.ofNat (min c.toNat 255))
  if value < base then some value else none

def number? (base : Nat) (digits : List Char) : Option Nat := do
  let values ← digits.mapM (digit? base)
  return values.foldl (fun total value => base * total + value) 0

def ipv4Number? : List Char -> Option Nat
  | [] => none
  | '0' :: 'x' :: digits | '0' :: 'X' :: digits => number? 16 digits
  | '0' :: next :: digits => number? 8 (next :: digits)
  | digits => number? 10 digits

/-- A domain whose last label is a number is an IPv4 address. -/
def endsInNumber (domain : List Char) : Bool :=
  let labels := (domain.splitOn '.').reverse
  let last :=
    match labels with
    | [] :: label :: _ => label
    | label :: _ => label
    | [] => []
  (!last.isEmpty && last.all Char.isDigit) || (ipv4Number? last).isSome

def ipv4? (domain : List Char) : Option Nat := do
  let labels := domain.splitOn '.'
  let labels := if labels.getLast? = some [] then labels.dropLast else labels
  let numbers ← labels.mapM ipv4Number?
  let last ← numbers.getLast?
  let front := numbers.dropLast
  if numbers.length ≤ 4 ∧ front.all (· < 256) ∧ last < Nat.pow 256 (4 - front.length) then
    -- The last number stands for all bytes that have no number of their own.
    let high := front.foldl (fun total value => 256 * total + value) 0
    return high * Nat.pow 256 (4 - front.length) + last
  else none

def ipv4Text (address : Nat) : String :=
  ".".intercalate ([3, 2, 1, 0].map fun place => toString (address / Nat.pow 256 place % 256))

def byte? : List Char -> Option Nat
  | [] => none
  | ['0'] => some 0
  | '0' :: _ => none
  | digits => do
    let value ← number? 10 digits
    if value < 256 then some value else none

def embedded? (part : List Char) : Option (List Nat) := do
  match ← (part.splitOn '.').mapM byte? with
  | [a, b, c, d] => some [256 * a + b, 256 * c + d]
  | _ => none

def piece? (part : List Char) : Option Nat :=
  if part.isEmpty || decide (4 < part.length) then none else number? 16 part

/-- The pieces between colons; only the last may be an IPv4 address, where that is admitted. -/
def pieces? : List (List Char) -> Option (List Nat)
  | [] => some []
  | [last] => if last.contains '.' then embedded? last else (piece? last).map ([·])
  | part :: rest => do
    let piece ← piece? part
    let pieces ← pieces? rest
    return piece :: pieces

def splitAtGap : List Char -> Option (List Char × List Char)
  | ':' :: ':' :: rest => some ([], rest)
  | c :: rest => (splitAtGap rest).map fun (before, after) => (c :: before, after)
  | [] => none

def ipv6? (text : List Char) : Option (List Nat) := do
  let side (part : List Char) : Option (List Nat) :=
    if part.isEmpty then some [] else pieces? (part.splitOn ':')
  match splitAtGap text with
  | none => do
    let pieces ← pieces? (text.splitOn ':')
    if pieces.length = 8 then some pieces else none
  | some (before, after) => do
    let front ← if before.contains '.' then none else side before
    let back ← side after
    if front.length + back.length < 8 then
      return front ++ List.replicate (8 - front.length - back.length) 0 ++ back
    else none

def zeroRun (pieces : List Nat) : Nat := (pieces.takeWhile (· == 0)).length

def longestRun (pieces : List Nat) : Nat × Nat :=
  (List.range pieces.length).foldl
    (fun best place =>
      let length := zeroRun (pieces.drop place)
      if best.2 < length then (place, length) else best)
    (0, 0)

def ipv6Text (pieces : List Nat) : String :=
  let write (part : List Nat) : String :=
    ":".intercalate (part.map fun piece => String.ofList (Nat.toDigits 16 piece))
  let (place, length) := longestRun pieces
  if length < 2 then "[" ++ write pieces ++ "]"
  else "[" ++ write (pieces.take place) ++ "::" ++ write (pieces.drop (place + length)) ++ "]"

def bracketed (text : List Char) : Except Fault String :=
  if text.getLast? = some ']' then
    match ipv6? text.dropLast with
    | some pieces => .ok (ipv6Text pieces)
    | none => .error .invalidIpv6
  else .error .invalidIpv6

def special : List Char -> Except Fault String
  | '[' :: rest => bracketed rest
  | text =>
    match Domain.ofText? text with
    | none => .error .invalidDomain
    | some [] => .error .emptyHost
    | some domain =>
      if endsInNumber domain then
        match ipv4? domain with
        | some address => .ok (ipv4Text address)
        | none => .error .invalidIpv4
      else .ok (String.ofList domain)

def forbiddenInOpaque (c : Char) : Bool :=
  c.toNat == 0 || "\t\n\r #/:<>?@[\\]^|".toList.contains c

def general : List Char -> Except Fault String
  | '[' :: rest => bracketed rest
  | text =>
    if text.any forbiddenInOpaque then .error .invalidHostCharacter
    else .ok (String.ofList (Percent.encode Percent.control text))

end Host

end RelyingParty.Url
