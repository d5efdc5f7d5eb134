import RelyingParty.Json.Text
import RelyingParty.Json.Tree

set_option autoImplicit false

namespace RelyingParty.Json

inductive Opening
  | array
  | object
  deriving Repr, DecidableEq

/-- A token: bracket, separator, leaf, or the place where the text stops being JSON. -/
inductive Token
  | opening (kind : Opening)
  | closing (kind : Opening)
  | colon
  | comma
  | leaf (tree : Tree)
  | stray

namespace Token

inductive NumeralPart
  | sign
  | zero
  | whole
  | point
  | fraction
  | mark
  | markSign
  | power
  deriving Repr, DecidableEq

/-- What the scanner is in the middle of. Pieces of a string are kept last first. -/
inductive Scanner
  | between
  | word (rest : Bytes) (tree : Tree)
  | numeral (part : NumeralPart) (sofar : Numeral)
  | string (pieces : List Text.Piece)
  | escape (pieces : List Text.Piece)
  | hex (missing : Nat) (value : Nat) (pieces : List Text.Piece)

def digit? (byte : UInt8) : Option Nat :=
  if 48 ≤ byte.toNat ∧ byte.toNat ≤ 57 then some (byte.toNat - 48) else none

def NumeralPart.isComplete : NumeralPart -> Bool
  | .zero | .whole | .fraction | .power => true
  | .sign | .point | .mark | .markSign => false

def isMark (byte : UInt8) : Bool := byte = 101 || byte = 69

def continueNumeral (part : NumeralPart) (n : Numeral) (byte : UInt8) : Option Scanner :=
  match part, digit? byte with
  | .sign, some 0 => some (.numeral .zero n)
  | .sign, some digit | .whole, some digit => some (.numeral .whole (n.addWhole digit))
  | .point, some digit | .fraction, some digit => some (.numeral .fraction (n.addFraction digit))
  | .mark, some digit | .markSign, some digit | .power, some digit =>
    some (.numeral .power (n.addPower digit))
  | .zero, none | .whole, none =>
    if byte = 46 then some (.numeral .point n.point)
    else if isMark byte then some (.numeral .mark n.mark)
    else none
  | .fraction, none => if isMark byte then some (.numeral .mark n.mark) else none
  | .mark, none =>
    if byte = 43 then some (.numeral .markSign n)
    else if byte = 45 then some (.numeral .markSign { n with exponent := (true, 0) })
    else none
  | _, _ => none

def begin (byte : UInt8) : Option (Option Token × Scanner) :=
  -- White space, brackets, separators, a quote, the words null, true and false, and numerals.
  if byte = 32 ∨ byte = 9 ∨ byte = 10 ∨ byte = 13 then some (none, .between)
  else if byte = 91 then some (some (.opening .array), .between)
  else if byte = 123 then some (some (.opening .object), .between)
  else if byte = 93 then some (some (.closing .array), .between)
  else if byte = 125 then some (some (.closing .object), .between)
  else if byte = 58 then some (some .colon, .between)
  else if byte = 44 then some (some .comma, .between)
  else if byte = 34 then some (none, .string [])
  else if byte = 110 then some (none, .word [117, 108, 108] .null)
  else if byte = 116 then some (none, .word [114, 117, 101] (.bool true))
  else if byte = 102 then some (none, .word [97, 108, 115, 101] (.bool false))
  else if byte = 45 then some (none, .numeral .sign (.start true))
  else (continueNumeral .sign (.start false) byte).map (none, ·)

/-- The tokens that a byte completes, and what the scanner is in then; none if it cannot go on. -/
abbrev Step := List Token × Option Scanner

def goOn (next : Option Scanner) : Step := ([], next)

def beginStep (byte : UInt8) : Step :=
  match begin byte with
  | some (token, next) => (token.toList, some next)
  | none => ([], none)

/-- One byte of scanning. A numeral is complete when a byte follows that does not continue it. -/
def step : Scanner -> UInt8 -> Step
  | .between, byte => beginStep byte
  | .word [expected] tree, byte =>
    if byte = expected then ([.leaf tree], some .between) else goOn none
  | .word (expected :: rest) tree, byte =>
    goOn (if byte = expected then some (.word rest tree) else none)
  | .word [] _, _ => goOn none
  | .numeral part n, byte =>
    match continueNumeral part n byte with
    | some next => goOn (some next)
    | none =>
      if !part.isComplete || (part = .zero && (digit? byte).isSome) then goOn none
      else
        let (tokens, next) := beginStep byte
        (.leaf (.number n.number?) :: tokens, next)
  | .string pieces, byte =>
    if byte = 34 then ([.leaf (.string (Text.text? pieces.reverse))], some .between)
    else if byte = 92 then goOn (some (.escape pieces))
    else if byte.toNat < 32 then goOn none
    else goOn (some (.string (.byte byte :: pieces)))
  | .escape pieces, byte =>
    if byte = 117 then goOn (some (.hex 4 0 pieces))
    else goOn ((Text.escape? byte).map fun value => .string (.byte value :: pieces))
  | .hex missing value pieces, byte =>
    goOn <| (Text.hexDigit? byte).map fun digit =>
      let value := 16 * value + digit
      if missing ≤ 1 then .string (.unit value :: pieces) else .hex (missing - 1) value pieces

def finish : Scanner -> List Token
  | .between => []
  | .numeral part n => if part.isComplete then [.leaf (.number n.number?)] else [.stray]
  | _ => [.stray]

def scan : Scanner -> Bytes -> List Token
  | scanner, [] => finish scanner
  | scanner, byte :: rest =>
    match step scanner byte with
    | (tokens, some next) => tokens ++ scan next rest
    | (tokens, none) => tokens ++ [.stray]

def ofBytes (text : Bytes) : List Token := scan .between text

end Token

end RelyingParty.Json
