set_option autoImplicit false

namespace RelyingParty.Unicode

structure Span (α : Type) where
  first : Nat
  last : Nat
  value : α
  deriving Repr, DecidableEq

structure CodeTable (α : Type) where
  spans : Array (Span α)

abbrev CodeSet := CodeTable Unit

def words (lines : List String) : List (List Char) :=
  lines.flatMap fun line => line.toList.splitOn ' '

def hexadecimal (digits : List Char) : Nat :=
  digits.foldl (fun total c => 16 * total + (c.toNat - if c.isDigit then 48 else 55)) 0

def splitWord (word : List Char) : List Char × List Char :=
  (word.takeWhile (· != '='), (word.dropWhile (· != '=')).drop 1)

namespace Span

def ofWord {α : Type} (value : α) (word : List Char) : Span α :=
  -- A span is written as its first and last code, or as its only one.
  match word.splitOn '-' with
  | [first, last] => ⟨hexadecimal first, hexadecimal last, value⟩
  | _ => ⟨hexadecimal word, hexadecimal word, value⟩

end Span

namespace CodeTable

def ofLines (lines : List String) : CodeTable Nat :=
  ⟨((words lines).map fun word =>
    let (codes, value) := splitWord word
    Span.ofWord (hexadecimal value) codes).toArray⟩

/-- How many spans begin at a code or before it: at least `low`, at most `high`. -/
def begun {α : Type} (table : CodeTable α) (code low high : Nat) : Nat :=
  if low < high then
    let middle := (low + high) / 2
    if table.spans[middle]?.any fun span => span.first ≤ code then
      begun table code (middle + 1) high
    else begun table code low middle
  else low
termination_by high - low

def find? {α : Type} (table : CodeTable α) (code : Nat) : Option (Span α) := do
  -- Spans are in order, so that only the last one to begin can hold the code.
  let span ← table.spans[begun table code 0 table.spans.size - 1]?
  if span.first ≤ code ∧ code ≤ span.last then some span else none

end CodeTable

namespace CodeSet

def ofLines (lines : List String) : CodeSet := ⟨((words lines).map (Span.ofWord ())).toArray⟩

def has (set : CodeSet) (c : Char) : Bool := (set.find? c.toNat).isSome

end CodeSet

abbrev Spellings := List (Char × List Char)

namespace Spellings

/-- Reads words such as `FB01=66+69`; one without a sign goes on with the code after the last. -/
def ofWords : Nat -> List (List Char) -> Spellings
  | _, [] => []
  | next, word :: rest =>
    let (digits, value) := splitWord word
    let (code, spelling) := if value.isEmpty then (next, digits) else (hexadecimal digits, value)
    (Char.ofNat code, (spelling.splitOn '+').map fun part => Char.ofNat (hexadecimal part)) ::
      ofWords (code + 1) rest

def ofLines (lines : List String) : Spellings := ofWords 0 (words lines)

end Spellings

end RelyingParty.Unicode
