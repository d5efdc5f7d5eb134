import RelyingParty.Unicode.CombiningClass
import RelyingParty.Unicode.Composition

set_option autoImplicit false

namespace RelyingParty.Unicode.Normal

/-- The characters that a character is made of. A part is taken apart again if its code is less. -/
def parts (c : Char) : List Char :=
  match Composition.split? c with
  | some (first, second) =>
    if first.toNat < c.toNat then parts first ++ [second] else [first, second]
  | none => [c]
termination_by c.toNat

/-- Puts a character after others, given last first, in front of marks of greater classes. -/
def place (c : Char) : List Char -> List Char
  | [] => [c]
  | last :: before =>
    if CombiningClass.of c ≠ 0 ∧ CombiningClass.of c < CombiningClass.of last then
      last :: place c before
    else c :: last :: before

def decompose (text : List Char) : List Char :=
  ((text.flatMap parts).foldl (fun before c => place c before) []).reverse

/-- Whether the marks between a character and a starter keep them apart, the last given first. -/
def isBlocked (held : List Char) (c : Char) : Bool :=
  match held with
  | [] => false
  | last :: _ => decide (CombiningClass.of c ≤ CombiningClass.of last)

/-- Joins to a starter what follows it; `held` are the marks that stay behind it, last first. -/
def joinFrom (starter : Char) (held : List Char) : List Char -> List Char
  | [] => starter :: held.reverse
  | c :: rest =>
    match if isBlocked held c then none else Composition.join? starter c with
    | some joined => joinFrom joined held rest
    | none =>
      if CombiningClass.of c = 0 then starter :: held.reverse ++ joinFrom c [] rest
      else joinFrom starter (c :: held) rest

def compose : List Char -> List Char
  | [] => []
  | c :: rest => if CombiningClass.of c = 0 then joinFrom c [] rest else c :: compose rest

def of (text : List Char) : List Char := compose (decompose text)

end RelyingParty.Unicode.Normal
