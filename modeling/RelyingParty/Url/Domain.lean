import RelyingParty.Unicode.Direction
import RelyingParty.Unicode.Joining
import RelyingParty.Unicode.Normal
import RelyingParty.Url.Fold
import RelyingParty.Url.Percent
import RelyingParty.Url.Punycode

set_option autoImplicit false

namespace RelyingParty.Url.Domain

open Unicode

def isForbidden (c : Char) : Bool :=
  c.toNat ≤ 32 || c.toNat == 127 || "%#/:<>?@[\\]^|".toList.contains c

def isAscii (c : Char) : Bool := decide (c.toNat < 128)

def marker : List Char := ['x', 'n', '-', '-']

structure Label where
  characters : List Char
  ascii : List Char
  deriving Repr, DecidableEq

namespace Label

def isSound (label : List Char) : Bool :=
  !label.head?.any Mark.isMark && Joining.fits [] label

def isEncodable (c : Char) : Bool := if isAscii c then !isForbidden c else Fold.isFolded c

/-- The label with a Punycode form. It has to be the label that this form is written for. -/
def ofPunycode? (code : List Char) : Option Label :=
  if code.isEmpty || code.getLast? == some '-' || decide (2000 < code.length) ||
      !code.all isAscii then none
  else
    match Punycode.decode? code with
    | some label =>
      if label.all isEncodable && Normal.of label == label && isSound label then
        some ⟨label, marker ++ code⟩
      else none
    | none => none

def ofFolded? (label : List Char) : Option Label :=
  if label.any isForbidden then none
  else if label.take 4 = marker then ofPunycode? (label.drop 4)
  else if label.all isAscii then some ⟨label, label⟩
  else if label.length ≤ 1000 && isSound label then
    some ⟨label, marker ++ Punycode.encode label⟩
  else none

/-- The labels that a label stands for; there are more than one if it has a form of a full stop. -/
def split? (label : List Char) : Option (List Label) :=
  if label.all isAscii then (ofFolded? (label.map Char.toLower)).map ([·])
  else
    match Fold.text? label with
    | some folded => ((Normal.of folded).splitOn '.').mapM ofFolded?
    | none => none

end Label

def directionsFit (labels : List Label) : Bool :=
  !labels.any (fun label => Direction.turns label.characters) ||
    labels.all fun label => Direction.fits label.characters

def ofText? (text : List Char) : Option (List Char) := do
  let decoded ← Bytes.text? (Percent.decode (Bytes.ofText (String.ofList text)))
  -- Labels are parted before they are folded, and folding may part them once more.
  let labels ← (decoded.toList.splitOn '.').mapM Label.split?
  if directionsFit labels.flatten then
    some (['.'].intercalate (labels.flatten.map Label.ascii))
  else none

end RelyingParty.Url.Domain
