set_option autoImplicit false

namespace RelyingParty.Url.Punycode

def digit (value : Nat) : Char :=
  if value < 26 then Char.ofNat (97 + value) else Char.ofNat (22 + value)

def threshold (place bias : Nat) : Nat :=
  if place ≤ bias then 1 else if bias + 26 ≤ place then 26 else place - bias

theorem threshold_pos (place bias : Nat) : 1 ≤ threshold place bias := by
  unfold threshold
  split
  · omega
  · split <;> omega

def shrink (distance places : Nat) : Nat × Nat :=
  if 455 < distance then shrink (distance / 35) (places + 36) else (distance, places)
termination_by distance
decreasing_by exact Nat.div_lt_self (by omega) (by omega)

def adapt (distance count : Nat) (first : Bool) : Nat :=
  let scaled := if first then distance / 700 else distance / 2
  let (rest, places) := shrink (scaled + scaled / count) 0
  places + 36 * rest / (rest + 38)

def digits (bias place distance : Nat) : List Char :=
  let least := threshold place bias
  if distance < least then [digit distance]
  else
    digit (least + (distance - least) % (36 - least)) ::
      digits bias (place + 36) ((distance - least) / (36 - least))
termination_by distance
decreasing_by
  have positive := threshold_pos place bias
  have smaller := Nat.div_le_self (distance - threshold place bias) (36 - threshold place bias)
  omega

structure State where
  written : List Char
  distance : Nat
  bias : Nat
  count : Nat

def pass (basic code : Nat) (state : State) (c : Char) : State :=
  if c.toNat < code then { state with distance := state.distance + 1 }
  else if c.toNat = code then
    { written := state.written ++ digits state.bias 36 state.distance
      distance := 0
      bias := adapt state.distance (state.count + 1) (state.count == basic)
      count := state.count + 1 }
  else state

def writeAll (label : List Char) (basic : Nat) : List Nat -> Nat -> State -> State
  | [], _, state => state
  | code :: codes, next, state =>
    let moved := { state with distance := state.distance + (code - next) * (state.count + 1) }
    let passed := label.foldl (pass basic code) moved
    writeAll label basic codes (code + 1) { passed with distance := passed.distance + 1 }

def encode (label : List Char) : List Char :=
  let basic := label.filter fun c => c.toNat < 128
  let codes := ((label.filter fun c => 128 ≤ c.toNat).map Char.toNat).mergeSort.eraseDups
  let start : State := ⟨[], 0, 72, basic.length⟩
  basic ++ (if basic.isEmpty then [] else ['-']) ++
    (writeAll label basic.length codes 128 start).written

def digit? (c : Char) : Option Nat :=
  if 97 ≤ c.toNat ∧ c.toNat ≤ 122 then some (c.toNat - 97)
  else if c.isDigit then some (c.toNat - 22)
  else none

/-- What no sum of distances and no weight of a digit reaches. -/
def limit : Nat := Nat.pow 2 32

/-- The state of reading a label: the text so far, the code and the index that the last distance led
to, and of the distance being read the sum and the weight and place of its next digit. -/
structure Reading where
  text : List Char
  code : Nat
  index : Nat
  sum : Nat
  weight : Nat
  place : Nat
  bias : Nat

def Reading.start (text : List Char) : Reading := ⟨text, 128, 0, 0, 1, 36, 72⟩

def Reading.insert? (reading : Reading) (sum : Nat) : Option Reading :=
  let count := reading.text.length + 1
  let code := reading.code + sum / count
  let index := sum % count
  if code.isValidChar then
    some
      { text := reading.text.take index ++ Char.ofNat code :: reading.text.drop index
        code
        index := index + 1
        sum := index + 1
        weight := 1
        place := 36
        bias := adapt (sum - reading.index) count (reading.index == 0) }
  else none

def Reading.step? (reading : Reading) (value : Nat) : Option Reading :=
  let sum := reading.sum + value * reading.weight
  let least := threshold reading.place reading.bias
  let weight := reading.weight * (36 - least)
  if limit ≤ sum then none
  else if value < least then reading.insert? sum
  else if limit ≤ weight then none
  else some { reading with sum, weight, place := reading.place + 36 }

def readAll? : Reading -> List Char -> Option (List Char)
  | reading, [] => if reading.place = 36 then some reading.text else none
  | reading, c :: rest => do
    let value ← digit? c
    let reading ← reading.step? value
    readAll? reading rest

def decode? (text : List Char) : Option (List Char) :=
  let distances := (text.reverse.takeWhile (· != '-')).reverse
  let basic := text.take (text.length - distances.length - 1)
  if basic.isEmpty then readAll? (.start []) text else readAll? (.start basic) distances

end RelyingParty.Url.Punycode
