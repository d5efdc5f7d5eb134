import RelyingParty.Json.Reading
import RelyingParty.Proofs.Binary64

set_option autoImplicit false

namespace RelyingParty.Json

def Number.Held : Number -> Prop
  | .int value => -2 ^ 63 ≤ value ∧ value < 2 ^ 64
  | .float value => value.InFormat

namespace Numeral

theorem divideBy?_inFormat (f value : Binary64) (power : Nat)
    (divided : divideBy? f power = some value) : value.InFormat := by
  obtain ⟨divisor, _, quotient⟩ := Option.bind_eq_some_iff.mp divided
  exact (Binary64.ofRat?_nearest _ value quotient).inFormat

theorem fromParts?_inFormat (significand : Nat) (exponent : Int) (value : Binary64)
    (made : fromParts? significand exponent = some value) : value.InFormat := by
  obtain ⟨f, rounded, made⟩ := Option.bind_eq_some_iff.mp made
  cases exponent with
  | ofNat power =>
    dsimp only at made
    split at made
    next =>
      obtain ⟨factor, _, product⟩ := Option.bind_eq_some_iff.mp made
      exact (Binary64.ofRat?_nearest _ value product).inFormat
    next =>
      split at made
      next =>
        cases made
        exact (Binary64.ofRat?_nearest _ _ rounded).inFormat
      next => cases made
  | negSucc power =>
    -- The last quotient is rounded, whatever was divided before.
    obtain ⟨shrunk, _, made⟩ := Option.bind_eq_some_iff.mp made
    exact divideBy?_inFormat shrunk value _ made

theorem float?_inFormat (numeral : Numeral) (value : Binary64)
    (spelled : numeral.float? = some value) : value.InFormat := by
  obtain ⟨f, made, rfl⟩ := Option.map_eq_some_iff.mp spelled
  obtain ⟨significand, least, greatest, normal⟩ := fromParts?_inFormat _ _ f made
  exact ⟨significand, least, greatest, normal⟩

theorem number?_held (numeral : Numeral) (number : Number)
    (spelled : numeral.number? = some number) : number.Held := by
  unfold number? at spelled
  dsimp only at spelled
  have below : (if numeral.negative then -(numeral.significand : Int) else numeral.significand) <
      2 ^ 64 := by
    have fits : numeral.significand < 2 ^ 64 := numeral.fits
    split <;> omega
  generalize (if numeral.negative then -(numeral.significand : Int) else numeral.significand) =
    value at spelled below
  split at spelled
  next small =>
    cases spelled
    simp only [Bool.and_eq_true, decide_eq_true_eq] at small
    exact ⟨small.2, below⟩
  next =>
    obtain ⟨value, float, rfl⟩ := Option.map_eq_some_iff.mp spelled
    exact numeral.float?_inFormat value float

end Numeral

inductive Tree.Held : Tree -> Prop
  | null : Held .null
  | bool (value : Bool) : Held (.bool value)
  | number (value : Option Number) (held : ∀ number ∈ value, number.Held) : Held (.number value)
  | string (text : Option String) : Held (.string text)
  | array (items : List Tree) (held : ∀ item ∈ items, Held item) : Held (.array items)
  | object (members : List (Option String × Tree)) (held : ∀ member ∈ members, Held member.2) :
    Held (.object members)

namespace Token

def Held : Token -> Prop
  | .leaf tree => tree.Held
  | _ => True

def Scanner.Held : Scanner -> Prop
  | .word _ tree => tree.Held
  | _ => True

theorem continueNumeral_held (part : NumeralPart) (numeral : Numeral) (byte : UInt8)
    (next : Scanner) (continued : continueNumeral part numeral byte = some next) : next.Held := by
  unfold continueNumeral at continued
  grind [Scanner.Held]

structure Step.Held (step : Step) : Prop where
  tokens : ∀ token ∈ step.1, token.Held
  next : ∀ scanner ∈ step.2, scanner.Held

theorem goOn_held (next : Option Scanner) (held : ∀ scanner ∈ next, scanner.Held) :
    Step.Held (goOn next) :=
  ⟨nofun, held⟩

theorem begin_held (byte : UInt8) :
    ∀ begun ∈ begin byte, (∀ token ∈ begun.1, token.Held) ∧ begun.2.Held := by
  have noNumber : Tree.null.Held ∧ ∀ value, (Tree.bool value).Held := ⟨.null, .bool⟩
  fun_cases begin byte with
  | case13 =>
    intro begun found
    obtain ⟨next, continued, rfl⟩ := Option.map_eq_some_iff.mp found
    exact ⟨nofun, continueNumeral_held _ _ _ next continued⟩
  | _ => simp [Held, Scanner.Held, noNumber]

theorem beginStep_held (byte : UInt8) : Step.Held (beginStep byte) := by
  unfold beginStep
  split
  next token next begun =>
    obtain ⟨completed, going⟩ := begin_held byte _ begun
    exact ⟨by simpa using completed, by simpa using going⟩
  next => exact ⟨nofun, nofun⟩

theorem step_held (scanner : Scanner) (held : scanner.Held) (byte : UInt8) :
    Step.Held (step scanner byte) := by
  fun_cases step scanner byte with
  | case1 => exact beginStep_held byte
  | case2 tree =>
    have leaf : (Token.leaf tree).Held := held
    exact ⟨by simpa using leaf, by simp [Scanner.Held]⟩
  | case4 expected rest tree =>
    refine goOn_held _ ?_
    split
    next =>
      have remaining : (Scanner.word rest tree).Held := held
      simpa using remaining
    next => exact nofun
  | case6 part numeral _ next continued =>
    exact goOn_held _ (by simpa using continueNumeral_held part numeral byte next continued)
  | case8 part numeral _ _ _ tokens next begun =>
    have followed := beginStep_held byte
    rw [begun] at followed
    -- The byte ends the numeral before it begins what comes next.
    refine ⟨fun token found => ?_, followed.next⟩
    rcases List.mem_cons.mp found with rfl | later
    next => exact .number _ numeral.number?_held
    next => exact followed.tokens token later
  | case9 pieces =>
    have leaf : (Token.leaf (.string (Text.text? pieces.reverse))).Held := .string _
    exact ⟨by simpa using leaf, by simp [Scanner.Held]⟩
  | case14 pieces =>
    refine goOn_held _ fun scanner found => ?_
    obtain ⟨_, _, rfl⟩ := Option.map_eq_some_iff.mp found
    trivial
  | case15 missing value pieces =>
    refine goOn_held _ fun scanner found => ?_
    obtain ⟨_, _, rfl⟩ := Option.map_eq_some_iff.mp found
    dsimp only
    split <;> trivial
  | _ => exact goOn_held _ (by simp [Scanner.Held])

theorem finish_held (scanner : Scanner) : ∀ token ∈ finish scanner, token.Held := by
  fun_cases finish scanner with
  | case2 part numeral =>
    have number : (Token.leaf (.number numeral.number?)).Held := .number _ numeral.number?_held
    simpa using number
  | _ => simp [Held]

theorem scan_held (text : Bytes) (scanner : Scanner) (held : scanner.Held) :
    ∀ token ∈ scan scanner text, token.Held := by
  -- Whatever a byte leads to, the scanner goes on with a word for a held leaf or with none.
  induction text generalizing scanner with
  | nil => exact finish_held scanner
  | cons byte rest ih =>
    have stepped := step_held scanner held byte
    unfold scan
    split
    next tokens next continued =>
      rw [continued] at stepped
      exact List.forall_mem_append.mpr ⟨stepped.tokens, ih next (stepped.next next rfl)⟩
    next tokens ended =>
      rw [ended] at stepped
      exact List.forall_mem_append.mpr ⟨stepped.tokens, by simp [Held]⟩

theorem ofBytes_held (text : Bytes) : ∀ token ∈ ofBytes text, token.Held :=
  scan_held text .between trivial

end Token

def Frame.Held : Frame -> Prop
  | .array items => ∀ item ∈ items, item.Held
  | .object members _ => ∀ member ∈ members, member.2.Held

theorem Frame.add_held (frame : Frame) (tree : Tree) (treeHeld : tree.Held) (held : frame.Held) :
    (frame.add tree).Held := by
  cases frame with
  | array items => exact List.forall_mem_cons.mpr ⟨treeHeld, held⟩
  | object members name => exact List.forall_mem_cons.mpr ⟨treeHeld, held⟩

theorem Frame.close_held (frame : Frame) (held : frame.Held) : frame.close.Held := by
  cases frame with
  | array items => exact .array _ fun item found => held item (List.mem_reverse.mp found)
  | object members name =>
    exact .object _ fun member found => held member (List.mem_reverse.mp found)

namespace Progress

def Held (progress : Progress) : Prop := ∀ frame ∈ progress.frames, frame.Held

def OutcomeHeld : Tree ⊕ Progress -> Prop
  | .inl tree => tree.Held
  | .inr progress => progress.Held

theorem complete_held (tree : Tree) (treeHeld : tree.Held) (frames : List Frame)
    (held : ∀ frame ∈ frames, frame.Held) : OutcomeHeld (complete tree frames) := by
  cases frames with
  | nil => exact treeHeld
  | cons frame outer =>
    obtain ⟨inner, others⟩ := List.forall_mem_cons.mp held
    exact List.forall_mem_cons.mpr ⟨frame.add_held tree treeHeld inner, others⟩

theorem enter_held (kind : Opening) (frames : List Frame) (held : ∀ frame ∈ frames, frame.Held) :
    (enter kind frames).Held := by
  cases kind <;> exact List.forall_mem_cons.mpr ⟨nofun, held⟩

theorem step_held (progress : Progress) (held : progress.Held) (token : Token)
    (tokenHeld : token.Held) :
    ∀ outcome, progress.step token = some outcome -> OutcomeHeld outcome := by
  have frames : ∀ frame ∈ progress.frames, frame.Held := held
  fun_cases step progress token with
  | case1 tree | case2 tree =>
    rintro _ ⟨⟩
    exact complete_held tree tokenHeld _ frames
  | case3 kind | case4 kind =>
    rintro _ ⟨⟩
    exact enter_held kind _ frames
  | case5 frame outer stack | case6 frame outer stack | case12 frame outer stack =>
    rintro _ ⟨⟩
    obtain ⟨inner, others⟩ := List.forall_mem_cons.mp (stack ▸ frames)
    exact complete_held _ (frame.close_held inner) outer others
  | case7 name members last outer stack | case8 name members last outer stack =>
    rintro _ ⟨⟩
    obtain ⟨inner, others⟩ := List.forall_mem_cons.mp (stack ▸ frames)
    exact List.forall_mem_cons.mpr ⟨inner, others⟩
  | case9 =>
    rintro _ ⟨⟩
    exact frames
  | case10 items outer stack | case11 members name outer stack =>
    rintro _ ⟨⟩
    exact stack ▸ frames
  | case13 | case14 => exact nofun

theorem run_held (tokens : List Token) (tokensHeld : ∀ token ∈ tokens, token.Held)
    (progress : Progress) (held : progress.Held) (tree : Tree) (rest : List Token)
    (read : progress.run tokens = .whole tree rest) : tree.Held := by
  induction tokens generalizing progress with
  | nil => cases read
  | cons token tokens ih =>
    obtain ⟨first, others⟩ := List.forall_mem_cons.mp tokensHeld
    have stepped := step_held progress held token first
    unfold run at read
    split at read
    next => cases read
    next whole complete =>
      cases read
      exact stepped _ complete
    next following continued => exact ih others following (stepped _ continued) read

end Progress

theorem Reading.ofBytes_held (text : Bytes) (tree : Tree) (rest : List Token)
    (read : Reading.ofBytes text = .whole tree rest) : tree.Held :=
  Progress.run_held (Token.ofBytes text) (Token.ofBytes_held text) .start nofun tree rest read

theorem Tree.ofBytes?_held (text : Bytes) (tree : Tree) (read : Tree.ofBytes? text = some tree) :
    tree.Held := by
  unfold Tree.ofBytes? Reading.tree? at read
  split at read
  next whole complete =>
    cases read
    exact Reading.ofBytes_held text _ _ complete
  next => cases read

theorem Tree.value?_number (enclosing : Nat) (tree : Tree) (number : Number)
    (read : value? enclosing tree = some (.number number)) : tree = .number (some number) := by
  cases tree with
  | number value =>
    obtain ⟨_, rfl, same⟩ := Option.map_eq_some_iff.mp read
    cases same
    rfl
  | null | bool _ => cases read
  | string text =>
    obtain ⟨_, _, same⟩ := Option.map_eq_some_iff.mp read
    cases same
  | array _ | object _ =>
    unfold value? at read
    split at read
    next =>
      obtain ⟨_, _, same⟩ := Option.map_eq_some_iff.mp read
      cases same
    next => cases read

theorem Tree.members?_number (enclosing : Nat) (written : List (Option String × Tree))
    (values : List (String × Json)) (read : members? enclosing written = some values)
    (name : String) (number : Number) (found : (name, .number number) ∈ values) :
    (some name, .number (some number)) ∈ written := by
  induction written generalizing values with
  | nil =>
    cases read
    cases found
  | cons member rest ih =>
    obtain ⟨first, tree⟩ := member
    simp only [members?, Option.bind_eq_bind, Option.bind_eq_some_iff] at read
    obtain ⟨text, rfl, value, valueRead, later, laterRead, made⟩ := read
    cases made
    rcases List.mem_cons.mp found with head | tail
    next =>
      cases head
      rw [value?_number enclosing tree number valueRead]
      exact List.mem_cons_self
    next => exact List.mem_cons_of_mem _ (ih later laterRead tail)

end RelyingParty.Json
