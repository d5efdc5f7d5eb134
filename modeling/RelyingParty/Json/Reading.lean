import RelyingParty.Json.Token

set_option autoImplicit false

namespace RelyingParty.Json

abbrev Name := Option String

/-- An array or object of which a part has been read, last item or member first. -/
inductive Frame
  | array (items : List Tree)
  | object (members : List (Name × Tree)) (name : Option Name)

inductive Expected
  | value
  | firstItem
  | firstMember
  | member
  | colon
  | separator
  deriving Repr, DecidableEq

/-- The arrays and objects that are open, innermost first, and what may come next. -/
structure Progress where
  expected : Expected
  frames : List Frame

/-- What was read of the outermost array or object of a text that breaks off. -/
inductive Partial
  | scalar
  | array (items : List Tree) (open? : Option Opening)
  | object (members : List (Name × Tree)) (name : Option Name) (open? : Option Opening)

inductive Reading
  | whole (tree : Tree) (rest : List Token)
  | broken (sofar : Partial)

namespace Frame

def opening : Frame -> Opening
  | .array _ => .array
  | .object _ _ => .object

def close : Frame -> Tree
  | .array items => .array items.reverse
  | .object members _ => .object members.reverse

def add (tree : Tree) : Frame -> Frame
  | .array items => .array (tree :: items)
  | .object members name => .object ((name.getD none, tree) :: members) none

end Frame

namespace Progress

def start : Progress := ⟨.value, []⟩

def sofar (progress : Progress) : Partial :=
  match progress.frames.reverse with
  | [] => .scalar
  | .array items :: inner => .array items.reverse (inner.head?.map Frame.opening)
  | .object members name :: inner => .object members.reverse name (inner.head?.map Frame.opening)

def complete (tree : Tree) : List Frame -> Tree ⊕ Progress
  | [] => .inl tree
  | frame :: outer => .inr ⟨.separator, frame.add tree :: outer⟩

def enter (kind : Opening) (frames : List Frame) : Progress :=
  match kind with
  | .array => ⟨.firstItem, .array [] :: frames⟩
  | .object => ⟨.firstMember, .object [] none :: frames⟩

def step (progress : Progress) (token : Token) : Option (Tree ⊕ Progress) :=
  match progress.expected, token, progress.frames with
  | .value, .leaf tree, frames | .firstItem, .leaf tree, frames => some (complete tree frames)
  | .value, .opening kind, frames | .firstItem, .opening kind, frames =>
    some (.inr (enter kind frames))
  | .firstItem, .closing .array, frame :: outer => some (complete frame.close outer)
  | .firstMember, .closing .object, frame :: outer => some (complete frame.close outer)
  | .firstMember, .leaf (.string name), .object members _ :: outer
  | .member, .leaf (.string name), .object members _ :: outer =>
    some (.inr ⟨.colon, .object members (some name) :: outer⟩)
  | .colon, .colon, frames => some (.inr ⟨.value, frames⟩)
  | .separator, .comma, .array items :: outer => some (.inr ⟨.value, .array items :: outer⟩)
  | .separator, .comma, .object members name :: outer =>
    some (.inr ⟨.member, .object members name :: outer⟩)
  | .separator, .closing kind, frame :: outer =>
    if frame.opening = kind then some (complete frame.close outer) else none
  | _, _, _ => none

def run (progress : Progress) : List Token -> Reading
  | [] => .broken progress.sofar
  | token :: rest =>
    match progress.step token with
    | none => .broken progress.sofar
    | some (.inl tree) => .whole tree rest
    | some (.inr next) => run next rest

end Progress

namespace Reading

def ofBytes (text : Bytes) : Reading := Progress.start.run (Token.ofBytes text)

def ofText (text : String) : Reading := ofBytes (Bytes.ofText text)

def tree? : Reading -> Option Tree
  | .whole tree [] => some tree
  | _ => none

end Reading

def Tree.ofBytes? (text : Bytes) : Option Tree := (Reading.ofBytes text).tree?

def Tree.ofText? (text : String) : Option Tree := (Reading.ofText text).tree?

def ofBytes? (text : Bytes) : Option Json := (Tree.ofBytes? text).bind (Tree.value? 0)

def ofText? (text : String) : Option Json := ofBytes? (Bytes.ofText text)

end RelyingParty.Json
