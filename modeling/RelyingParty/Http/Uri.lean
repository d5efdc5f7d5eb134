import RelyingParty.Basic

set_option autoImplicit false

namespace RelyingParty.Http

structure Uri where
  scheme : Option String
  authority : String
  path : String
  query : String
  deriving Repr, DecidableEq

namespace Uri

inductive Fault
  | empty
  | tooLong
  | schemeTooLong
  | character
  | authority
  | format
  deriving Repr, DecidableEq

def Fault.message : Fault -> String
  | .empty => "empty string"
  | .tooLong => "uri too long"
  | .schemeTooLong => "scheme too long"
  | .character => "invalid uri character"
  | .authority => "invalid authority"
  | .format => "invalid format"

def maxSize : Nat := 65534

def maxSchemeLength : Nat := 64

def isSchemeChar (c : Char) : Bool := c.isAlphanum || c == '+' || c == '-' || c == '.' || c == '~'

def isAuthorityChar (c : Char) : Bool := c.isAlphanum || "!$&'()*+,-.;=_~".toList.contains c

def endsAuthority (c : Char) : Bool := c == '/' || c == '?' || c == '#'

def isPathChar (c : Char) : Bool :=
  let code := c.toNat
  33 ≤ code && code != 127 && !"#<>?`".toList.contains c

def isQueryChar (c : Char) : Bool :=
  let code := c.toNat
  33 ≤ code && code != 127 && !"\"#<>".toList.contains c

/--
What has been seen of an authority. Signs of the user part and of a bracketed host are forgotten.
-/
structure Scan where
  colons : Nat
  opened : Bool
  closed : Bool
  percent : Bool
  afterAt : Bool
  deriving Repr, DecidableEq

def Scan.start : Scan := ⟨0, false, false, false, false⟩

def maxColons : Nat := 8

def Scan.step (scan : Scan) (c : Char) : Except Fault Scan :=
  if c == ':' then
    if scan.colons < maxColons then .ok { scan with colons := scan.colons + 1, afterAt := false }
    else .error .authority
  else if c == '[' then
    if scan.percent || scan.opened then .error .authority
    else .ok { scan with opened := true, afterAt := false }
  else if c == ']' then
    if scan.opened && !scan.closed then
      .ok { scan with closed := true, colons := 0, percent := false, afterAt := false }
    else .error .authority
  else if c == '@' then .ok { scan with colons := 0, percent := false, afterAt := true }
  else if c == '%' then .ok { scan with percent := true, afterAt := false }
  else if isAuthorityChar c then .ok { scan with afterAt := false }
  else .error .character

def checkAuthority (authority : List Char) : Except Fault Unit := do
  let scan ← authority.foldlM Scan.step Scan.start
  require (scan.opened == scan.closed) .authority
  require (scan.colons ≤ 1) .authority
  require (!scan.afterAt) .authority
  require (!scan.percent) .authority

def splitScheme (text : List Char) : Except Fault (Option String × List Char) :=
  let scheme := text.takeWhile isSchemeChar
  match text.dropWhile isSchemeChar with
  | ':' :: '/' :: '/' :: rest =>
    let name := String.ofList scheme
    let lower := name.toLower
    if lower = "http" ∨ lower = "https" then .ok (some lower, rest)
    else if scheme.length ≤ maxSchemeLength then .ok (some name, rest)
    else .error .schemeTooLong
  | _ => .ok (none, text)

def ofText (text : String) : Except Fault Uri := do
  require (text.utf8ByteSize ≤ maxSize) .tooLong
  let (scheme, rest) ← splitScheme text.toList
  require (!rest.isEmpty) .empty
  let authority := rest.takeWhile (!endsAuthority ·)
  let tail := rest.dropWhile (!endsAuthority ·)
  checkAuthority authority
  match scheme with
  | none =>
    require tail.isEmpty .format
    return ⟨none, String.ofList authority, "", ""⟩
  | some scheme =>
    require (!authority.isEmpty) .format
    -- A fragment is dropped, whatever it holds.
    let visible := tail.takeWhile (· != '#')
    let path := visible.takeWhile (· != '?')
    let query := visible.dropWhile (· != '?')
    require (path.all isPathChar && query.all isQueryChar) .character
    let path := if path.isEmpty then "/" else String.ofList path
    return ⟨some scheme, String.ofList authority, path, String.ofList query⟩

def text (uri : Uri) : String :=
  match uri.scheme with
  | none => uri.authority
  | some scheme => scheme ++ "://" ++ uri.authority ++ uri.path ++ uri.query

end Uri

end RelyingParty.Http
