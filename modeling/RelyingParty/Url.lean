import RelyingParty.Json.Tree
import RelyingParty.Url.Host

set_option autoImplicit false

namespace RelyingParty

/-- The parts of a URL, each escaped as in its text. Without a host there is no authority. -/
structure Url where
  scheme : String
  userInfo : String
  host : Option String
  port : Option Nat
  path : String
  query : Option String
  fragment : Option String
  deriving Repr, DecidableEq

namespace Url

inductive SchemeKind
  | special
  | file
  | general
  deriving Repr, DecidableEq

def SchemeKind.of (scheme : String) : SchemeKind :=
  if ["http", "https", "ws", "wss", "ftp"].contains scheme then .special
  else if scheme = "file" then .file
  else .general

def defaultPort (scheme : String) : Option Nat :=
  match scheme with
  | "http" | "ws" => some 80
  | "https" | "wss" => some 443
  | "ftp" => some 21
  | _ => none

def trim (text : List Char) : List Char :=
  let blank (c : Char) : Bool := decide (c.toNat ≤ 32)
  let inner := ((text.dropWhile blank).reverse.dropWhile blank).reverse
  inner.filter fun c => !(c == '\t' || c == '\n' || c == '\r')

def inScheme (c : Char) : Bool := c.isAlphanum || c == '+' || c == '-' || c == '.'

def splitScheme : List Char -> Option (String × List Char)
  | [] => none
  | first :: text =>
    if first.isAlpha then
      match text.dropWhile inScheme with
      | ':' :: rest =>
        some (String.ofList ((first :: text.takeWhile inScheme).map Char.toLower), rest)
      | _ => none
    else none

def isSlash (kind : SchemeKind) (c : Char) : Bool := c == '/' || (kind != .general && c == '\\')

def endsAuthority (kind : SchemeKind) (c : Char) : Bool := isSlash kind c || c == '?' || c == '#'

def userInfoText (text : List Char) : List Char :=
  let encode := Percent.encode Percent.userInfo
  let name := encode (text.takeWhile (· != ':'))
  let password := encode ((text.dropWhile (· != ':')).drop 1)
  if name.isEmpty && password.isEmpty then []
  else if password.isEmpty then name ++ ['@']
  else name ++ ':' :: password ++ ['@']

def splitUserInfo (kind : SchemeKind) (text : List Char) : Option (List Char) × List Char :=
  let authority := text.takeWhile fun c => !endsAuthority kind c
  let after := text.drop authority.length
  let host := (authority.reverse.takeWhile (· != '@')).reverse
  if host.length = authority.length then (none, text)
  else (some (authority.take (authority.length - host.length - 1)), host ++ after)

def hostLength (kind : SchemeKind) : Bool -> List Char -> Nat
  | _, [] => 0
  | bracketed, c :: rest =>
    if (c == ':' && !bracketed) || endsAuthority kind c then 0
    else 1 + hostLength kind (c == '[' || (bracketed && c != ']')) rest

def readPort (text : List Char) : Except Fault (Option Nat × List Char) :=
  let digits := text.takeWhile Char.isDigit
  let rest := text.drop digits.length
  let value := digits.foldl (fun total c => 10 * total + (c.toNat - 48)) 0
  let ended := match rest with
    | [] => true
    | c :: _ => c == '/' || c == '\\' || c == '?' || c == '#'
  if 65535 < value ∨ !ended then .error .invalidPort
  else .ok (if digits.isEmpty then none else some value, rest)

def isSingleDot (segment : List Char) : Bool :=
  [".", "%2e"].contains (String.ofList (segment.map Char.toLower))

def isDoubleDot (segment : List Char) : Bool :=
  ["..", ".%2e", "%2e.", "%2e%2e"].contains (String.ofList (segment.map Char.toLower))

def isDrive : List Char -> Bool
  | [letter, sign] => letter.isAlpha && (sign == ':' || sign == '|')
  | _ => false

def isOnDrive (segment : List Char) : Bool :=
  isDrive (segment.take 2) && (segment.drop 2).head?.all (· == '\\')

/-- The segments above some, given last first. There is nothing above a drive. -/
def above : List (List Char) -> List (List Char)
  | [] => []
  | last :: before => if isOnDrive last then last :: before else before

def firstSegment (kind : SchemeKind) (segment : List Char) : List Char :=
  if kind = .file ∧ isDrive segment then segment.take 1 ++ [':'] else segment

/-- Resolves dots among the segments of a path; those kept so far are given last first. -/
def resolve (kind : SchemeKind) : List (List Char) -> List (List Char) -> List (List Char)
  | kept, [] => kept.reverse
  | kept, segment :: rest =>
    if isDoubleDot segment then
      resolve kind (if rest.isEmpty then [] :: above kept else above kept) rest
    else if isSingleDot segment then resolve kind (if rest.isEmpty then [] :: kept else kept) rest
    else if kept.isEmpty then resolve kind [firstSegment kind segment] rest
    else resolve kind (segment :: kept) rest

def dropSlash (kind : SchemeKind) : List Char -> List Char
  | [] => []
  | c :: rest => if isSlash kind c then rest else c :: rest

def segmentsAfter (kind : SchemeKind) (before : List (List Char)) (text : List Char) :
    List (List Char) :=
  resolve kind before ((text.splitOnP (isSlash kind)).map (Percent.encode Percent.path))

def joinSegments (segments : List (List Char)) : List Char := '/' :: ['/'].intercalate segments

def rootedPath (kind : SchemeKind) (text : List Char) : List Char :=
  if kind = .general ∧ text.isEmpty then []
  else joinSegments (segmentsAfter kind [] (dropSlash kind text))

def splitPath (text : List Char) : List Char × Option (List Char) × Option (List Char) :=
  let path := text.takeWhile fun c => c != '?' && c != '#'
  let rest := text.drop path.length
  let (query, rest) :=
    match rest with
    | '?' :: after =>
      let query := after.takeWhile (· != '#')
      (some query, after.drop query.length)
    | rest => (none, rest)
  let fragment :=
    match rest with
    | '#' :: after => some after
    | _ => none
  (path, query, fragment)

def assemble (scheme userInfo : String) (host : Option String) (port : Option Nat)
    (writePath : List Char -> List Char) (text : List Char) : Url :=
  let (path, query, fragment) := splitPath text
  let queryClass :=
    if SchemeKind.of scheme = .general then Percent.query else Percent.specialQuery
  { scheme, userInfo, host, port
    path := String.ofList (writePath path)
    query := query.map fun text => String.ofList (Percent.encode queryClass text)
    fragment := fragment.map fun text => String.ofList (Percent.encode Percent.fragment text) }

def readAuthority (scheme : String) (text : List Char) : Except Fault Url := do
  let kind := SchemeKind.of scheme
  let (userInfo, rest) := splitUserInfo kind text
  -- A sign of the user part with nothing on either side of it is no host.
  let bare := userInfo = some [] && rest.head?.any (endsAuthority kind)
  let length := hostLength kind false rest
  let hostText := rest.take length
  let host ← if kind = .general then Host.general hostText
    else if hostText.isEmpty then .error .emptyHost else Host.special hostText
  let (port, rest) ← match rest.drop length with
    | ':' :: after => if host.isEmpty then .error .emptyHost else readPort after
    | after => .ok (none, after)
  let userInfo := String.ofList (userInfoText (userInfo.getD []))
  if bare || (host.isEmpty && !userInfo.isEmpty) then .error .emptyHost
  else
    let port := if port = defaultPort scheme then none else port
    return assemble scheme userInfo (some host) port (rootedPath kind) rest

/--
The URL of a file, whose path has no empty segments in front. What names a drive has no host.
-/
def assembleFile (host : String) (before : List (List Char)) (text : List Char) : Url :=
  let segments := segmentsAfter .file before (splitPath text).1
  let host := if segments.head?.any isDrive then "" else host
  let path :=
    match segments.dropWhile List.isEmpty with
    | [] => joinSegments [[]]
    | segments => joinSegments segments
  assemble "file" "" (some host) none (fun _ => path) text

/--
Reads what follows the scheme of a file URL. Where a drive could be a host, it is the drive; behind
a host that is left out, a path begins with an empty segment.
-/
def readFile (text : List Char) : Except Fault Url := do
  let afterSlashes : Option (List Char) :=
    match text with
    | a :: b :: rest => if isSlash .file a && isSlash .file b then some rest else none
    | _ => none
  match afterSlashes with
  | none => return assembleFile "" [] (dropSlash .file text)
  | some rest =>
    let hostText := rest.takeWhile fun c => !endsAuthority .file c
    if isDrive hostText then return assembleFile "" [] rest
    else
      let host ← if hostText.isEmpty then .ok "" else Host.special hostText
      let path := dropSlash .file (rest.drop hostText.length)
      if host.isEmpty || host == "localhost" then return assembleFile "" [[]] path
      else return assembleFile host [] path

def readGeneral (scheme : String) (text : List Char) : Except Fault Url :=
  match text with
  | '/' :: '/' :: rest => readAuthority scheme rest
  | '/' :: _ => .ok (assemble scheme "" none none (rootedPath .general) text)
  | _ => .ok (assemble scheme "" none none (Percent.encode Percent.control) text)

def ofText (text : String) : Except Fault Url :=
  match splitScheme (trim text.toList) with
  | none => .error .relativeWithoutBase
  | some (scheme, rest) =>
    match SchemeKind.of scheme with
    | .special => readAuthority scheme (rest.dropWhile (isSlash .special))
    | .file => readFile rest
    | .general => readGeneral scheme rest

def text (url : Url) : String :=
  let authority :=
    match url.host with
    -- Two slashes in front would be read as the beginning of an authority.
    | none => if url.path.startsWith "//" then "/." else ""
    | some host =>
      "//" ++ url.userInfo ++ host ++
        (match url.port with
          | some port => s!":{port}"
          | none => "")
  url.scheme ++ ":" ++ authority ++ url.path ++
    (match url.query with
      | some query => "?" ++ query
      | none => "") ++
    (match url.fragment with
      | some fragment => "#" ++ fragment
      | none => "")

end Url

/-- A URL together with the text it was read from, which is what counts when URLs are compared. -/
structure UrlText where
  text : String
  url : Url
  deriving Repr, DecidableEq

namespace UrlText

def ofText (text : String) : Except Url.Fault UrlText := (Url.ofText text).map (⟨text, ·⟩)

def ofUrl (url : Url) : UrlText := ⟨url.text, url⟩

def same (left right : UrlText) : Bool := left.text == right.text

def ofTree? : Json.Tree -> Option UrlText
  | .string (some text) => (ofText text).toOption
  | _ => none

def toJson (url : UrlText) : Json := .string url.text

end UrlText

end RelyingParty
