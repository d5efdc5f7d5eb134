import RelyingParty.Json.Reading
import RelyingParty.Time

set_option autoImplicit false

namespace RelyingParty

structure Claims where
  members : Json.Members
  deriving Repr

namespace Claims

inductive PayloadFault
  | notJson
  | notObject
  deriving Repr, DecidableEq

def PayloadFault.message : PayloadFault -> String
  | .notJson => "claims payload is not valid JSON"
  | .notObject => "claims payload is not a JSON object"

def ofPayload (payload : Bytes) : Except PayloadFault Claims :=
  match Json.ofBytes? payload with
  | some (.object members) => .ok ⟨members⟩
  | some _ => .error .notObject
  | none => .error .notJson

def get? (claims : Claims) (name : String) : Option Json := claims.members.get? name

def string? (claims : Claims) (name : String) : Option String :=
  (claims.get? name).bind Json.string?

def audiencesOf? : Json -> Option (List String)
  | .string audience => some [audience]
  | value => value.strings?

def audiences? (claims : Claims) : Option (List String) := (claims.get? "aud").bind audiencesOf?

def instantOf? : Json -> Option Instant
  | .number value => Instant.ofNumber? value
  | _ => none

def timestamp? (claims : Claims) (name : String) : Option Instant :=
  (claims.get? name).bind instantOf?

end Claims

end RelyingParty
