import RelyingParty.Verification.Fault

set_option autoImplicit false

namespace RelyingParty

inductive Event
  | signatureKeys (id : Option String) (algorithm : Signing) (candidates : Option Nat)
  | decryptionKeys (id : Option String) (algorithm : KeyManagement) (method : ContentEncryption)
      (candidates : Option Nat)
  | authContext (context : Option String)
  | authTime (time : Option Instant)
  deriving Repr, DecidableEq

structure Run where
  session : Session
  events : List Event

namespace Run

def start (session : Session) : Run := ⟨session, []⟩

def record (event : Event) : StateM Run Unit :=
  modify fun run => { run with events := run.events ++ [event] }

/-- Asks a source, which sees the session and nothing else, and records its answer. -/
def ask (question : StateM Session Candidates) (event : Option Nat -> Event) :
    StateM Run Candidates := do
  let run ← get
  let (answer, session) := question.run run.session
  set { run with session }
  record (event (answer.toOption.map List.length))
  return answer

end Run

def firstSuccess? {F K A : Type} (attempt : K -> Except F A) : List K -> Option A
  | [] => none
  | key :: rest =>
    match attempt key with
    | .ok result => some result
    | .error _ => firstSuccess? attempt rest

structure SignatureSelector (A : Type) where
  issuer : UrlText
  algorithm : A
  source : KeySource A

namespace SignatureSelector

def selectKeys (selector : SignatureSelector Signing) (declared : Signing) (id : Option String) :
    StateM Run (Except ProtectionFault (List Key)) := do
  if declared = selector.algorithm then
    let answer ← Run.ask (selector.source.signatureKeys id selector.algorithm)
      (Event.signatureKeys id selector.algorithm)
    return answer.mapError .keySource
  else return .error (.otherSigning selector.algorithm declared)

def verifyWith (selector : SignatureSelector Signing) (token : SignedToken)
    (candidates : List Key) : Except ProtectionFault Unit :=
  let attempt (key : Key) :=
    key.verifySignature selector.algorithm (Bytes.ofText token.signingInput) token.signature
  orFault (if candidates.isEmpty then .noVerificationKey else .notVerified)
    (firstSuccess? attempt candidates)

def verify (selector : SignatureSelector Signing) (token : SignedToken) :
    StateM Run (Except ProtectionFault Unit) := do
  match ← selector.selectKeys token.algorithm token.header.keyId with
  | .ok candidates => return selector.verifyWith token candidates
  | .error fault => return .error fault

end SignatureSelector

structure DecryptionSelector (A : Type) where
  clientId : String
  algorithm : KeyManagement
  method : ContentEncryption
  source : KeySource A

namespace DecryptionSelector

def selectKeys (selector : DecryptionSelector Signing)
    (declared : KeyManagement × ContentEncryption) (id : Option String) :
    StateM Run (Except ProtectionFault (List Key)) := do
  let expected := (selector.algorithm, selector.method)
  if declared = expected then
    let answer ← Run.ask (selector.source.decryptionKeys id selector.algorithm selector.method)
      (Event.decryptionKeys id selector.algorithm selector.method)
    return answer.mapError .keySource
  else return .error (.otherEncryption expected declared)

def decryptWith (selector : DecryptionSelector Signing) (token : EncryptedToken)
    (candidates : List Key) : Except ProtectionFault Bytes :=
  let attempt (key : Key) := key.decrypt selector.algorithm selector.method token.content
  orFault (if candidates.isEmpty then .noDecryptionKey else .notDecrypted)
    (firstSuccess? attempt candidates)

def decrypt (selector : DecryptionSelector Signing) (token : EncryptedToken) :
    StateM Run (Except ProtectionFault Bytes) := do
  match ← selector.selectKeys (token.algorithm, token.method) token.header.keyId with
  | .ok candidates => return selector.decryptWith token candidates
  | .error fault => return .error fault

end DecryptionSelector

end RelyingParty
