import RelyingParty.Verification.Selector

set_option autoImplicit false

namespace RelyingParty

structure Expectation (A : Type) where
  validator : Validator
  signature : Option (SignatureSelector A)
  decryption : Option (DecryptionSelector A)
  authContext : Option String -> Except String Unit
  authTime : Option Instant -> Except String Unit

abbrev Verifier := Expectation Signing

namespace Verifier

def of {A : Type} (issuer : UrlText) (clientId : String) (signature : Option (SignatureSelector A))
    (decryption : Option (DecryptionSelector A)) : Expectation A where
  validator := .of issuer clientId
  signature
  decryption
  authContext _ := .ok ()
  authTime _ := .ok ()

def unsecured (issuer : UrlText) (clientId : String) : Verifier := of issuer clientId none none

def ofSource (issuer : UrlText) (clientId : String) (algorithm : Signing)
    (source : KeySource Signing) : Verifier :=
  of issuer clientId (some { issuer, algorithm, source }) none

def ofKeySet (issuer : UrlText) (clientId : String) (algorithm : Signing) (keySet : KeySet) :
    Verifier :=
  ofSource issuer clientId algorithm keySet.source

def ofKeySetUrl (issuer : UrlText) (clientId : String) (algorithm : Signing) (slot : Nat)
    (url : UrlText) : Verifier :=
  ofSource issuer clientId algorithm (RemoteKeySet.of slot url).source

def ofClientSecret (issuer : UrlText) (clientId : String) (algorithm : Signing) (secret : String) :
    Verifier :=
  ofSource issuer clientId algorithm (ClientSecret.source secret)

def withSkew (verifier : Verifier) (skew : Duration) : Verifier :=
  { verifier with validator := { verifier.validator with skew } }

def withAuthContext (verifier : Verifier) (check : Option String -> Except String Unit) :
    Verifier :=
  { verifier with authContext := check }

def withAuthTime (verifier : Verifier) (check : Option Instant -> Except String Unit) : Verifier :=
  { verifier with authTime := check }

def unsecuredPayload (verifier : Verifier) (payload : Bytes) : Except ProtectionFault Bytes :=
  if verifier.signature.isSome then .error .unsecured else .ok payload

def signedPayload (verifier : Verifier) (token : SignedToken) :
    StateM Run (Except ProtectionFault Bytes) := do
  match verifier.signature with
  | none => return .error .verificationNotConfigured
  | some selector =>
    match ← selector.verify token with
    | .ok () => return .ok token.payload
    | .error fault => return .error fault

def contentPayload (verifier : Verifier) (content : Bytes) :
    StateM Run (Except VerificationFault Bytes) := do
  match Bytes.text? content with
  | none => return .error (.shape .contentNotText)
  | some text =>
    match Token.ofText text with
    | .error fault => return .error (.shape (.token fault))
    | .ok (.unsecured _) => return .error (.protection .unsecuredContent)
    | .ok (.encrypted _) => return .error (.shape .nestedEncryption)
    | .ok (.signed token) => return (← verifier.signedPayload token).mapError .protection

def encryptedPayload (verifier : Verifier) (token : EncryptedToken) :
    StateM Run (Except VerificationFault Bytes) := do
  match verifier.decryption, verifier.signature with
  | none, _ => return .error (.protection .decryptionNotConfigured)
  -- Whoever has the key can encrypt, so that the content has to be signed as well.
  | some _, none => return .error (.protection .verificationNotConfigured)
  | some selector, some _ =>
    match ← selector.decrypt token with
    | .error fault => return .error (.protection fault)
    | .ok content => verifier.contentPayload content

def payload (verifier : Verifier) : Token -> StateM Run (Except VerificationFault Bytes)
  | .unsecured payload => return (verifier.unsecuredPayload payload).mapError .protection
  | .signed token => return (← verifier.signedPayload token).mapError .protection
  | .encrypted token => verifier.encryptedPayload token

def checkClaims (verifier : Verifier) (claims : Claims) (nonce : Option String) (now : Instant) :
    StateM Run (Except ClaimFault Unit) := do
  match verifier.validator.validate claims nonce now with
  | .error fault => return .error fault
  | .ok () =>
    let context := claims.string? "acr"
    -- The checks of the caller come last, and only for claims that are otherwise in order.
    Run.record (.authContext context)
    match verifier.authContext context with
    | .error reason => return .error (.authContext reason)
    | .ok () =>
      let time := claims.timestamp? "auth_time"
      Run.record (.authTime time)
      return (verifier.authTime time).mapError .authTime

def verifyContent (verifier : Verifier) (payload : Bytes) (nonce : Option String) (now : Instant) :
    StateM Run (Except VerificationFault IdToken) := do
  match Claims.ofPayload payload with
  | .error fault => return .error (.content (.payload fault))
  | .ok claims =>
    match ← verifier.checkClaims claims nonce now with
    | .error fault => return .error (.claim fault)
    | .ok () => return (IdToken.ofClaims claims).mapError fun fault => .content (.claims fault)

def verify (verifier : Verifier) (text : String) (nonce : Option String) (now : Instant) :
    StateM Run (Except VerificationFault IdToken) := do
  match Token.ofText text with
  | .error fault => return .error (.shape (.token fault))
  | .ok token =>
    match ← verifier.payload token with
    | .error fault => return .error fault
    | .ok payload => verifier.verifyContent payload nonce now

end Verifier

end RelyingParty
