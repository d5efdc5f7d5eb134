import RelyingParty.KeySet.Fetch
import RelyingParty.Key.Decryption
import RelyingParty.Key.Signature

set_option autoImplicit false

namespace RelyingParty

inductive KeySourceFault
  | fetch (message : String)
  | response (status : Nat) (message : String)
  | document (text : String)
  | other (message : String)
  deriving Repr, DecidableEq

namespace KeySourceFault

def message : KeySourceFault -> String
  | .fetch message => s!"Failed to fetch key set: {message}"
  | .response status message => s!"Invalid key set response ({Http.Status.text status}): {message}"
  | .document text => s!"Failed to parse key set: {text}"
  | .other message => s!"Other error: {message}"

def ofFetch : FetchFault -> KeySourceFault
  | .request fault => .other (FetchFault.requestMessage fault)
  | .client message => .fetch message
  | .response answer fault => .response answer.status fault.message
  | .document fault => .document fault.message

end KeySourceFault

abbrev Candidates := Except KeySourceFault (List Key)

structure KeySource (A : Type) where
  signatureKeys : Option String -> A -> StateM Session Candidates
  decryptionKeys : Option String -> KeyManagement -> ContentEncryption -> StateM Session Candidates

def Key.hasId (key : Key) : Option String -> Bool
  | some id => key.id == some id
  | none => true

namespace KeySet

def signatureKeys {A : Type} [SigningAlgorithm A] (set : KeySet) (id : Option String)
    (algorithm : A) : List Key :=
  set.keys.filter fun key => key.hasId id && (key.checkSigning algorithm).isOk

/-- The keys of a set for decryption. The method limits the length of a key, which is tried. -/
def decryptionKeys (set : KeySet) (id : Option String) (algorithm : KeyManagement) : List Key :=
  set.keys.filter fun key => key.hasId id && (key.checkDecrypting algorithm).isOk

def source {A : Type} [SigningAlgorithm A] (set : KeySet) : KeySource A where
  signatureKeys id algorithm := return .ok (set.signatureKeys id algorithm)
  decryptionKeys id algorithm _ := return .ok (set.decryptionKeys id algorithm)

end KeySet

def ClientSecret.keys {A : Type} [SigningAlgorithm A] (secret : String) (algorithm : A) :
    List Key :=
  match SigningAlgorithm.family algorithm with
  -- The secret has no identifier, so it is a candidate whatever a token names.
  | .sharedSecret => [Key.symmetric (Bytes.ofText secret)]
  | _ => []

def ClientSecret.source {A : Type} [SigningAlgorithm A] (secret : String) : KeySource A where
  signatureKeys _ algorithm := return .ok (ClientSecret.keys secret algorithm)
  decryptionKeys _ _ _ := return .ok []

structure RemoteKeySet where
  slot : Nat
  url : UrlText
  lifespan : Nat
  /-- How many seconds pass before a missing key identifier makes a response outdated. -/
  refreshInterval : Nat
  deriving Repr, DecidableEq

namespace RemoteKeySet

def of (slot : Nat) (url : UrlText) : RemoteKeySet := ⟨slot, url, 300, 30⟩

def isOutdated (remote : RemoteKeySet) (kept : KeptKeySet) (now : Nat) (id : Option String) :
    Bool :=
  let age := now - kept.since
  remote.lifespan ≤ age ||
    id.any fun id => !kept.keySet.containsId id && remote.refreshInterval ≤ age

def refresh (remote : RemoteKeySet) : StateM Session (Except FetchFault KeySet) := do
  match ← KeySet.fetch remote.url with
  | .error fault => return .error fault
  | .ok keySet =>
    Session.keep remote.slot keySet
    return .ok keySet

def keySet (remote : RemoteKeySet) (id : Option String) :
    StateM Session (Except FetchFault KeySet) := do
  let session ← get
  match session.kept remote.slot with
  | none => remote.refresh
  | some kept =>
    -- A refresh that fails leaves what is kept in its place, with its age.
    if remote.isOutdated kept session.clock id then remote.refresh else return .ok kept.keySet

def answer (remote : RemoteKeySet) (id : Option String) (keys : KeySet -> List Key) :
    StateM Session Candidates := do
  match ← remote.keySet id with
  | .ok keySet => return .ok (keys keySet)
  | .error fault => return .error (.ofFetch fault)

def source {A : Type} [SigningAlgorithm A] (remote : RemoteKeySet) : KeySource A where
  signatureKeys id algorithm := remote.answer id fun keySet => keySet.signatureKeys id algorithm
  decryptionKeys id algorithm _ := remote.answer id fun keySet => keySet.decryptionKeys id algorithm

end RemoteKeySet

end RelyingParty
