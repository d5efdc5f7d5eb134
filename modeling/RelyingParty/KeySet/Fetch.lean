import RelyingParty.Http.Message
import RelyingParty.KeySet
import RelyingParty.Url

set_option autoImplicit false

namespace RelyingParty

structure KeptKeySet where
  keySet : KeySet
  since : Nat
  deriving Repr, DecidableEq

/-- The state of a session. Requests come oldest first; the clock counts seconds. -/
structure Session where
  client : Http.Client
  requests : List Http.Request
  clock : Nat
  kept : Nat -> Option KeptKeySet

namespace Session

def start (client : Http.Client) : Session := ⟨client, [], 0, fun _ => none⟩

def send (request : Http.Request) : StateM Session (Except String Http.Response) := do
  let session ← get
  set { session with requests := session.requests ++ [request] }
  -- The client may answer the same request in another way next time.
  return session.client session.requests.length

def keep (slot : Nat) (keySet : KeySet) : StateM Session Unit :=
  modify fun session =>
    { session with
      kept := fun other =>
        if other = slot then some ⟨keySet, session.clock⟩ else session.kept other }

end Session

inductive ResponseFault
  | status (code : Nat)
  | contentType (value : Bytes)
  deriving Repr, DecidableEq

def ResponseFault.message : ResponseFault -> String
  | .status code => s!"HTTP status code {Http.Status.text code}"
  | .contentType value =>
    s!"Unexpected response Content-Type: {Http.ContentType.quote value}, should be " ++
      "`" ++ Http.mediaTypeJson ++ "`"

inductive FetchFault
  | request (fault : Http.Uri.Fault)
  | client (message : String)
  | response (response : Http.Response) (fault : ResponseFault)
  | document (fault : KeySet.Fault)
  deriving Repr, DecidableEq

namespace FetchFault

def requestMessage (fault : Http.Uri.Fault) : String :=
  s!"failed to prepare request: {fault.message}"

def message : FetchFault -> String
  | .request fault => s!"Other error: {requestMessage fault}"
  | .client _ => "Request failed"
  | .response _ fault => s!"Server returned invalid response: {fault.message}"
  | .document _ => "Failed to parse server response"

end FetchFault

namespace KeySet

def responseFault? (response : Http.Response) : Option ResponseFault :=
  if response.status ≠ Http.Status.ok then some (.status response.status)
  else
    match response.contentType with
    | some value => if Http.ContentType.isJson value then none else some (.contentType value)
    | none => none

def ofResponse (response : Http.Response) : Except FetchFault KeySet :=
  match responseFault? response with
  | some fault => .error (.response response fault)
  | none => (ofReading (Json.Reading.ofBytes response.body)).mapError .document

def fetch (url : UrlText) : StateM Session (Except FetchFault KeySet) :=
  match Http.Uri.ofText url.text with
  | .error fault => return .error (.request fault)
  | .ok uri => do
    match ← Session.send (.get uri) with
    | .error message => return .error (.client message)
    | .ok response => return ofResponse response

end KeySet

end RelyingParty
