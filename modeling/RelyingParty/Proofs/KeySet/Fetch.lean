import RelyingParty.Proofs.Http.ContentType
import RelyingParty.Proofs.KeySource.Caching

set_option autoImplicit false

namespace RelyingParty.KeySet

structure Accepted (response : Http.Response) : Prop where
  status : response.status = 200
  announced : ∀ value ∈ response.contentType, Http.ContentType.Announced value

inductive Refused (response : Http.Response) : ResponseFault -> Prop
  | status (other : response.status ≠ 200) : Refused response (.status response.status)
  | contentType (value : Bytes) (status : response.status = 200)
      (given : response.contentType = some value) (foreign : ¬ Http.ContentType.Announced value) :
    Refused response (.contentType value)

section Response

variable (response : Http.Response)

theorem responseFault?_status (other : response.status ≠ 200) :
    responseFault? response = some (.status response.status) :=
  if_pos other

theorem responseFault?_contentType (status : response.status = 200) :
    responseFault? response =
      (response.contentType.filter fun value => !Http.ContentType.isJson value).map
        .contentType := by
  have fetched : ¬ response.status ≠ Http.Status.ok := not_not.mpr status
  unfold responseFault?
  rw [if_neg fetched]
  cases response.contentType with
  | none => rfl
  | some value => cases json : Http.ContentType.isJson value <;> simp [json, Option.filter]

theorem responseFault?_none : responseFault? response = none ↔ Accepted response := by
  by_cases status : response.status = 200
  next =>
    rw [responseFault?_contentType response status, Option.map_eq_none_iff,
      Option.filter_eq_none_iff]
    simp only [Bool.not_eq_true', Bool.not_eq_false, Http.ContentType.isJson_announced]
    exact ⟨fun announced => ⟨status, announced⟩, fun accepted => accepted.announced⟩
  next =>
    rw [responseFault?_status response status]
    exact iff_of_false nofun fun accepted => status accepted.status

theorem responseFault?_some (fault : ResponseFault) :
    responseFault? response = some fault ↔ Refused response fault := by
  by_cases status : response.status = 200
  next =>
    rw [responseFault?_contentType response status, Option.map_eq_some_iff]
    simp only [Option.filter_eq_some_iff, Bool.not_eq_true', ← Bool.not_eq_true,
      Http.ContentType.isJson_announced]
    constructor
    next =>
      rintro ⟨value, ⟨given, foreign⟩, rfl⟩
      exact .contentType value status given foreign
    next =>
      rintro (other | ⟨value, _, given, foreign⟩)
      · exact absurd status other
      · exact ⟨value, ⟨given, foreign⟩, rfl⟩
  next =>
    rw [responseFault?_status response status]
    constructor
    next =>
      rintro ⟨⟩
      exact .status status
    next =>
      rintro (_ | ⟨_, same, _, _⟩)
      · rfl
      · exact absurd same status

theorem ofResponse_success (set : KeySet) :
    ofResponse response = .ok set ↔
      Accepted response ∧ ∃ tree rest, Json.Reading.ofBytes response.body = .whole tree rest ∧
        ofTree 0 tree = .ok set := by
  unfold ofResponse
  rw [← responseFault?_none]
  cases responseFault? response with
  | some fault => simp
  | none => cases Json.Reading.ofBytes response.body <;> simp [ofReading]

theorem ofResponse_fault (fault : FetchFault) :
    ofResponse response = .error fault ↔
      (∃ reason, Refused response reason ∧ fault = .response response reason) ∨
      (Accepted response ∧ ∃ reason,
        ofReading (Json.Reading.ofBytes response.body) = .error reason ∧
          fault = .document reason) := by
  unfold ofResponse
  simp only [← responseFault?_none, ← responseFault?_some]
  cases responseFault? response with
  | some reason => simp [eq_comm]
  | none => simp [mapError_failure, eq_comm (a := fault)]

end Response

inductive FirstFault (url : UrlText) (session : Session) : FetchFault -> Prop
  | request (fault : Http.Uri.Fault) (unfit : Http.Uri.ofText url.text = .error fault) :
    FirstFault url session (.request fault)
  | client (uri : Http.Uri) (message : String) (fit : Http.Uri.ofText url.text = .ok uri)
      (unanswered : session.client session.requests.length = .error message) :
    FirstFault url session (.client message)
  | response (uri : Http.Uri) (response : Http.Response) (fault : ResponseFault)
      (fit : Http.Uri.ofText url.text = .ok uri)
      (answered : session.client session.requests.length = .ok response)
      (refused : Refused response fault) :
    FirstFault url session (.response response fault)
  | document (uri : Http.Uri) (response : Http.Response) (fault : Fault)
      (fit : Http.Uri.ofText url.text = .ok uri)
      (answered : session.client session.requests.length = .ok response)
      (accepted : Accepted response)
      (unread : ofReading (Json.Reading.ofBytes response.body) = .error fault) :
    FirstFault url session (.document fault)

structure Source (url : UrlText) (session : Session) (response : Http.Response) (set : KeySet) :
    Prop where
  fit : ∃ uri, Http.Uri.ofText url.text = .ok uri
  answered : session.client session.requests.length = .ok response
  accepted : Accepted response
  body : ∃ tree rest, Json.Reading.ofBytes response.body = .whole tree rest ∧
    ofTree 0 tree = .ok set

section Fetch

variable (url : UrlText) (session : Session)

theorem fetch_answered (uri : Http.Uri) (fit : Http.Uri.ofText url.text = .ok uri)
    (response : Http.Response)
    (answered : session.client session.requests.length = .ok response) :
    ((fetch url).run session).1 = ofResponse response := by
  rw [fetch_sent url uri fit, answered]
  rfl

theorem fetch_source (set : KeySet) :
    ((fetch url).run session).1 = .ok set ↔ ∃ response, Source url session response set := by
  constructor
  next =>
    intro fetched
    cases fit : Http.Uri.ofText url.text with
    | error fault =>
      rw [fetch_unsent url fault fit] at fetched
      cases fetched
    | ok uri =>
      cases answered : session.client session.requests.length with
      | error message =>
        rw [fetch_sent url uri fit, answered] at fetched
        cases fetched
      | ok response =>
        rw [fetch_answered url session uri fit response answered] at fetched
        obtain ⟨accepted, body⟩ := (ofResponse_success response set).mp fetched
        exact ⟨response, ⟨uri, fit⟩, answered, accepted, body⟩
  next =>
    rintro ⟨response, ⟨uri, fit⟩, answered, accepted, body⟩
    rw [fetch_answered url session uri fit response answered]
    exact (ofResponse_success response set).mpr ⟨accepted, body⟩

theorem fetch_fault (fault : FetchFault) :
    ((fetch url).run session).1 = .error fault ↔ FirstFault url session fault := by
  constructor
  next =>
    intro failed
    -- The steps are tried in the order of the constructors.
    cases fit : Http.Uri.ofText url.text with
    | error reason =>
      rw [fetch_unsent url reason fit] at failed
      cases failed
      exact .request reason fit
    | ok uri =>
      cases answered : session.client session.requests.length with
      | error message =>
        rw [fetch_sent url uri fit, answered] at failed
        cases failed
        exact .client uri message fit answered
      | ok response =>
        rw [fetch_answered url session uri fit response answered] at failed
        obtain ⟨reason, refused, rfl⟩ | ⟨accepted, reason, unread, rfl⟩ :=
          (ofResponse_fault response fault).mp failed
        · exact .response uri response reason fit answered refused
        · exact .document uri response reason fit answered accepted unread
  next =>
    intro first
    cases first with
    | request reason unfit => rw [fetch_unsent url reason unfit]
    | client uri message fit unanswered =>
      rw [fetch_sent url uri fit, unanswered]
      rfl
    | response uri response reason fit answered refused =>
      rw [fetch_answered url session uri fit response answered]
      exact (ofResponse_fault response _).mpr (.inl ⟨reason, refused, rfl⟩)
    | document uri response reason fit answered accepted unread =>
      rw [fetch_answered url session uri fit response answered]
      exact (ofResponse_fault response _).mpr (.inr ⟨accepted, reason, unread, rfl⟩)

theorem fetch_decides :
    (∀ fault, Http.Uri.ofText url.text = .error fault ->
      ((fetch url).run session).2 = session) ∧
    (∀ uri, Http.Uri.ofText url.text = .ok uri -> ((fetch url).run session).2 =
      { session with
        requests := session.requests ++ [⟨"GET", uri, "application/json", []⟩] }) ∧
    (∀ set, ((fetch url).run session).1 = .ok set ↔
      ∃ response, Source url session response set) ∧
    ∀ fault, ((fetch url).run session).1 = .error fault ↔ FirstFault url session fault := by
  refine ⟨fun fault unfit => ?_, fun uri fit => ?_, fetch_source url session,
    fetch_fault url session⟩
  · rw [fetch_unsent url fault unfit]
  · rw [fetch_sent url uri fit]
    rfl

end Fetch

namespace Sample

def url : UrlText := ⟨"https://op/keys", ⟨"https", "", some "op", none, "/keys", none, none⟩⟩

def answering (contentType : String) : Session :=
  .start fun _ => .ok
    ⟨200, some (Bytes.ofText contentType), Bytes.ofText "\x7b\"keys\":[]\x7d"⟩

theorem announced_fetched :
    (∃ response, Source url (answering "Application/JWK-Set+JSON ; q=1") response .empty) ∧
    ((fetch url).run (answering "Application/JWK-Set+JSON ; q=1")).2.requests =
      [⟨"GET", ⟨some "https", "op", "/keys", ""⟩, "application/json", []⟩] ∧
    FirstFault url (answering "text/json")
      (.response ⟨200, some (Bytes.ofText "text/json"), Bytes.ofText "\x7b\"keys\":[]\x7d"⟩
        (.contentType (Bytes.ofText "text/json"))) := by
  obtain ⟨_, sent, fetched, _⟩ := fetch_decides url (answering "Application/JWK-Set+JSON ; q=1")
  obtain ⟨_, _, _, failed⟩ := fetch_decides url (answering "text/json")
  refine ⟨(fetched .empty).mp (by decide +kernel), ?_, (failed _).mp (by decide +kernel)⟩
  rw [sent ⟨some "https", "op", "/keys", ""⟩ (by decide +kernel)]
  rfl

theorem foreign_fetched :
    ((fetch url).run (answering "application/jsonp")).1 = .ok .empty ∧
      Http.ContentType.mediaType? (Bytes.ofText "application/jsonp") = some "application/jsonp" ∧
      "application/jsonp" ∉ [Http.mediaTypeJson, Http.mediaTypeKeySet] := by
  decide +kernel

end Sample

end RelyingParty.KeySet
