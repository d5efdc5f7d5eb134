import RelyingParty.Proofs.KeySource.Caching

set_option autoImplicit false

namespace RelyingParty

inductive KeySource.BuiltIn {A : Type} [SigningAlgorithm A] : KeySource A -> Prop
  | remote (remote : RemoteKeySet) : BuiltIn remote.source
  | keySet (set : KeySet) : BuiltIn set.source
  | clientSecret (secret : String) : BuiltIn (ClientSecret.source secret)

theorem KeySet.fetch_requests (url : UrlText) (session : Session) :
    ∃ sent : Option Http.Request,
      ((fetch url).run session).2.requests = session.requests ++ sent.toList := by
  cases fit : Http.Uri.ofText url.text with
  | error fault =>
    rw [fetch_unsent url fault fit session]
    exact ⟨none, (List.append_nil _).symm⟩
  | ok uri =>
    rw [fetch_sent url uri fit session]
    exact ⟨some (.get uri), rfl⟩

theorem RemoteKeySet.keySet_requests (remote : RemoteKeySet) (id : Option String)
    (session : Session) :
    ∃ sent : Option Http.Request,
      ((remote.keySet id).run session).2.requests = session.requests ++ sent.toList := by
  have refreshed : ∃ sent : Option Http.Request,
      (remote.refresh.run session).2.requests = session.requests ++ sent.toList := by
    rw [refresh_run]
    dsimp only
    rw [stored_requests]
    exact KeySet.fetch_requests remote.url session
  rw [keySet_run]
  cases session.kept remote.slot with
  | none => exact refreshed
  | some kept =>
    dsimp only
    split
    next => exact refreshed
    next => exact ⟨none, (List.append_nil _).symm⟩

theorem KeySource.BuiltIn.put_requests {A : Type} [SigningAlgorithm A] {source : KeySource A}
    (builtIn : source.BuiltIn) (question : Question A) (session : Session) :
    ∃ sent : Option Http.Request,
      ((question.put source).run session).2.requests = session.requests ++ sent.toList := by
  cases builtIn with
  | remote remote =>
    rw [question.put_remote]
    exact remote.keySet_requests question.id session
  | keySet set =>
    rw [question.put_keySet]
    exact ⟨none, (List.append_nil _).symm⟩
  | clientSecret secret => cases question <;> exact ⟨none, (List.append_nil _).symm⟩

end RelyingParty
