import RelyingParty.Proofs.Registration.Client
import RelyingParty.Proofs.Registration.Provider

set_option autoImplicit false

namespace RelyingParty

variable {A : Type} [SigningAlgorithm A] [Named.Lawful A]

theorem documents_kept :
    (∀ provider : Provider A, provider.Made ->
      Provider.ofTree? provider.toJson.toTree = some provider) ∧
    (∀ metadata : ClientMetadata A, metadata.Made ->
      ClientMetadata.ofTree? metadata.toJson.toTree = some metadata) ∧
    (∀ key : Key, key.Made -> Key.ofTree? key.toJson.toTree = some key) ∧
    (∀ set : KeySet, set.Made -> KeySet.ofTree 0 set.toJson.toTree = .ok set) ∧
    (∀ (tree : Json.Tree) (provider : Provider A), Provider.ofTree? tree = some provider ->
      ∀ settings : List (Provider.Setting A), Json.Further Provider.fieldNames tree
        (settings.foldl Provider.set provider).additional) ∧
    (∀ (tree : Json.Tree) (metadata : ClientMetadata A),
      ClientMetadata.ofTree? tree = some metadata ->
      ∀ settings : List (ClientMetadata.Setting A), Json.Further ClientMetadata.fieldNames tree
        (settings.foldl ClientMetadata.set metadata).additional) := by
  refine ⟨?providers, ?clients, ?keys, ?keySets, ?providerMembers, ?clientMembers⟩
  case providers => exact fun provider made => provider.ofTree?_toJson made.readable
  case clients => exact fun metadata made => metadata.ofTree?_toJson made.readable
  case keys => exact fun key made => key.ofTree?_toJson made.useNamed
  case keySets => exact fun set made => set.ofTree_toJson 0 (by decide) made.useNamed
  case providerMembers => exact Provider.additional_kept
  case clientMembers => exact ClientMetadata.additional_kept

namespace Provider.Sample

def document : Json.Tree :=
  .object [(some "issuer", .string (some "urn:op")),
    (some "id_token_signing_alg_values_supported",
      .array [.string (some "RS256"), .string (some "other")]),
    (some "scopes_supported", .array [.string (some "openid")])]

def provider : Provider Signing where
  issuer := ⟨"urn:op", ⟨"urn", "", none, none, "op", none, none⟩⟩
  keySetUrl := none
  signing := [.rsaBlock .sha256]
  encryptionAlgorithms := none
  encryptionMethods := none
  additional := [("scopes_supported", .array [.string "openid"])]

theorem document_kept :
    ofTree? document = some provider ∧
      ofTree? (provider.set (.signing [])).toJson.toTree = some (provider.set (.signing [])) ∧
      Json.Further fieldNames document (provider.set (.signing [])).additional := by
  obtain ⟨kept, _, _, _, further, _⟩ := documents_kept (A := Signing)
  have read : ofTree? document = some provider := by rfl
  exact ⟨read, kept _ (.set _ _ (.read document read) trivial),
    further document provider read [.signing []]⟩

end Provider.Sample

end RelyingParty
