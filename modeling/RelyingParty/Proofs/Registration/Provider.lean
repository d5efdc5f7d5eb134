import RelyingParty.Proofs.Json.Document
import RelyingParty.Proofs.Named
import RelyingParty.Proofs.Url
import RelyingParty.Registration.Provider

set_option autoImplicit false

namespace RelyingParty.Provider

variable {A : Type}

theorem set_additional (provider : Provider A) (setting : Setting A) :
    (provider.set setting).additional = provider.additional := by
  cases setting <;> rfl

def Setting.Valid : Setting A -> Prop
  | .issuer url => url.IsRead
  | .keySetUrl url => ∀ given ∈ url, given.IsRead
  | .signing _ | .encryptionAlgorithms _ | .encryptionMethods _ => True

structure Readable (provider : Provider A) : Prop where
  issuer : provider.issuer.IsRead
  keySetUrl : ∀ url ∈ provider.keySetUrl, url.IsRead
  additional : Json.Additional fieldNames provider.additional

theorem set_readable (provider : Provider A) (setting : Setting A) (readable : provider.Readable)
    (valid : setting.Valid) : (provider.set setting).Readable where
  issuer := by
    cases setting with
    | issuer url => exact valid
    | keySetUrl _ | signing _ | encryptionAlgorithms _ | encryptionMethods _ =>
      exact readable.issuer
  keySetUrl := by
    cases setting with
    | keySetUrl url => exact valid
    | issuer _ | signing _ | encryptionAlgorithms _ | encryptionMethods _ =>
      exact readable.keySetUrl
  additional := by
    rw [set_additional]
    exact readable.additional

variable [SigningAlgorithm A]

inductive Made : Provider A -> Prop
  | of (issuer : UrlText) (signing : List A) (read : issuer.IsRead) : Made (.of issuer signing)
  | read {provider : Provider A} (tree : Json.Tree) (read : ofTree? tree = some provider) :
      Made provider
  | set (provider : Provider A) (setting : Setting A) (made : Made provider)
      (valid : setting.Valid) : Made (provider.set setting)

structure Holds (fields : Json.Fields) (provider : Provider A) : Prop where
  issuer : (fields.lookup "issuer").bind UrlText.ofTree? = some provider.issuer
  keySetUrl : fields.optional? "jwks_uri" UrlText.ofTree? = some provider.keySetUrl
  signing : (fields.lookup "id_token_signing_alg_values_supported").bind Named.knownOfTree? =
    some provider.signing
  encryptionAlgorithms :
    fields.optional? "id_token_encryption_alg_values_supported" Named.knownOfTree? =
      some provider.encryptionAlgorithms
  encryptionMethods :
    fields.optional? "id_token_encryption_enc_values_supported" Named.knownOfTree? =
      some provider.encryptionMethods

theorem ofTree?_holds (members : List (Option String × Json.Tree)) (provider : Provider A) :
    ofTree? (.object members) = some provider ↔
      ∃ values fields, Json.Tree.members? 1 members = some values ∧
        Json.Fields.ofMembers? fieldNames members = some fields ∧ Holds fields provider ∧
        (Json.Members.ofList values).without fieldNames = provider.additional := by
  constructor
  next =>
    intro read
    obtain ⟨values, readValues, read⟩ := Option.bind_eq_some_iff.mp read
    obtain ⟨fields, readFields, read⟩ := Option.bind_eq_some_iff.mp read
    obtain ⟨issuer, readIssuer, read⟩ := Option.bind_eq_some_iff.mp read
    obtain ⟨keySetUrl, readUrl, read⟩ := Option.bind_eq_some_iff.mp read
    obtain ⟨signing, readSigning, read⟩ := Option.bind_eq_some_iff.mp read
    obtain ⟨encryptionAlgorithms, readAlgorithms, read⟩ := Option.bind_eq_some_iff.mp read
    obtain ⟨encryptionMethods, readMethods, read⟩ := Option.bind_eq_some_iff.mp read
    cases read
    exact ⟨values, fields, readValues, readFields,
      ⟨readIssuer, readUrl, readSigning, readAlgorithms, readMethods⟩, rfl⟩
  next =>
    rintro ⟨values, fields, readValues, readFields, holds, additional⟩
    obtain ⟨issuer, keySetUrl, signing, encryptionAlgorithms, encryptionMethods⟩ := holds
    simp only [ofTree?, ofMembers?, readValues, readFields, issuer, keySetUrl, signing,
      encryptionAlgorithms, encryptionMethods, additional, Option.bind_eq_bind, Option.bind_some]
    rfl

theorem ofTree?_success (tree : Json.Tree) (provider : Provider A)
    (read : ofTree? tree = some provider) :
    ∃ written values, tree = .object written ∧ Json.Tree.members? 1 written = some values ∧
      provider.issuer.IsRead ∧ (∀ url ∈ provider.keySetUrl, url.IsRead) ∧
      provider.additional = (Json.Members.ofList values).without fieldNames := by
  cases tree with
  | object written =>
    obtain ⟨values, fields, readValues, _, holds, additional⟩ :=
      (ofTree?_holds written provider).mp read
    obtain ⟨issuerTree, _, readIssuer⟩ := Option.bind_eq_some_iff.mp holds.issuer
    exact ⟨written, values, rfl, readValues, .inr ⟨issuerTree, readIssuer⟩,
      UrlText.optional?_read fields _ _ holds.keySetUrl, additional.symm⟩
  | null | bool _ | number _ | string _ | array _ => cases read

theorem Made.readable {provider : Provider A} (made : provider.Made) : provider.Readable := by
  induction made with
  | of issuer signing read => exact ⟨read, nofun, Json.Additional.empty⟩
  | read tree read =>
    obtain ⟨written, values, _, readValues, issuer, keySetUrl, additional⟩ :=
      ofTree?_success tree _ read
    exact ⟨issuer, keySetUrl, additional ▸ Json.Additional.read written values readValues⟩
  | set provider setting _ valid ih => exact set_readable provider setting ih valid

def ownMembers (provider : Provider A) : List (String × Json) :=
  [("issuer", provider.issuer.toJson)] ++
    Json.optionalMember "jwks_uri" UrlText.toJson provider.keySetUrl ++
    [("id_token_signing_alg_values_supported", Named.listToJson provider.signing)] ++
    Json.optionalMember "id_token_encryption_alg_values_supported" Named.listToJson
      provider.encryptionAlgorithms ++
    Json.optionalMember "id_token_encryption_enc_values_supported" Named.listToJson
      provider.encryptionMethods

theorem toJson_members (provider : Provider A) :
    provider.toJson = Json.ofMembers (provider.ownMembers ++ provider.additional) := rfl

theorem ownMembers_written (provider : Provider A) :
    Json.Written 1 fieldNames provider.ownMembers :=
  ((((Json.Written.member (by decide) (Json.stable_string _ _)).append
    (.optional (by decide) fun _ => Json.stable_string _ _)).append
    (.member (by decide) (Named.listToJson_stable _))).append
    (.optional (by decide) Named.listToJson_stable)).append
    (.optional (by decide) Named.listToJson_stable)

theorem ofTree?_toJson [Named.Lawful A] (provider : Provider A) (readable : provider.Readable) :
    ofTree? provider.toJson.toTree = some provider := by
  have written := provider.ownMembers_written
  have values := Json.document_members readable.additional written
  have additional := Json.document_additional readable.additional written
  obtain ⟨fields, read, found⟩ :=
    Json.document_fields provider.ownMembers readable.additional
  simp only [ownMembers, Json.Members.ofList_append_get?, Json.ofList_member_get?,
    Json.ofList_optionalMember_get?] at found
  have issuer : (fields.lookup "issuer").bind UrlText.ofTree? = some provider.issuer := by
    rw [found "issuer" (by decide)]
    exact readable.issuer.ofTree?_toJson
  have keySetUrl := UrlText.optional?_written fields "jwks_uri" provider.keySetUrl
    (by simp [found "jwks_uri" (by decide)]) readable.keySetUrl
  have signing : (fields.lookup "id_token_signing_alg_values_supported").bind
      Named.knownOfTree? = some provider.signing := by
    rw [found "id_token_signing_alg_values_supported" (by decide)]
    exact Named.knownOfTree?_listToJson provider.signing
  have encryptionAlgorithms := Named.optional?_writtenList fields
    "id_token_encryption_alg_values_supported" provider.encryptionAlgorithms
    (by simp [found "id_token_encryption_alg_values_supported" (by decide)])
  have encryptionMethods := Named.optional?_writtenList fields
    "id_token_encryption_enc_values_supported" provider.encryptionMethods
    (by simp [found "id_token_encryption_enc_values_supported" (by decide)])
  exact (ofTree?_holds _ _).mpr ⟨_, fields, values, read,
    ⟨issuer, keySetUrl, signing, encryptionAlgorithms, encryptionMethods⟩, additional⟩

theorem additional_kept (tree : Json.Tree) (provider : Provider A)
    (read : ofTree? tree = some provider) (settings : List (Setting A)) :
    Json.Further fieldNames tree (settings.foldl set provider).additional := by
  obtain ⟨written, values, rfl, readValues, _, _, additional⟩ := ofTree?_success tree provider read
  refine Json.further_kept _ _ Provider.additional set set_additional provider ?_ settings
  rw [additional]
  -- All members of a provider are read as values, so none is left out.
  have all : written.filter (fun _ => true) = written := List.filter_eq_self.mpr fun _ _ => rfl
  exact Json.further_read fieldNames (fun _ => true) nofun written values (all.symm ▸ readValues)

end RelyingParty.Provider
