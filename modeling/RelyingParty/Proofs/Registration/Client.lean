import RelyingParty.Proofs.Key.Document
import RelyingParty.Proofs.Url
import RelyingParty.Registration.Client

set_option autoImplicit false

namespace RelyingParty

namespace ClientMetadata

variable {A : Type}

theorem set_additional (metadata : ClientMetadata A) (setting : Setting A) :
    (metadata.set setting).additional = metadata.additional := by
  cases setting <;> rfl

def Setting.Valid : Setting A -> Prop
  | .keySetUrl url => ∀ given ∈ url, given.IsRead
  | .keySet set => ∀ given ∈ set, given.Made
  | .signing _ | .encryptionAlgorithm _ | .encryptionMethod _ => True

structure Readable (metadata : ClientMetadata A) : Prop where
  keySetUrl : ∀ url ∈ metadata.keySetUrl, url.IsRead
  keySet : ∀ set ∈ metadata.keySet, ∀ key ∈ set.keys, key.UseNamed
  additional : Json.Additional fieldNames metadata.additional

theorem set_readable (metadata : ClientMetadata A) (setting : Setting A)
    (readable : metadata.Readable) (valid : setting.Valid) : (metadata.set setting).Readable where
  keySetUrl := by
    cases setting with
    | keySetUrl url => exact valid
    | keySet _ | signing _ | encryptionAlgorithm _ | encryptionMethod _ => exact readable.keySetUrl
  keySet := by
    cases setting with
    | keySet set => exact fun given found => (valid given found).useNamed
    | keySetUrl _ | signing _ | encryptionAlgorithm _ | encryptionMethod _ => exact readable.keySet
  additional := by
    rw [set_additional]
    exact readable.additional

variable [SigningAlgorithm A]

/-- Metadata that a program can come by. -/
inductive Made : ClientMetadata A -> Prop
  | empty : Made .empty
  | read {metadata : ClientMetadata A} (tree : Json.Tree) (read : ofTree? tree = some metadata) :
      Made metadata
  | set (metadata : ClientMetadata A) (setting : Setting A) (made : Made metadata)
      (valid : setting.Valid) : Made (metadata.set setting)

structure Holds (fields : Json.Fields) (metadata : ClientMetadata A) : Prop where
  keySetUrl : fields.optional? "jwks_uri" UrlText.ofTree? = some metadata.keySetUrl
  keySet : fields.optional? "jwks" (fun tree => (KeySet.ofTree 1 tree).toOption) =
    some metadata.keySet
  signing : fields.optional? "id_token_signed_response_alg" Named.ofTree? = some metadata.signing
  encryptionAlgorithm : fields.optional? "id_token_encrypted_response_alg" Named.ofTree? =
    some metadata.encryptionAlgorithm
  encryptionMethod : fields.optional? "id_token_encrypted_response_enc" Named.ofTree? =
    some metadata.encryptionMethod

theorem ofFields?_holds (fields : Json.Fields) (additional : Json.Members)
    (metadata : ClientMetadata A) :
    ofFields? fields additional = some metadata ↔
      Holds fields metadata ∧ additional = metadata.additional := by
  constructor
  next =>
    intro read
    obtain ⟨keySetUrl, readUrl, read⟩ := Option.bind_eq_some_iff.mp read
    obtain ⟨keySet, readSet, read⟩ := Option.bind_eq_some_iff.mp read
    obtain ⟨signing, readSigning, read⟩ := Option.bind_eq_some_iff.mp read
    obtain ⟨encryptionAlgorithm, readAlgorithm, read⟩ := Option.bind_eq_some_iff.mp read
    obtain ⟨encryptionMethod, readMethod, read⟩ := Option.bind_eq_some_iff.mp read
    cases read
    exact ⟨⟨readUrl, readSet, readSigning, readAlgorithm, readMethod⟩, rfl⟩
  next =>
    rintro ⟨⟨keySetUrl, keySet, signing, encryptionAlgorithm, encryptionMethod⟩, rfl⟩
    simp only [ofFields?, keySetUrl, keySet, signing, encryptionAlgorithm, encryptionMethod,
      Option.bind_eq_bind, Option.bind_some]
    rfl

theorem Holds.readable {fields : Json.Fields} {metadata : ClientMetadata A}
    (holds : Holds fields metadata) :
    (∀ url ∈ metadata.keySetUrl, url.IsRead) ∧
      ∀ set ∈ metadata.keySet, ∀ key ∈ set.keys, key.UseNamed := by
  refine ⟨UrlText.optional?_read fields _ _ holds.keySetUrl, fun set given => ?_⟩
  obtain ⟨tree, readTree⟩ := fields.optional?_read _ _ _ holds.keySet set given
  exact (KeySet.Made.read 1 tree ((toOption_success _ _).mp readTree)).useNamed

theorem ofFields?_success (fields : Json.Fields) (additional : Json.Members)
    (metadata : ClientMetadata A) (read : ofFields? fields additional = some metadata) :
    (∀ url ∈ metadata.keySetUrl, url.IsRead) ∧
      (∀ set ∈ metadata.keySet, ∀ key ∈ set.keys, key.UseNamed) ∧
      metadata.additional = additional := by
  obtain ⟨holds, same⟩ := (ofFields?_holds fields additional metadata).mp read
  exact ⟨holds.readable.1, holds.readable.2, same.symm⟩

theorem ofTree?_success (tree : Json.Tree) (metadata : ClientMetadata A)
    (read : ofTree? tree = some metadata) :
    ∃ written values, tree = .object written ∧
      Json.Tree.members? 1 (written.filter fun member => member.1 != some "jwks") = some values ∧
      (∀ url ∈ metadata.keySetUrl, url.IsRead) ∧
      (∀ set ∈ metadata.keySet, ∀ key ∈ set.keys, key.UseNamed) ∧
      metadata.additional = (Json.Members.ofList values).without fieldNames := by
  unfold ofTree? at read
  split at read
  next written =>
    obtain ⟨values, readValues, read⟩ := Option.bind_eq_some_iff.mp read
    obtain ⟨fields, _, read⟩ := Option.bind_eq_some_iff.mp read
    exact ⟨written, values, rfl, readValues, ofFields?_success fields _ metadata read⟩
  next => cases read

theorem Made.readable {metadata : ClientMetadata A} (made : metadata.Made) :
    metadata.Readable := by
  induction made with
  | empty => exact ⟨nofun, nofun, Json.Additional.empty⟩
  | read tree read =>
    obtain ⟨written, values, _, readValues, keySetUrl, keySet, additional⟩ :=
      ofTree?_success tree _ read
    exact ⟨keySetUrl, keySet, additional ▸ Json.Additional.read _ values readValues⟩
  | set metadata setting _ valid ih => exact set_readable metadata setting ih valid

def ownMembers (metadata : ClientMetadata A) : List (String × Json) :=
  Json.optionalMember "jwks_uri" UrlText.toJson metadata.keySetUrl ++
    Json.optionalMember "jwks" KeySet.toJson metadata.keySet ++
    Json.optionalMember "id_token_signed_response_alg" Named.toJson metadata.signing ++
    Json.optionalMember "id_token_encrypted_response_alg" Named.toJson
      metadata.encryptionAlgorithm ++
    Json.optionalMember "id_token_encrypted_response_enc" Named.toJson metadata.encryptionMethod

theorem ownMembers_written (metadata : ClientMetadata A) :
    Json.Written 1 fieldNames metadata.ownMembers :=
  ((((Json.Written.optional (by decide) fun _ => Json.stable_string _ _).append
    (.optional (by decide) KeySet.toJson_stable)).append
    (.optional (by decide) fun _ => Json.stable_string _ _)).append
    (.optional (by decide) fun _ => Json.stable_string _ _)).append
    (.optional (by decide) fun _ => Json.stable_string _ _)

theorem written_holds [Named.Lawful A] (metadata : ClientMetadata A)
    (readable : metadata.Readable) (fields : Json.Fields)
    (found : ∀ name ∈ fieldNames, fields.lookup name =
      ((Json.Members.ofList metadata.ownMembers).get? name).map Json.toTree) :
    Holds fields metadata := by
  simp only [ownMembers, Json.Members.ofList_append_get?, Json.ofList_optionalMember_get?] at found
  have keySetUrl := UrlText.optional?_written fields "jwks_uri" metadata.keySetUrl
    (by simp [found "jwks_uri" (by decide)]) readable.keySetUrl
  have keySet : fields.optional? "jwks" (fun tree => (KeySet.ofTree 1 tree).toOption) =
      some metadata.keySet := by
    refine fields.optional?_written "jwks" _ KeySet.toJson metadata.keySet
      (by simp [found "jwks" (by decide)]) rfl fun set given => ?_
    exact (toOption_success _ _).mpr
      (set.ofTree_toJson 1 (by decide) (readable.keySet set given))
  have signing := Named.optional?_written fields "id_token_signed_response_alg" metadata.signing
    (by simp [found "id_token_signed_response_alg" (by decide)])
  have encryptionAlgorithm := Named.optional?_written fields "id_token_encrypted_response_alg"
    metadata.encryptionAlgorithm (by simp [found "id_token_encrypted_response_alg" (by decide)])
  have encryptionMethod := Named.optional?_written fields "id_token_encrypted_response_enc"
    metadata.encryptionMethod (by simp [found "id_token_encrypted_response_enc" (by decide)])
  exact ⟨keySetUrl, keySet, signing, encryptionAlgorithm, encryptionMethod⟩

theorem ofTree?_toJson [Named.Lawful A] (metadata : ClientMetadata A)
    (readable : metadata.Readable) : ofTree? metadata.toJson.toTree = some metadata := by
  have written := metadata.ownMembers_written
  have values := Json.members?_filter 1 (fun name => name != some "jwks") _ _
    (Json.document_members readable.additional written)
  have additional := Json.document_additional readable.additional written
  -- The key set is read from its tree and not as a value, but it has a field in any case.
  have wide (name : String) (skipped : (some name != some "jwks") = false) :
      name ∈ fieldNames := by
    obtain rfl : name = "jwks" := by simpa using skipped
    decide
  rw [← Json.Members.without_filter fieldNames (fun name => some name != some "jwks") wide]
    at additional
  obtain ⟨fields, read, found⟩ :=
    Json.document_fields metadata.ownMembers readable.additional
  have own := (ofFields?_holds fields metadata.additional metadata).mpr
    ⟨written_holds metadata readable fields found, rfl⟩
  change ofMembers? (Json.memberTrees (Json.Members.ofList
    (metadata.ownMembers ++ metadata.additional))) = some metadata
  simp only [ofMembers?, values, read, additional, own, Option.bind_eq_bind, Option.bind_some]

theorem additional_kept (tree : Json.Tree) (metadata : ClientMetadata A)
    (read : ofTree? tree = some metadata) (settings : List (Setting A)) :
    Json.Further fieldNames tree (settings.foldl set metadata).additional := by
  obtain ⟨written, values, rfl, readValues, _, _, additional⟩ := ofTree?_success tree metadata read
  refine Json.further_kept _ _ ClientMetadata.additional set set_additional metadata ?_ settings
  rw [additional]
  refine Json.further_read fieldNames (fun name => name != some "jwks") ?_ written values readValues
  intro name skipped
  obtain rfl : name = some "jwks" := by simpa using skipped
  decide

end ClientMetadata

namespace Client

variable {A : Type}

def issuedMembers (client : Client A) : List (String × Json) :=
  [("client_id", .string client.id)] ++ Json.optionalMember "client_secret" .string client.secret

theorem issuedMembers_written (client : Client A) :
    Json.Written 1 issuedNames client.issuedMembers :=
  (Json.Written.member (by decide) (Json.stable_string _ _)).append
    (.optional (by decide) fun _ => Json.stable_string _ _)

theorem issuedMembers_id (client : Client A) :
    (Json.Members.ofList client.issuedMembers).get? "client_id" = some (.string client.id) := by
  simp only [issuedMembers, Json.Members.ofList_append_get?, Json.ofList_member_get?,
    Json.ofList_optionalMember_get?]
  simp

theorem issuedMembers_secret (client : Client A) :
    (Json.Members.ofList client.issuedMembers).get? "client_secret" =
      client.secret.map Json.string := by
  simp only [issuedMembers, Json.Members.ofList_append_get?, Json.ofList_member_get?,
    Json.ofList_optionalMember_get?]
  simp

variable [SigningAlgorithm A]

def Setting.Valid : Setting A -> Prop
  | .metadata given => given.Made
  | .id _ | .secret _ => True

inductive Made : Client A -> Prop
  | of (id : String) (secret : Option String) (metadata : ClientMetadata A)
      (made : metadata.Made) : Made ⟨id, secret, metadata⟩
  | read {client : Client A} (tree : Json.Tree) (read : ofTree? tree = some client) : Made client
  | set (client : Client A) (setting : Setting A) (made : Made client) (valid : setting.Valid) :
      Made (client.set setting)

theorem ofTree?_holds (members : List (Json.Name × Json.Tree)) (client : Client A) :
    ofTree? (.object members) = some client ↔
      ∃ values fields, Json.Tree.members? 1 members = some values ∧
        Json.Fields.ofMembers? fieldNames members = some fields ∧
        (fields.lookup "client_id").bind Json.Tree.string? = some client.id ∧
        fields.optionalText? "client_secret" = some client.secret ∧
        ClientMetadata.Holds fields client.metadata ∧
        (Json.Members.ofList values).without fieldNames = client.metadata.additional := by
  constructor
  next =>
    intro read
    obtain ⟨values, readValues, read⟩ := Option.bind_eq_some_iff.mp read
    obtain ⟨fields, readFields, read⟩ := Option.bind_eq_some_iff.mp read
    obtain ⟨id, readId, read⟩ := Option.bind_eq_some_iff.mp read
    obtain ⟨secret, readSecret, read⟩ := Option.bind_eq_some_iff.mp read
    obtain ⟨metadata, readMetadata, read⟩ := Option.bind_eq_some_iff.mp read
    cases read
    exact ⟨values, fields, readValues, readFields, readId, readSecret,
      (ClientMetadata.ofFields?_holds _ _ _).mp readMetadata⟩
  next =>
    rintro ⟨values, fields, readValues, readFields, id, secret, holds⟩
    have metadata := (ClientMetadata.ofFields?_holds _ _ _).mpr holds
    simp only [ofTree?, ofMembers?, readValues, readFields, id, secret, metadata,
      Option.bind_eq_bind, Option.bind_some]
    rfl

theorem ofTree?_success (tree : Json.Tree) (client : Client A)
    (read : ofTree? tree = some client) :
    client.metadata.Readable ∧ Json.Additional fieldNames client.metadata.additional := by
  cases tree with
  | object written =>
    obtain ⟨values, fields, readValues, _, _, _, holds, further⟩ :=
      (ofTree?_holds written client).mp read
    have additional : Json.Additional fieldNames client.metadata.additional :=
      further ▸ Json.Additional.read written values readValues
    exact ⟨⟨holds.readable.1, holds.readable.2,
      additional.narrower (List.subset_append_right _ _)⟩, additional⟩
  | null | bool _ | number _ | string _ | array _ => cases read

theorem Made.readable {client : Client A} (made : client.Made) : client.metadata.Readable := by
  induction made with
  | of _ _ metadata made => exact made.readable
  | read tree read => exact (ofTree?_success tree _ read).1
  | set client setting _ valid ih =>
    cases setting with
    | metadata metadata => exact valid.readable
    | id _ | secret _ => exact ih

def fieldMembers (client : Client A) : List (String × Json) :=
  client.issuedMembers ++ client.metadata.ownMembers

theorem fieldMembers_written (client : Client A) : Json.Written 1 fieldNames client.fieldMembers :=
  (client.issuedMembers_written.wider (List.subset_append_left _ _)).append
    (client.metadata.ownMembers_written.wider (List.subset_append_right _ _))

theorem toJson_members (client : Client A) :
    client.toJson = Json.ofMembers (client.fieldMembers ++ client.metadata.additional) := by
  rw [fieldMembers, List.append_assoc]
  rfl

theorem fieldMembers_issued (client : Client A) (name : String) (listed : name ∈ issuedNames) :
    (Json.Members.ofList client.fieldMembers).get? name =
      (Json.Members.ofList client.issuedMembers).get? name := by
  have other : name ∉ ClientMetadata.fieldNames := by
    revert name
    decide
  rw [fieldMembers, Json.Members.ofList_append_get?,
    client.metadata.ownMembers_written.absent name other, Option.none_or]

theorem fieldMembers_own (client : Client A) (name : String)
    (listed : name ∈ ClientMetadata.fieldNames) :
    (Json.Members.ofList client.fieldMembers).get? name =
      (Json.Members.ofList client.metadata.ownMembers).get? name := by
  have other : name ∉ issuedNames := by
    revert name
    decide
  rw [fieldMembers, Json.Members.ofList_append_get?,
    client.issuedMembers_written.absent name other, Option.or_none]

theorem ofTree?_toJson [Named.Lawful A] (client : Client A) (readable : client.metadata.Readable)
    (additional : Json.Additional fieldNames client.metadata.additional) :
    ofTree? client.toJson.toTree = some client := by
  have values := Json.document_members additional client.fieldMembers_written
  have further := Json.document_additional additional client.fieldMembers_written
  obtain ⟨fields, read, found⟩ := Json.document_fields client.fieldMembers additional
  have own (name : String) (listed : name ∈ ClientMetadata.fieldNames) :=
    client.fieldMembers_own name listed ▸ found name (List.mem_append_right _ listed)
  have issued (name : String) (listed : name ∈ issuedNames) :=
    client.fieldMembers_issued name listed ▸ found name (List.mem_append_left _ listed)
  have id : (fields.lookup "client_id").bind Json.Tree.string? = some client.id := by
    rw [issued "client_id" (by decide), client.issuedMembers_id]
    rfl
  have secret : fields.optionalText? "client_secret" = some client.secret :=
    fields.optional?_written "client_secret" Json.Tree.string? .string client.secret
      (by rw [issued "client_secret" (by decide), client.issuedMembers_secret]) rfl fun _ _ => rfl
  have metadata := ClientMetadata.written_holds client.metadata readable fields own
  rw [toJson_members]
  exact (ofTree?_holds _ _).mpr ⟨_, fields, values, read, id, secret, metadata, further⟩

structure Kept (client : Client A) : Prop where
  stated : ∃ members : Json.Members, client.toJson = .object members ∧
    members.get? "client_id" = some (.string client.id) ∧
    members.get? "client_secret" = client.secret.map Json.string
  readBack : ofTree? client.toJson.toTree = some client

theorem toJson_issued (client : Client A) (readable : client.metadata.Readable) (name : String)
    (listed : name ∈ issuedNames) :
    (Json.Members.ofList (client.fieldMembers ++ client.metadata.additional)).get? name =
      (client.metadata.additional.get? name).or
        ((Json.Members.ofList client.issuedMembers).get? name) := by
  rw [Json.Members.ofList_append_get?,
    Json.Members.ofList_of_ordered _ readable.additional.ordered,
    client.fieldMembers_issued name listed]

theorem kept_of_unnamed [Named.Lawful A] (client : Client A)
    (readable : client.metadata.Readable)
    (unnamed : ∀ name ∈ issuedNames, client.metadata.additional.get? name = none) :
    client.Kept where
  stated := by
    refine ⟨_, client.toJson_members, ?_, ?_⟩
    · rw [client.toJson_issued readable "client_id" (by decide), unnamed "client_id" (by decide),
        Option.none_or, client.issuedMembers_id]
    · rw [client.toJson_issued readable "client_secret" (by decide),
        unnamed "client_secret" (by decide), Option.none_or, client.issuedMembers_secret]
  readBack := client.ofTree?_toJson readable (readable.additional.wider issuedNames unnamed)

/--
A client is kept just if its metadata has no further member with the name of an issued one, which
would stand in its place in the document. Clients that are read from a document have none.
-/
theorem registration_kept [Named.Lawful A] (client : Client A) (made : client.Made) :
    (∃ members : Json.Members, client.toJson = .object members ∧
      ∀ name ∈ issuedNames, members.get? name =
        (client.metadata.additional.get? name).or
          ((Json.Members.ofList client.issuedMembers).get? name)) ∧
    (client.Kept ↔ ∀ name ∈ issuedNames, client.metadata.additional.get? name = none) ∧
    ∀ tree, ofTree? tree = some client -> client.Kept := by
  have readable := made.readable
  -- Reading a client takes the issued members out of those that its metadata keeps.
  have unnamed (tree : Json.Tree) (read : ofTree? tree = some client) (name : String)
      (listed : name ∈ issuedNames) : client.metadata.additional.get? name = none :=
    (ofTree?_success tree client read).2.get? name (List.mem_append_left _ listed)
  refine ⟨⟨_, client.toJson_members, client.toJson_issued readable⟩, ⟨?_, ?_⟩, ?_⟩
  · exact fun kept => unnamed _ kept.readBack
  · exact client.kept_of_unnamed readable
  · exact fun tree read => client.kept_of_unnamed readable (unnamed tree read)

namespace Sample

def named : ClientMetadata Signing :=
  { ClientMetadata.empty with additional := [("client_id", .string "other")] }

def response : Json.Tree := .object [(some "client_id", .string (some "other"))]

theorem registration_kept_secret : (⟨"rp", some "secret", .empty⟩ : Client Signing).Kept :=
  (registration_kept ⟨"rp", some "secret", .empty⟩ (.of _ _ _ .empty)).2.1.mpr (by decide)

theorem id_replaced :
    ClientMetadata.ofTree? response = some named ∧
      (⟨"rp", none, named⟩ : Client Signing).toJson = .object [("client_id", .string "other")] ∧
      ¬ (⟨"rp", none, named⟩ : Client Signing).Kept := by
  refine ⟨by rfl, by rfl, fun kept => ?_⟩
  obtain ⟨members, same, stated, _⟩ := kept.stated
  cases same
  have equal : some (Json.string "other") = some (.string "rp") := stated
  simp at equal

end Sample

end Client

end RelyingParty
