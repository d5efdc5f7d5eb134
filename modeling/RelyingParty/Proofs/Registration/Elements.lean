import RelyingParty.Policy
import RelyingParty.Proofs.KeySet.Elements
import RelyingParty.Proofs.Registration.Client
import RelyingParty.Proofs.Registration.Provider

set_option autoImplicit false

namespace RelyingParty

namespace ClientMetadata

variable {A : Type} [SigningAlgorithm A]

def listing : Json.Listing Key (ClientMetadata A) where
  enclosing := 3
  element? := Key.ofItem?
  elements metadata := (metadata.keySet.map KeySet.keys).getD []
  put keys metadata := metadata.set (.keySet (some ⟨keys⟩))

section Refilled

variable {fields changed : Json.Fields} {metadata : ClientMetadata A} {place : KeySet.Place}
  {trees others : List Json.Tree}

theorem keySet_given (found : fields.lookup "jwks" = some (place.document trees)) :
    fields.optional? "jwks" (fun tree => (KeySet.ofTree 1 tree).toOption) =
      (KeySet.ofTree 1 (place.document trees)).toOption.map some :=
  Json.Fields.optional?_given found (by cases place <;> exact nofun) _

theorem Holds.elements (holds : Holds fields metadata)
    (found : fields.lookup "jwks" = some (place.document trees)) :
    place.Sound ∧ (listing (A := A)).Legible trees ∧
      listing.elements metadata = (listing (A := A)).understood trees := by
  have given := holds.keySet
  rw [keySet_given found] at given
  obtain ⟨set, read, has⟩ := Option.map_eq_some_iff.mp given
  obtain ⟨sound, legible, rfl⟩ :=
    (KeySet.ofTree_success 1 place trees set).mp ((toOption_success _ _).mp read)
  exact ⟨sound, legible, by simp [listing, ← has, KeySet.ofItems, Json.Listing.understood]⟩

theorem Holds.refilled (holds : Holds fields metadata) (sound : place.Sound)
    (legible : (listing (A := A)).Legible others)
    (given : changed.lookup "jwks" = some (place.document others))
    (same : ∀ field ∈ fieldNames, field ≠ "jwks" -> changed.lookup field = fields.lookup field) :
    Holds changed (listing.put ((listing (A := A)).understood others) metadata) := by
  have read := (KeySet.ofTree_success 1 place others _).mpr ⟨sound, legible, rfl⟩
  obtain ⟨keySetUrl, _, signing, encryptionAlgorithm, encryptionMethod⟩ := holds
  constructor
  case keySet =>
    rw [keySet_given given, read]
    rfl
  case keySetUrl =>
    rwa [Json.Fields.optional?_congr (same "jwks_uri" (by decide) (by decide))]
  case signing =>
    rwa [Json.Fields.optional?_congr
      (same "id_token_signed_response_alg" (by decide) (by decide))]
  case encryptionAlgorithm =>
    rwa [Json.Fields.optional?_congr
      (same "id_token_encrypted_response_alg" (by decide) (by decide))]
  case encryptionMethod =>
    rwa [Json.Fields.optional?_congr
      (same "id_token_encrypted_response_enc" (by decide) (by decide))]

end Refilled

theorem ofTree?_elements (around : Json.Around) (place : KeySet.Place) :
    (listing (A := A)).ReadsEach fun trees =>
      ofTree? (.object (around.members "jwks" (place.document trees))) := by
  -- The key set is left out when the further members are read as values.
  have filtered (tree : Json.Tree) :
      (around.members "jwks" tree).filter (fun member => member.1 != some "jwks") =
        (around.before ++ around.after).filter fun member => member.1 != some "jwks" := by
    simp [Json.Around.members]
  have success (trees : List Json.Tree) (metadata : ClientMetadata A) :
      ofTree? (.object (around.members "jwks" (place.document trees))) = some metadata ↔
        ∃ values fields, Json.Tree.members? 1
            ((around.before ++ around.after).filter fun member => member.1 != some "jwks") =
            some values ∧
          Json.Fields.ofMembers? fieldNames (around.members "jwks" (place.document trees)) =
            some fields ∧
          Holds fields metadata ∧
          (Json.Members.ofList values).without fieldNames = metadata.additional := by
    simp only [ofTree?, ofMembers?, filtered, Option.bind_eq_bind, Option.bind_eq_some_iff,
      ofFields?_holds]
    tauto
  refine .of_refilled (fun trees metadata read => ?_) fun trees others metadata read legible => ?_
  · obtain ⟨values, fields, _, readFields, holds, _⟩ := (success ..).mp read
    exact (holds.elements (around.fields_given _ _ (by decide) _ fields readFields)).2
  · obtain ⟨values, fields, readValues, readFields, holds, additional⟩ := (success ..).mp read
    have found := around.fields_given _ _ (by decide) _ fields readFields
    obtain ⟨changed, readChanged, given, same⟩ := around.fields_refilled "jwks" fieldNames
      (by decide) (place.document trees) (place.document others) fields readFields
    exact (success ..).mpr ⟨values, changed, readValues, readChanged,
      holds.refilled (holds.elements found).1 legible given same, additional⟩

end ClientMetadata

namespace Client

variable {A : Type} [SigningAlgorithm A]

def listing : Json.Listing Key (Client A) where
  enclosing := 3
  element? := Key.ofItem?
  elements client := ClientMetadata.listing.elements client.metadata
  put keys client := client.set (.metadata (ClientMetadata.listing.put keys client.metadata))

theorem ofTree?_elements (around : Json.Around) (place : KeySet.Place) :
    (listing (A := A)).ReadsEach fun trees =>
      ofTree? (.object (around.members "jwks" (place.document trees))) := by
  refine .of_refilled (fun trees client read => ?_) fun trees others client read legible => ?_
  · obtain ⟨values, fields, _, readFields, _, _, holds, _⟩ := (ofTree?_holds _ _).mp read
    exact (holds.elements (around.fields_given _ _ (by decide) _ fields readFields)).2
  · obtain ⟨values, fields, readValues, readFields, id, secret, holds, additional⟩ :=
      (ofTree?_holds _ _).mp read
    have found := around.fields_given _ _ (by decide) _ fields readFields
    obtain ⟨changed, readChanged, given, same⟩ := around.fields_refilled "jwks" fieldNames
      (by decide) (place.document trees) (place.document others) fields readFields
    -- All members of a registration are read as values first, the key set among them.
    obtain ⟨_, value, _, _, standsFor, _⟩ := (around.members?_around ..).mp readValues
    have value := (KeySet.document_isValue 1 place trees others
      (Option.isSome_of_eq_some standsFor)).2 legible
    obtain ⟨moved, readMoved, sameMembers⟩ := around.values_refilled "jwks" 1 fieldNames
      (by decide) (place.document trees) (place.document others) value values readValues
    refine (ofTree?_holds _ _).mpr ⟨moved, changed, readMoved, readChanged, ?_, ?_, ?_, ?_⟩
    · rwa [same "client_id" (by decide) (by decide)]
    · rwa [Json.Fields.optionalText?,
        Json.Fields.optional?_congr (same "client_secret" (by decide) (by decide))]
    · exact holds.refilled (holds.elements found).1 legible given fun field known =>
        same field (List.mem_append_right _ known)
    · exact sameMembers.trans additional

end Client

namespace Provider

variable {A : Type} [SigningAlgorithm A]

inductive Listed
  | signing
  | encryptionAlgorithms
  | encryptionMethods

namespace Listed

def name : Listed -> String
  | .signing => "id_token_signing_alg_values_supported"
  | .encryptionAlgorithms => "id_token_encryption_alg_values_supported"
  | .encryptionMethods => "id_token_encryption_enc_values_supported"

def Element (A : Type) : Listed -> Type
  | .signing => A
  | .encryptionAlgorithms => KeyManagement
  | .encryptionMethods => ContentEncryption

def listing : (listed : Listed) -> Json.Listing (listed.Element A) (Provider A)
  | .signing =>
    ⟨2, Named.ofItem? (A := A), fun provider => provider.signing,
      fun algorithms provider => provider.set (.signing algorithms)⟩
  | .encryptionAlgorithms =>
    ⟨2, Named.ofItem? (A := KeyManagement), fun provider => provider.encryptionAlgorithms.getD [],
      fun algorithms provider => provider.set (.encryptionAlgorithms (some algorithms))⟩
  | .encryptionMethods =>
    ⟨2, Named.ofItem? (A := ContentEncryption), fun provider => provider.encryptionMethods.getD [],
      fun methods provider => provider.set (.encryptionMethods (some methods))⟩

end Listed

section Refilled

variable {fields changed : Json.Fields} {provider : Provider A} {listed : Listed}
  {trees others : List Json.Tree}

theorem knownOfTree?_given {B : Type} [Named B] {name : String}
    (found : fields.lookup name = some (.array trees)) :
    fields.optional? name (Named.knownOfTree? (A := B)) =
      some (some (trees.filterMap Named.ofItem?)) :=
  Json.Fields.optional?_given found nofun _

theorem Holds.elements (holds : Holds fields provider)
    (found : fields.lookup listed.name = some (.array trees)) :
    listed.listing.elements provider = (listed.listing (A := A)).understood trees := by
  cases listed with
  | signing =>
    have found : fields.lookup "id_token_signing_alg_values_supported" = some (.array trees) :=
      found
    have given := holds.signing
    rw [found] at given
    exact (Option.some.inj given).symm
  | encryptionAlgorithms =>
    have given := (knownOfTree?_given found).symm.trans holds.encryptionAlgorithms
    exact congrArg (Option.getD · []) (Option.some.inj given).symm
  | encryptionMethods =>
    have given := (knownOfTree?_given found).symm.trans holds.encryptionMethods
    exact congrArg (Option.getD · []) (Option.some.inj given).symm

theorem Holds.refilled (holds : Holds fields provider)
    (given : changed.lookup listed.name = some (.array others))
    (same : ∀ field ∈ fieldNames, field ≠ listed.name ->
      changed.lookup field = fields.lookup field) :
    Holds changed (listed.listing.put ((listed.listing (A := A)).understood others) provider) := by
  obtain ⟨issuer, keySetUrl, signing, encryptionAlgorithms, encryptionMethods⟩ := holds
  have issuer : (changed.lookup "issuer").bind UrlText.ofTree? = some provider.issuer := by
    rwa [same "issuer" (by decide) (by cases listed <;> decide)]
  have keySetUrl : changed.optional? "jwks_uri" UrlText.ofTree? = some provider.keySetUrl := by
    rwa [Json.Fields.optional?_congr (same "jwks_uri" (by decide) (by cases listed <;> decide))]
  have sameSigning (other : listed ≠ .signing) :
      changed.lookup "id_token_signing_alg_values_supported" =
        fields.lookup "id_token_signing_alg_values_supported" :=
    same _ (by decide) (by cases listed <;> first | contradiction | decide)
  have sameAlgorithms (other : listed ≠ .encryptionAlgorithms) :=
    Json.Fields.optional?_congr (same "id_token_encryption_alg_values_supported" (by decide)
      (by cases listed <;> first | contradiction | decide))
      (Named.knownOfTree? (A := KeyManagement))
  have sameMethods (other : listed ≠ .encryptionMethods) :=
    Json.Fields.optional?_congr (same "id_token_encryption_enc_values_supported" (by decide)
      (by cases listed <;> first | contradiction | decide))
      (Named.knownOfTree? (A := ContentEncryption))
  cases listed with
  | signing =>
    have given : changed.lookup "id_token_signing_alg_values_supported" = some (.array others) :=
      given
    exact ⟨issuer, keySetUrl, by rw [given]; rfl, (sameAlgorithms nofun).trans encryptionAlgorithms,
      (sameMethods nofun).trans encryptionMethods⟩
  | encryptionAlgorithms =>
    exact ⟨issuer, keySetUrl, by rwa [sameSigning nofun], knownOfTree?_given given,
      (sameMethods nofun).trans encryptionMethods⟩
  | encryptionMethods =>
    exact ⟨issuer, keySetUrl, by rwa [sameSigning nofun],
      (sameAlgorithms nofun).trans encryptionAlgorithms, knownOfTree?_given given⟩

end Refilled

theorem ofTree?_elements (listed : Listed) (around : Json.Around) :
    (listed.listing (A := A)).ReadsEach fun trees =>
      ofTree? (.object (around.members listed.name (.array trees))) := by
  have known : listed.name ∈ fieldNames := by cases listed <;> decide
  have depth : (listed.listing (A := A)).enclosing = 2 := by cases listed <;> rfl
  -- All members of a provider are read as values first, the list among them.
  have isValue (trees : List Json.Tree) :
      (Json.Tree.array trees).isValue 1 ↔ (listed.listing (A := A)).Legible trees := by
    rw [Json.Tree.isValue_array, Json.Listing.Legible, depth]
    exact and_iff_right (by decide)
  refine .of_refilled (fun trees provider read => ?_) fun trees others provider read legible => ?_
  · obtain ⟨values, fields, readValues, readFields, holds, _⟩ := (ofTree?_holds _ _).mp read
    obtain ⟨_, value, _, _, standsFor, _⟩ := (around.members?_around ..).mp readValues
    exact ⟨(isValue trees).mp (Option.isSome_of_eq_some standsFor),
      holds.elements (around.fields_given _ _ known _ fields readFields)⟩
  · obtain ⟨values, fields, readValues, readFields, holds, additional⟩ :=
      (ofTree?_holds _ _).mp read
    obtain ⟨changed, readChanged, given, same⟩ := around.fields_refilled listed.name fieldNames
      known (.array trees) (.array others) fields readFields
    obtain ⟨moved, readMoved, sameMembers⟩ := around.values_refilled listed.name 1 fieldNames
      known (.array trees) (.array others) ((isValue others).mpr legible) values readValues
    refine (ofTree?_holds _ _).mpr ⟨moved, changed, readMoved, readChanged,
      holds.refilled given same, sameMembers.trans (additional.trans ?_)⟩
    cases listed <;> rfl

end Provider

variable {A : Type} [SigningAlgorithm A] [DecidableEq A]

def Policy.ofDocument? (document : Json.Tree) (client : Client A) (keys : Option (KeySource A))
    (slot : Nat) : Option (Except PolicyFault (Option (SignatureSelector A)) ×
      Except PolicyFault (Option (DecryptionSelector A))) :=
  (Provider.ofTree? document).map fun provider =>
    (Policy.signature provider client slot, Policy.encryption provider client keys)

theorem lists_read :
    (∀ enclosing (place : KeySet.Place), (KeySet.listing enclosing).ReadsEach fun trees =>
      (KeySet.ofTree enclosing (place.document trees)).toOption) ∧
    (∀ response document, KeySet.Carries response document ->
      KeySet.ofResponse response = (KeySet.ofTree 0 document).mapError .document) ∧
    (∀ (around : Json.Around) (place : KeySet.Place),
      (ClientMetadata.listing (A := A)).ReadsEach fun trees =>
        ClientMetadata.ofTree? (.object (around.members "jwks" (place.document trees)))) ∧
    (∀ (around : Json.Around) (place : KeySet.Place),
      (Client.listing (A := A)).ReadsEach fun trees =>
        Client.ofTree? (.object (around.members "jwks" (place.document trees)))) ∧
    ∀ (listed : Provider.Listed) (around : Json.Around),
      ((listed.listing (A := A)).ReadsEach fun trees =>
        Provider.ofTree? (.object (around.members listed.name (.array trees)))) ∧
      ∀ before after tree, tree.isValue (listed.listing (A := A)).enclosing ->
        (listed.listing (A := A)).element? tree = none ->
        ∀ (client : Client A) (keys : Option (KeySource A)) (slot : Nat),
          Policy.ofDocument?
              (.object (around.members listed.name (.array (before ++ tree :: after))))
              client keys slot =
            Policy.ofDocument? (.object (around.members listed.name (.array (before ++ after))))
              client keys slot := by
  refine ⟨KeySet.ofTree_elements, KeySet.ofResponse_carried, ClientMetadata.ofTree?_elements,
    Client.ofTree?_elements, fun listed around => ?_⟩
  have read := Provider.ofTree?_elements (A := A) listed around
  refine ⟨read, fun before after tree isValue unknown client keys slot => ?_⟩
  rw [Policy.ofDocument?, read.passedOver before after tree isValue unknown]
  rfl

namespace KeySet.Sample

def symmetricKey (id : String) : Json.Tree :=
  .object [(some "kty", .string (some "oct")), (some "kid", .string (some id))]

def magicKey : Json.Tree :=
  .object [(some "kty", .string (some "MAGIC")), (some "magic", .array [.null])]

def document (trees : List Json.Tree) : Json.Tree := (Place.member ⟨[], []⟩).document trees

def providerDocument (trees : List Json.Tree) : Json.Tree :=
  .object (Json.Around.members ⟨[(some "issuer", .string (some "urn:op"))], []⟩
    (Provider.Listed.name .signing) (.array trees))

def client : Client Signing := ⟨"rp", none, .empty⟩

def response : Http.Response := ⟨200, none, Bytes.ofText "\x7b\"keys\":[\x7b\x7d]\x7d"⟩

set_option maxRecDepth 4000 in
theorem magic_key_passed_over :
    (ofTree 0 (document [symmetricKey "a", magicKey, symmetricKey "b"])).toOption =
        some ⟨[.bare .symmetric none "a", .bare .symmetric none "b"]⟩ ∧
      (Provider.ofTree? (A := Signing) (providerDocument [.null])).isSome ∧
      Policy.ofDocument? (A := Signing) (providerDocument [.null]) client none 0 =
        Policy.ofDocument? (providerDocument []) client none 0 ∧
      ofResponse response = .ok empty := by
  obtain ⟨keySets, responses, _, _, providers⟩ := lists_read (A := Signing)
  have joined := (keySets 0 (.member ⟨[], []⟩)).joined [symmetricKey "a"]
    [magicKey, symmetricKey "b"] ⟨[.bare .symmetric none "a"]⟩ ⟨[.bare .symmetric none "b"]⟩
    (by rfl) (by rfl)
  have carries : Carries response (document [.object []]) :=
    ⟨rfl, [], by with_unfolding_all rfl⟩
  refine ⟨joined, by rfl, (providers .signing _).2 [] [] .null rfl rfl client none 0, ?_⟩
  rw [responses response _ carries]
  rfl

def largeKey : Json.Tree :=
  .object [(some "kty", .string (some "MAGIC")), (some "magic", .number none)]

set_option maxRecDepth 10000 in
theorem large_key_refused :
    Json.Tree.ofText? ("\x7b\"keys\":[\x7b\"kty\":\"MAGIC\",\"magic\":1e400\x7d," ++
        "\x7b\"kty\":\"oct\",\"kid\":\"a\"\x7d]\x7d") =
      some (document [largeKey, symmetricKey "a"]) ∧
      (ofTree 0 (document [largeKey])).toOption = none ∧
      (ofTree 0 (document [symmetricKey "a"])).toOption = some ⟨[.bare .symmetric none "a"]⟩ ∧
      (ofTree 0 (document [largeKey, symmetricKey "a"])).toOption = none := by
  exact ⟨by with_unfolding_all rfl, by rfl, by rfl, by rfl⟩

end KeySet.Sample

end RelyingParty
