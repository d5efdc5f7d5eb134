import RelyingParty.Proofs.Checked
import RelyingParty.Proofs.Crypto.Gcm
import RelyingParty.Key.Decryption

set_option autoImplicit false

namespace RelyingParty

theorem Bytes.array?_of_length {size : Nat} {bytes : Bytes} (exact : bytes.length = size) :
    Bytes.array? size bytes = some bytes := by
  unfold Bytes.array?
  rw [if_pos exact]

namespace Key

def Serves (key : Key) (use : KeyUse) : Prop := key.use = none ∨ key.use = some use

structure MakesRsa (key : Key) (modulus exponent : Bytes) (rsa : Rsa.PublicKey) : Prop where
  modulusGiven : key.modulus = some modulus
  exponentGiven : key.exponent = some exponent
  usable : Rsa.PublicKey.of (Bytes.toNat modulus) (Bytes.toNat exponent) = .ok rsa

structure MakesPoint (key : Key) (curve : PrimeCurve) (x y : Bytes) (point : Ecdsa.PublicKey) :
    Prop where
  named : key.curve = some (.prime curve)
  xGiven : key.x = some x
  yGiven : key.y = some y
  xLength : x.length = curve.size
  yLength : y.length = curve.size
  onCurve : Ecdsa.PublicKey.of? curve (Bytes.toNat x) (Bytes.toNat y) = some point

structure MakesEdwards (key : Key) (x : Bytes) (point : Ed25519.Point) : Prop where
  named : key.curve = some .ed25519
  given : key.x = some x
  length : x.length = 32
  decoded : Ed25519.Point.decode? x = some point

/--
A signature that a key accepts, by the algorithm: what the key has to be, and what is checked with
it. There is no key that accepts a message without signature.
-/
inductive Accepts (key : Key) (message signature : Bytes) : Signing -> Prop
  | hmac {hash : Sha2} {secret : Bytes} (type : key.type = .symmetric)
      (part : key.secret = some secret)
      (valid : Hmac.verify hash secret message signature = true) :
      Accepts key message signature (.hmac hash)
  | rsaBlock {hash : Sha2} {modulus exponent : Bytes} {rsa : Rsa.PublicKey}
      (type : key.type = .rsa) (makes : key.MakesRsa modulus exponent rsa)
      (valid : Rsa.verifyBlock rsa hash (hash.digest message) signature = true) :
      Accepts key message signature (.rsaBlock hash)
  | rsaSalted {hash : Sha2} {modulus exponent : Bytes} {rsa : Rsa.PublicKey}
      (type : key.type = .rsa) (makes : key.MakesRsa modulus exponent rsa)
      (valid : Rsa.verifySalted rsa hash (hash.digest message) signature = true) :
      Accepts key message signature (.rsaSalted hash)
  | ecdsa {curve : PrimeCurve} {x y : Bytes} {point : Ecdsa.PublicKey} {pair : Ecdsa.Signature}
      (type : key.type = .ellipticCurve) (makes : key.MakesPoint curve x y point)
      (formed : Ecdsa.Signature.of? curve signature = some pair)
      (valid : Ecdsa.verify point (curve.hash.digest message) pair = true) :
      Accepts key message signature (.ecdsa curve)
  | edDsa {x : Bytes} {point : Ed25519.Point}
      (type : key.type = .octetKeyPair) (makes : key.MakesEdwards x point)
      (formed : signature.length = 64)
      (valid : Ed25519.verify x point message signature = true) :
      Accepts key message signature .edDsa

section

variable (key : Key)

theorem checkSigning_success (algorithm : Signing) :
    key.checkSigning algorithm = .ok () ↔
      key.Serves .signature ∧ SigningAlgorithm.keyType algorithm = some key.type := by
  unfold checkSigning
  rw [check_success, require_success, require_success, beq_iff_eq]
  refine and_congr_left fun _ => ?_
  unfold Serves
  cases key.use with
  | none => simp
  | some use => cases use <;> simp [KeyUse.allowsSignature]

theorem rsaKey_success (rsa : Rsa.PublicKey) :
    key.rsaKey = .ok rsa ↔ ∃ modulus exponent, key.MakesRsa modulus exponent rsa := by
  unfold rsaKey
  simp only [bind_success, orFault_success, mapError_success]
  constructor
  next =>
    rintro ⟨modulus, first, exponent, second, usable⟩
    exact ⟨modulus, exponent, first, second, usable⟩
  next =>
    rintro ⟨modulus, exponent, makes⟩
    exact ⟨modulus, makes.modulusGiven, exponent, makes.exponentGiven, makes.usable⟩

theorem ecdsaKey_converted (curve : PrimeCurve) :
    key.ecdsaKey curve = (do
      require (key.curve == some (.prime curve)) .curveMismatch
      let x ← orFault .missingX key.x
      let y ← orFault .missingY key.y
      require (x.length == curve.size && y.length == curve.size) (.coordinateLength curve.size)
      orFault .notOnCurve (Ecdsa.PublicKey.of? curve (Bytes.toNat x) (Bytes.toNat y))) := by
  unfold ecdsaKey
  refine bind_congr fun _ => bind_congr fun x => bind_congr fun y => ?_
  cases full : x.length == curve.size && y.length == curve.size with
  | false => rfl
  | true =>
    -- Both parts have the length of the array, so that neither conversion gives up.
    obtain ⟨xLength, yLength⟩ := Bool.and_eq_true_iff.mp full
    rw [Bytes.array?_of_length (eq_of_beq xLength), Bytes.array?_of_length (eq_of_beq yLength)]
    rfl

theorem ecdsaKey_success (curve : PrimeCurve) (point : Ecdsa.PublicKey) :
    key.ecdsaKey curve = .ok point ↔ ∃ x y, key.MakesPoint curve x y point := by
  rw [ecdsaKey_converted]
  simp only [bind_success, orFault_success, require_success, Bool.and_eq_true, beq_iff_eq]
  constructor
  next =>
    rintro ⟨_, named, x, first, y, second, _, ⟨xLength, yLength⟩, onCurve⟩
    exact ⟨x, y, named, first, second, xLength, yLength, onCurve⟩
  next =>
    rintro ⟨x, y, makes⟩
    exact ⟨(), makes.named, x, makes.xGiven, y, makes.yGiven, (),
      ⟨makes.xLength, makes.yLength⟩, makes.onCurve⟩

theorem edwardsKey_success (x : Bytes) (point : Ed25519.Point) :
    key.edwardsKey = .ok (x, point) ↔ key.MakesEdwards x point := by
  unfold edwardsKey
  simp only [bind_success, orFault_success, require_success, beq_iff_eq, return_success,
    Prod.mk.injEq]
  constructor
  next =>
    rintro ⟨_, named, _, part, _, length, _, decoded, rfl, rfl⟩
    exact ⟨named, part, length, decoded⟩
  next =>
    intro makes
    exact ⟨(), makes.named, x, makes.given, (), makes.length, point, makes.decoded, rfl, rfl⟩

variable (message signature : Bytes)

theorem checkSignature_accepts (algorithm : Signing) :
    SigningAlgorithm.keyType algorithm = some key.type ∧
        key.checkSignature message signature algorithm = .ok () ↔
      key.Accepts message signature algorithm := by
  constructor
  next =>
    rintro ⟨typed, checked⟩
    cases algorithm with
    | hmac hash =>
      obtain ⟨secret, part, valid⟩ := (bind_success _ _ _).mp checked
      simp only [orFault_success, require_success] at part valid
      exact .hmac (Option.some.inj typed).symm part valid
    | rsaBlock hash =>
      obtain ⟨rsa, made, valid⟩ := (bind_success _ _ _).mp checked
      obtain ⟨modulus, exponent, makes⟩ := (key.rsaKey_success rsa).mp made
      exact .rsaBlock (Option.some.inj typed).symm makes ((require_success _ _ _).mp valid)
    | rsaSalted hash =>
      obtain ⟨rsa, made, valid⟩ := (bind_success _ _ _).mp checked
      obtain ⟨modulus, exponent, makes⟩ := (key.rsaKey_success rsa).mp made
      exact .rsaSalted (Option.some.inj typed).symm makes ((require_success _ _ _).mp valid)
    | ecdsa curve =>
      obtain ⟨point, made, checked⟩ := (bind_success _ _ _).mp checked
      obtain ⟨pair, formed, valid⟩ := (bind_success _ _ _).mp checked
      obtain ⟨x, y, makes⟩ := (key.ecdsaKey_success curve point).mp made
      simp only [orFault_success, require_success] at formed valid
      exact .ecdsa (Option.some.inj typed).symm makes formed valid
    | edDsa =>
      obtain ⟨⟨x, point⟩, made, checked⟩ := (bind_success _ _ _).mp checked
      obtain ⟨formed, valid⟩ := (check_success _ _ _).mp checked
      have makes := (key.edwardsKey_success x point).mp made
      simp only [require_success, beq_iff_eq] at formed valid
      exact .edDsa (Option.some.inj typed).symm makes formed valid
    | unsecured => cases checked
  next =>
    intro accepted
    cases accepted with
    | hmac type part valid =>
      refine ⟨congrArg some type.symm, (bind_success _ _ _).mpr ?_⟩
      exact ⟨_, (orFault_success _ _ _).mpr part, (require_success _ _ _).mpr valid⟩
    | rsaBlock type makes valid =>
      refine ⟨congrArg some type.symm, (bind_success _ _ _).mpr ?_⟩
      exact ⟨_, (key.rsaKey_success _).mpr ⟨_, _, makes⟩, (require_success _ _ _).mpr valid⟩
    | rsaSalted type makes valid =>
      refine ⟨congrArg some type.symm, (bind_success _ _ _).mpr ?_⟩
      exact ⟨_, (key.rsaKey_success _).mpr ⟨_, _, makes⟩, (require_success _ _ _).mpr valid⟩
    | ecdsa type makes formed valid =>
      refine ⟨congrArg some type.symm, (bind_success _ _ _).mpr ?_⟩
      refine ⟨_, (key.ecdsaKey_success _ _).mpr ⟨_, _, makes⟩, (bind_success _ _ _).mpr ?_⟩
      exact ⟨_, (orFault_success _ _ _).mpr formed, (require_success _ _ _).mpr valid⟩
    | edDsa type makes formed valid =>
      refine ⟨congrArg some type.symm, (bind_success _ _ _).mpr ?_⟩
      refine ⟨_, (key.edwardsKey_success _ _).mpr makes, (check_success _ _ _).mpr ?_⟩
      simp only [require_success, beq_iff_eq]
      exact ⟨formed, valid⟩

theorem verifySignature_accepts (algorithm : Signing) :
    key.verifySignature algorithm message signature = .ok () ↔
      key.Serves .signature ∧ key.Accepts message signature algorithm := by
  unfold verifySignature
  rw [check_success, checkSigning_success, and_assoc, checkSignature_accepts]

theorem rsaKey_unaborted : key.rsaKey ≠ .error .aborted := by
  simp [rsaKey, bind_failure]

theorem ecdsaKey_unaborted (curve : PrimeCurve) : key.ecdsaKey curve ≠ .error .aborted := by
  rw [ecdsaKey_converted]
  simp [bind_failure]

theorem edwardsKey_unaborted : key.edwardsKey ≠ .error .aborted := by
  simp [edwardsKey, bind_failure, -bind_pure_comp]

theorem checkSignature_unaborted (algorithm : Signing) :
    key.checkSignature message signature algorithm ≠ .error .aborted := by
  cases algorithm with
  | hmac hash => simp [checkSignature, bind_failure]
  | rsaBlock hash => simp [checkSignature, bind_failure, key.rsaKey_unaborted]
  | rsaSalted hash => simp [checkSignature, bind_failure, key.rsaKey_unaborted]
  | ecdsa curve => simp [checkSignature, bind_failure, key.ecdsaKey_unaborted]
  | edDsa => simp [checkSignature, bind_failure, key.edwardsKey_unaborted]
  | unsecured => simp [checkSignature]

theorem verifySignature_unaborted (algorithm : Signing) :
    key.verifySignature algorithm message signature ≠ .error .aborted := by
  simp [verifySignature, checkSigning, bind_failure, key.checkSignature_unaborted]

theorem verifySignature_refused (algorithm : Signing) (fault : SignatureFault)
    (serves : key.Serves .signature)
    (typed : SigningAlgorithm.keyType algorithm = some key.type)
    (refused : key.checkSignature message signature algorithm = .error fault) :
    key.verifySignature algorithm message signature = .error fault := by
  have checked := (key.checkSigning_success algorithm).mpr ⟨serves, typed⟩
  exact (bind_failure _ _ _).mpr (.inr ⟨(), checked, refused⟩)

theorem coordinates_refused (curve : PrimeCurve) (x y : Bytes) (serves : key.Serves .signature)
    (type : key.type = .ellipticCurve) (named : key.curve = some (.prime curve))
    (xGiven : key.x = some x) (yGiven : key.y = some y)
    (other : ¬ (x.length = curve.size ∧ y.length = curve.size)) :
    key.verifySignature (.ecdsa curve) message signature =
      .error (.coordinateLength curve.size) := by
  have refused : key.ecdsaKey curve = .error (.coordinateLength curve.size) := by
    simpa [ecdsaKey_converted, bind_failure, named, xGiven, yGiven] using other
  refine key.verifySignature_refused message signature _ _ serves (congrArg some type.symm) ?_
  exact (bind_failure _ _ _).mpr (.inl refused)

theorem publicPart_refused (x : Bytes) (serves : key.Serves .signature)
    (type : key.type = .octetKeyPair) (named : key.curve = some .ed25519)
    (given : key.x = some x) (other : x.length ≠ 32) :
    key.verifySignature .edDsa message signature = .error .publicPartLength := by
  have refused : key.edwardsKey = .error .publicPartLength := by
    simp [edwardsKey, bind_failure, named, given, other, -bind_pure_comp]
  refine key.verifySignature_refused message signature _ _ serves (congrArg some type.symm) ?_
  exact (bind_failure _ _ _).mpr (.inl refused)

end

def secretSize? : ContentEncryption -> Option Nat
  | .gcm .bits128 => some 16
  | .gcm .bits256 => some 32
  | .gcm .bits192 | .cbcHmac _ => none

structure Opens (key : Key) (algorithm : KeyManagement) (method : ContentEncryption)
    (content : SealedContent) (secret plaintext : Bytes) : Prop where
  type : key.type = .symmetric
  direct : algorithm = .direct
  given : key.secret = some secret
  size : secretSize? method = some secret.length
  unkeyed : content.encryptedKey = []
  ivLength : content.iv.length = 12
  tagLength : content.tag.length = 16
  opened : Gcm.openSealed? secret content.iv content.aad (content.ciphertext ++ content.tag) =
    some plaintext

theorem secretSize?_words (method : ContentEncryption) (size : Nat)
    (supported : secretSize? method = some size) : ∃ words, 0 < words ∧ size = 4 * words := by
  unfold secretSize? at supported
  split at supported <;> cases supported
  · exact ⟨4, by decide, rfl⟩
  · exact ⟨8, by decide, rfl⟩

theorem Opens.authentic {key : Key} {algorithm : KeyManagement} {method : ContentEncryption}
    {content : SealedContent} {secret plaintext : Bytes}
    (opens : key.Opens algorithm method content secret plaintext) :
    content.ciphertext ++ content.tag =
      Gcm.sealing secret content.iv content.aad plaintext := by
  obtain ⟨words, positive, size⟩ := secretSize?_words method secret.length opens.size
  exact (Gcm.openSealed?_exact _ _ _ _ _ words positive size).mp opens.opened

section

variable (key : Key) (algorithm : KeyManagement) (method : ContentEncryption)
  (content : SealedContent)

theorem checkDecrypting_success :
    key.checkDecrypting algorithm = .ok () ↔
      key.Serves .encryption ∧ algorithm.keyType = some key.type := by
  unfold checkDecrypting
  rw [check_success, require_success, require_success, beq_iff_eq]
  refine and_congr_left fun _ => ?_
  unfold Serves
  cases key.use with
  | none => simp
  | some use => cases use <;> simp [KeyUse.allowsEncryption]

theorem openContent_converted (size : Nat) (secret : Bytes) :
    openContent size secret content = (do
      require (secret.length == size) .keyLength
      require (content.iv.length == Gcm.ivSize) .ivLength
      require (content.tag.length == Gcm.tagSize) .tagLength
      orFault .notAuthentic (Gcm.openSealed? secret content.iv content.aad
        (content.ciphertext ++ content.tag))) := by
  unfold openContent
  refine bind_congr fun _ => ?_
  cases full : content.iv.length == Gcm.ivSize with
  | false => rfl
  | true =>
    rw [Bytes.array?_of_length (eq_of_beq full)]
    rfl

theorem openContent_success (size : Nat) (secret plaintext : Bytes) :
    openContent size secret content = .ok plaintext ↔
      secret.length = size ∧ content.iv.length = 12 ∧ content.tag.length = 16 ∧
        Gcm.openSealed? secret content.iv content.aad (content.ciphertext ++ content.tag) =
          some plaintext := by
  rw [openContent_converted]
  simp only [check_success, orFault_success, require_success, beq_iff_eq, Gcm.ivSize, Gcm.tagSize]

theorem decrypt_sized :
    key.decrypt algorithm method content = (do
      key.checkDecrypting algorithm
      require (algorithm == .direct) (.unsupportedKeyManagement algorithm)
      require content.encryptedKey.isEmpty .encryptedKeyPresent
      let secret ← orFault .missingSecret key.secret
      match secretSize? method with
      | some size => openContent size secret content
      | none => .error (.unsupportedContentEncryption method)) := by
  rcases method with key | _ | _ | _ <;> rfl

theorem decrypt_opens (plaintext : Bytes) :
    key.decrypt algorithm method content = .ok plaintext ↔
      key.Serves .encryption ∧
        ∃ secret, key.Opens algorithm method content secret plaintext := by
  rw [decrypt_sized]
  simp only [check_success, checkDecrypting_success, require_success, beq_iff_eq, List.isEmpty_iff]
  simp only [bind_success, orFault_success]
  constructor
  next =>
    rintro ⟨⟨serves, typed⟩, rfl, unkeyed, secret, given, opened⟩
    split at opened
    next size supported =>
      obtain ⟨rfl, ivLength, tagLength, opened⟩ := (openContent_success ..).mp opened
      exact ⟨serves, secret, (Option.some.inj typed).symm, rfl, given, supported, unkeyed,
        ivLength, tagLength, opened⟩
    next => cases opened
  next =>
    rintro ⟨serves, secret, opens⟩
    refine ⟨⟨serves, ?_⟩, opens.direct, opens.unkeyed, secret, opens.given, ?_⟩
    · rw [opens.direct, opens.type]
      rfl
    · rw [opens.size]
      exact (openContent_success ..).mpr ⟨rfl, opens.ivLength, opens.tagLength, opens.opened⟩

theorem openContent_kind (size : Nat) (secret : Bytes) (fault : DecryptionFault)
    (failed : openContent size secret content = .error fault) :
    fault.kind = .key ∨ fault.kind = .cryptographic := by
  rw [openContent_converted] at failed
  simp only [bind_failure, require_failure, orFault_failure] at failed
  obtain ⟨_, rfl⟩ | ⟨_, _, ⟨_, rfl⟩ | ⟨_, _, ⟨_, rfl⟩ | ⟨_, _, _, rfl⟩⟩⟩ := failed
  · exact .inl rfl
  · exact .inr rfl
  · exact .inr rfl
  · exact .inr rfl

theorem decrypt_kind (fault : DecryptionFault)
    (failed : key.decrypt algorithm method content = .error fault) :
    (fault.kind = .key ∨ fault.kind = .cryptographic) ∨
      fault.kind = .unsupported ∧ (algorithm ≠ .direct ∨ secretSize? method = none) := by
  rw [decrypt_sized] at failed
  -- The steps are taken one by one, and each has faults of one kind only.
  obtain unchecked | ⟨_, _, failed⟩ := (bind_failure _ _ _).mp failed
  · simp only [checkDecrypting, bind_failure, require_failure] at unchecked
    obtain ⟨_, rfl⟩ | ⟨_, _, _, rfl⟩ := unchecked <;> exact .inl (.inl rfl)
  obtain other | ⟨_, _, failed⟩ := (bind_failure _ _ _).mp failed
  · obtain ⟨other, rfl⟩ := (require_failure _ _ _).mp other
    exact .inr ⟨rfl, .inl (by simpa using other)⟩
  obtain keyed | ⟨_, _, failed⟩ := (bind_failure _ _ _).mp failed
  · obtain ⟨_, rfl⟩ := (require_failure _ _ _).mp keyed
    exact .inl (.inr rfl)
  obtain missing | ⟨secret, _, failed⟩ := (bind_failure _ _ _).mp failed
  · obtain ⟨_, rfl⟩ := (orFault_failure _ _ _).mp missing
    exact .inl (.inl rfl)
  split at failed
  next => exact .inl (openContent_kind content _ secret fault failed)
  next unsupported =>
    cases failed
    exact .inr ⟨rfl, .inr unsupported⟩

theorem lengths_refused (secret : Bytes) (size : Nat) (given : key.secret = some secret)
    (supported : secretSize? method = some size)
    (other : ¬ (content.encryptedKey = [] ∧ secret.length = size ∧ content.iv.length = 12 ∧
      content.tag.length = 16)) :
    ∃ fault, key.decrypt .direct method content = .error fault ∧
      (fault.kind = .key ∨ fault.kind = .cryptographic) := by
  cases outcome : key.decrypt .direct method content with
  | ok plaintext =>
    -- Content that is opened has all four lengths.
    obtain ⟨_, found, opens⟩ := (key.decrypt_opens .direct method content plaintext).mp outcome
    obtain rfl : found = secret := Option.some.inj (opens.given.symm.trans given)
    have exact := Option.some.inj (opens.size.symm.trans supported)
    exact absurd ⟨opens.unkeyed, exact, opens.ivLength, opens.tagLength⟩ other
  | error fault =>
    refine ⟨fault, rfl, ?_⟩
    obtain refused | ⟨_, other | unsupported⟩ :=
      key.decrypt_kind .direct method content fault outcome
    · exact refused
    · exact absurd rfl other
    · simp [supported] at unsupported

theorem decrypt_authentic (plaintext : Bytes)
    (decrypted : key.decrypt algorithm method content = .ok plaintext) :
    ∃ secret, key.secret = some secret ∧ content.ciphertext ++ content.tag =
      Gcm.sealing secret content.iv content.aad plaintext := by
  obtain ⟨_, secret, opens⟩ := (key.decrypt_opens algorithm method content plaintext).mp decrypted
  exact ⟨secret, opens.given, opens.authentic⟩

theorem decrypt_unaborted : key.decrypt algorithm method content ≠ .error .aborted := by
  intro failed
  obtain (impossible | impossible) | ⟨impossible, _⟩ :=
    key.decrypt_kind algorithm method content .aborted failed <;> cases impossible

end

/--
A key verifies signatures only as the key that it is. A part of another length makes it no key for
the algorithm, and no such part is ever converted.
-/
structure VerifiesByPurpose (key : Key) : Prop where
  accepted : ∀ algorithm message signature,
    key.verifySignature algorithm message signature = .ok () ↔
      key.Serves .signature ∧ key.Accepts message signature algorithm
  coordinates : ∀ curve x y message signature, key.Serves .signature ->
    key.type = .ellipticCurve -> key.curve = some (.prime curve) ->
    key.x = some x -> key.y = some y -> ¬ (x.length = curve.size ∧ y.length = curve.size) ->
      ∃ fault, key.verifySignature (.ecdsa curve) message signature = .error fault ∧
        fault.kind = .key
  publicPart : ∀ x message signature, key.Serves .signature -> key.type = .octetKeyPair ->
    key.curve = some .ed25519 -> key.x = some x -> x.length ≠ 32 ->
      ∃ fault, key.verifySignature .edDsa message signature = .error fault ∧ fault.kind = .key
  unaborted : ∀ algorithm message signature,
    key.verifySignature algorithm message signature ≠ .error .aborted

/--
A key decrypts content only as the key that it is, and to what was sealed with it. A part of another
length, of the key or of the content, is refused, and no such part is ever converted.
-/
structure DecryptsByPurpose (key : Key) : Prop where
  opened : ∀ algorithm method content plaintext,
    key.decrypt algorithm method content = .ok plaintext ↔
      key.Serves .encryption ∧ ∃ secret, key.Opens algorithm method content secret plaintext
  authentic : ∀ algorithm method content plaintext,
    key.decrypt algorithm method content = .ok plaintext ->
      ∃ secret, key.secret = some secret ∧ content.ciphertext ++ content.tag =
        Gcm.sealing secret content.iv content.aad plaintext
  lengths : ∀ method content secret size,
    key.secret = some secret -> secretSize? method = some size ->
    ¬ (content.encryptedKey = [] ∧ secret.length = size ∧ content.iv.length = 12 ∧
      content.tag.length = 16) ->
      ∃ fault, key.decrypt .direct method content = .error fault ∧
        (fault.kind = .key ∨ fault.kind = .cryptographic)
  unaborted : ∀ algorithm method content,
    key.decrypt algorithm method content ≠ .error .aborted

theorem purpose_kept (key : Key) : key.VerifiesByPurpose ∧ key.DecryptsByPurpose := by
  refine ⟨⟨?accepted, ?coordinates, ?publicPart, ?unaborted⟩,
    ⟨key.decrypt_opens, key.decrypt_authentic, key.lengths_refused, key.decrypt_unaborted⟩⟩
  case accepted =>
    intro algorithm message signature
    exact key.verifySignature_accepts message signature algorithm
  case coordinates =>
    intro curve x y message signature serves type named xGiven yGiven other
    exact ⟨_, key.coordinates_refused message signature curve x y serves type named xGiven yGiven
      other, rfl⟩
  case publicPart =>
    intro x message signature serves type named given other
    exact ⟨_, key.publicPart_refused message signature x serves type named given other, rfl⟩
  case unaborted =>
    intro algorithm message signature
    exact key.verifySignature_unaborted message signature algorithm

namespace Sample

/-- A key for signatures over P-256 with a coordinate that lacks a byte. -/
def shortKey : Key :=
  .ellipticCurve (List.replicate 31 7) (List.replicate 32 7) (.prime .p256) none

def secretKey : Key := .symmetric (Bytes.ofText "0123456789abcdef")

def code : Bytes :=
  [73, 109, 201, 63, 162, 210, 110, 174, 80, 14, 192, 188, 55, 161, 34, 112, 107, 136, 248, 150, 60,
    235, 240, 137, 157, 2, 69, 250, 227, 19, 226, 65]

def content : SealedContent where
  aad := []
  encryptedKey := []
  iv := List.replicate 12 0
  ciphertext := []
  tag := [1, 176, 76, 56, 26, 102, 228, 233, 69, 144, 210, 95, 176, 51, 90, 236]

theorem keys_used :
    (∀ message signature, ∃ fault,
      shortKey.verifySignature (.ecdsa .p256) message signature = .error fault ∧
        fault.kind = .key) ∧
    (secretKey.verifySignature (.hmac .sha256) [] code = .ok () ∧
      secretKey.Accepts [] code (.hmac .sha256)) ∧
    secretKey.decrypt .direct (.gcm .bits128) content = .ok [] ∧
      ∃ secret, secretKey.secret = some secret ∧
        content.ciphertext ++ content.tag = Gcm.sealing secret content.iv content.aad [] := by
  obtain ⟨verifies, decrypts⟩ := secretKey.purpose_kept
  have verified : (secretKey.verifySignature (.hmac .sha256) [] code).toOption = some () := by
    decide +kernel
  have decrypted : (secretKey.decrypt .direct (.gcm .bits128) content).toOption = some [] := by
    decide +kernel
  have verified := (toOption_success _ _).mp verified
  have decrypted := (toOption_success _ _).mp decrypted
  refine ⟨fun message signature => ?_, ⟨verified, ((verifies.accepted _ _ _).mp verified).2⟩,
    decrypted, decrypts.authentic _ _ _ _ decrypted⟩
  exact shortKey.purpose_kept.1.coordinates .p256 _ _ message signature (.inr rfl) rfl rfl rfl rfl
    (by decide)

end Sample

end Key

end RelyingParty
