import RelyingParty.Key
import RelyingParty.Proofs.Base64Url
import RelyingParty.Proofs.Json.Record

set_option autoImplicit false

namespace RelyingParty.Key

def byteParts : List (String × (Key -> Option Bytes)) :=
  [("n", modulus), ("e", exponent), ("x", x), ("y", y), ("d", privatePart), ("k", secret)]

theorem byteParts_named (part : String × (Key -> Option Bytes)) (listed : part ∈ byteParts) :
    part.1 ∈ fieldNames := by
  revert part
  simp [byteParts, fieldNames]

def curve? (value : Json) : Option Curve := Named.ofTree? value.toTree

structure Holds (readType : Json.Tree -> Option KeyType) (fields : Json.Fields) (key : Key) :
    Prop where
  type : (fields.lookup "kty").bind readType = some key.type
  use : ∃ text, fields.optionalText? "use" = some text ∧ key.use = text.map KeyUse.ofText
  id : fields.optionalText? "kid" = some key.id
  bytes : ∀ part ∈ byteParts, fields.lenient? part.1 bytes? = some (part.2 key)
  curve : fields.lenient? "crv" curve? = some key.curve

theorem ofTreeWith?_success (readType : Json.Tree -> Option KeyType) (tree : Json.Tree)
    (key : Key) :
    ofTreeWith? readType tree = some key ↔
      ∃ fields, Json.Fields.ofTree? fieldNames 3 tree = some fields ∧
        Holds readType fields key := by
  constructor
  next =>
    intro read
    obtain ⟨fields, fieldsRead, read⟩ := Option.bind_eq_some_iff.mp read
    obtain ⟨type, typeRead, read⟩ := Option.bind_eq_some_iff.mp read
    obtain ⟨use, useRead, read⟩ := Option.bind_eq_some_iff.mp read
    obtain ⟨id, idRead, read⟩ := Option.bind_eq_some_iff.mp read
    obtain ⟨modulus, modulusRead, read⟩ := Option.bind_eq_some_iff.mp read
    obtain ⟨exponent, exponentRead, read⟩ := Option.bind_eq_some_iff.mp read
    obtain ⟨curve, curveRead, read⟩ := Option.bind_eq_some_iff.mp read
    obtain ⟨x, xRead, read⟩ := Option.bind_eq_some_iff.mp read
    obtain ⟨y, yRead, read⟩ := Option.bind_eq_some_iff.mp read
    obtain ⟨privatePart, privateRead, read⟩ := Option.bind_eq_some_iff.mp read
    obtain ⟨secret, secretRead, read⟩ := Option.bind_eq_some_iff.mp read
    cases read
    exact ⟨fields, fieldsRead, typeRead, ⟨use, useRead, rfl⟩, idRead,
      by simpa [byteParts] using
        ⟨modulusRead, exponentRead, xRead, yRead, privateRead, secretRead⟩, curveRead⟩
  next =>
    rintro ⟨fields, fieldsRead, type, ⟨use, useRead, named⟩, id, bytes, curve⟩
    simp only [byteParts, List.forall_mem_cons, List.not_mem_nil] at bytes
    obtain ⟨modulus, exponent, x, y, privatePart, secret, _⟩ := bytes
    refine Option.bind_eq_some_iff.mpr ⟨fields, fieldsRead, ?_⟩
    refine Option.bind_eq_some_iff.mpr ⟨_, type, ?_⟩
    refine Option.bind_eq_some_iff.mpr ⟨use, useRead, ?_⟩
    refine Option.bind_eq_some_iff.mpr ⟨_, id, ?_⟩
    refine Option.bind_eq_some_iff.mpr ⟨_, modulus, ?_⟩
    refine Option.bind_eq_some_iff.mpr ⟨_, exponent, ?_⟩
    refine Option.bind_eq_some_iff.mpr ⟨_, curve, ?_⟩
    refine Option.bind_eq_some_iff.mpr ⟨_, x, ?_⟩
    refine Option.bind_eq_some_iff.mpr ⟨_, y, ?_⟩
    refine Option.bind_eq_some_iff.mpr ⟨_, privatePart, ?_⟩
    refine Option.bind_eq_some_iff.mpr ⟨_, secret, ?_⟩
    rw [← named]
    rfl

theorem Holds.congr {readType : Json.Tree -> Option KeyType} {fields others : Json.Fields}
    {key : Key} (holds : Holds readType fields key)
    (same : ∀ name ∈ fieldNames, others.lookup name = fields.lookup name) :
    Holds readType others key := by
  obtain ⟨type, use, id, bytes, curve⟩ := holds
  constructor
  case type => rwa [same "kty" (by decide)]
  case use => rwa [Json.Fields.optionalText?, Json.Fields.optional?_congr (same "use" (by decide))]
  case id => rwa [Json.Fields.optionalText?, Json.Fields.optional?_congr (same "kid" (by decide))]
  case bytes =>
    intro part listed
    rw [Json.Fields.lenient?_congr (same part.1 (byteParts_named part listed))]
    exact bytes part listed
  case curve => rwa [Json.Fields.lenient?_congr (same "crv" (by decide))]

theorem bytes?_some (value : Json) (bytes : Bytes) :
    bytes? value = some bytes ↔ value = .string (Base64Url.encode bytes) := by
  cases value with
  | string text => simp [bytes?, Base64Url.decode_exact]
  | null | bool _ | number _ | array _ | object _ => simp [bytes?]

end RelyingParty.Key
