import RelyingParty.Base64Url
import RelyingParty.Proofs.Bytes
import RelyingParty.Proofs.Checked

set_option autoImplicit false

namespace RelyingParty.Base64Url

theorem value?_symbol : ∀ value < 64, value? (symbol value) = some value := by decide

theorem value?_success (byte : UInt8) (value : Nat) (read : value? byte = some value) :
    value < 64 ∧ symbol value = byte := by
  -- There are few enough bytes to look at each one.
  have alphabet : ∀ code < 256, ∀ value ∈ value? (UInt8.ofNat code),
      value < 64 ∧ symbol value = UInt8.ofNat code := by decide +kernel
  have found := alphabet byte.toNat byte.toNat_lt value
  rw [UInt8.ofNat_toNat] at found
  exact found read

theorem mapM_value? (symbols : Bytes) (values : List Nat) :
    symbols.mapM value? = some values ↔
      (∀ value ∈ values, value < 64) ∧ symbols = values.map symbol := by
  induction symbols generalizing values with
  | nil => cases values <;> simp
  | cons byte rest ih =>
    rw [List.mapM_cons]
    constructor
    · intro read
      obtain ⟨value, first, read⟩ := Option.bind_eq_some_iff.mp read
      obtain ⟨others, later, returned⟩ := Option.bind_eq_some_iff.mp read
      cases returned
      obtain ⟨small, written⟩ := value?_success byte value first
      obtain ⟨bound, spelled⟩ := (ih others).mp later
      rw [List.map_cons, written, ← spelled]
      exact ⟨List.forall_mem_cons.mpr ⟨small, bound⟩, rfl⟩
    · rintro ⟨bound, spelled⟩
      cases values with
      | nil => cases spelled
      | cons value others =>
        obtain ⟨rfl, rfl⟩ := List.cons.inj spelled
        obtain ⟨small, bound⟩ := List.forall_mem_cons.mp bound
        rw [value?_symbol value small, (ih others).mpr ⟨bound, rfl⟩]
        rfl

theorem sextets_bound (bytes : Bytes) : ∀ value ∈ sextets bytes, value < 64 := by
  fun_induction sextets bytes with
  | case1 a b c rest ih =>
    have narrow := And.intro a.toNat_lt (And.intro b.toNat_lt c.toNat_lt)
    simp only [List.forall_mem_cons]
    exact ⟨by omega, by omega, by omega, by omega, ih⟩
  | case2 a b =>
    have narrow := And.intro a.toNat_lt b.toNat_lt
    simp only [List.forall_mem_cons]
    exact ⟨by omega, by omega, by omega, nofun⟩
  | case3 a =>
    have narrow := a.toNat_lt
    simp only [List.forall_mem_cons]
    exact ⟨by omega, by omega, nofun⟩
  | case4 => exact nofun

theorem sextets_length (bytes : Bytes) : (sextets bytes).length % 4 ≠ 1 := by
  fun_induction sextets bytes with
  | case1 a b c rest ih =>
    simp only [List.length_cons]
    omega
  | case2 a b => simp
  | case3 a => simp
  | case4 => simp

theorem assemble_sextets (bytes : Bytes) : assemble (sextets bytes) = some bytes := by
  have whole (byte : UInt8) (value : Nat) (same : value = byte.toNat) :
      UInt8.ofNat value = byte := by
    rw [same, UInt8.ofNat_toNat]
  fun_induction sextets bytes with
  | case1 a b c rest ih =>
    have narrow := And.intro b.toNat_lt c.toNat_lt
    rw [assemble, ih, whole a _ (by omega), whole b _ (by omega), whole c _ (by omega)]
    rfl
  | case2 a b =>
    have narrow := b.toNat_lt
    rw [assemble, if_pos (by omega), whole a _ (by omega), whole b _ (by omega)]
  | case3 a => rw [assemble, if_pos (by omega), whole a _ (by omega)]
  | case4 => rfl

theorem sextets_assemble (values : List Nat) (bound : ∀ value ∈ values, value < 64) (bytes : Bytes)
    (assembled : assemble values = some bytes) : sextets bytes = values := by
  -- Each case is arithmetic on digits below 64; a text that ends early must have no bits left over.
  fun_induction assemble values generalizing bytes with
  | case1 a b c d rest ih =>
    simp only [List.forall_mem_cons] at bound
    obtain ⟨first, second, third, fourth, bound⟩ := bound
    obtain ⟨others, later, rfl⟩ := Option.map_eq_some_iff.mp assembled
    simp only [sextets, UInt8.toNat_ofNat', ih bound others later, List.cons.injEq, and_true]
    exact ⟨by omega, by omega, by omega, by omega⟩
  | case2 a b c clear =>
    simp only [List.forall_mem_cons] at bound
    obtain ⟨first, second, third, _⟩ := bound
    cases assembled
    simp only [sextets, UInt8.toNat_ofNat', List.cons.injEq, and_true]
    exact ⟨by omega, by omega, by omega⟩
  | case3 a b c => cases assembled
  | case4 a b clear =>
    simp only [List.forall_mem_cons] at bound
    obtain ⟨first, second, _⟩ := bound
    cases assembled
    simp only [sextets, UInt8.toNat_ofNat', List.cons.injEq, and_true]
    exact ⟨by omega, by omega⟩
  | case5 a b => cases assembled
  | case6 a => cases assembled
  | case7 =>
    cases assembled
    rfl

theorem decodeBytes_exact (symbols bytes : Bytes) :
    decodeBytes symbols = .ok bytes ↔ symbols = encodeBytes bytes := by
  constructor
  · intro read
    unfold decodeBytes at read
    split at read
    next => cases read
    next =>
      split at read
      next => cases read
      next values spelled =>
        split at read
        next assembled =>
          cases read
          obtain ⟨bound, rfl⟩ := (mapM_value? symbols values).mp spelled
          rw [encodeBytes, sextets_assemble values bound bytes assembled]
        next => cases read
  · rintro rfl
    -- Three bytes are four symbols, and one or two bytes more are two or three symbols more.
    have length : (encodeBytes bytes).length % 4 ≠ 1 := by
      simpa [encodeBytes] using sextets_length bytes
    have spelled : (encodeBytes bytes).mapM value? = some (sextets bytes) :=
      (mapM_value? _ _).mpr ⟨sextets_bound bytes, rfl⟩
    rw [decodeBytes, if_neg length, spelled]
    simp only [assemble_sextets]

theorem encodeBytes_ascii (bytes : Bytes) :
    ∀ byte ∈ encodeBytes bytes, byte.toNat < 128 ∧ byte.toNat ≠ '.'.toNat := by
  have alphabet : ∀ value < 64, (symbol value).toNat < 128 ∧ (symbol value).toNat ≠ '.'.toNat := by
    decide
  intro byte member
  obtain ⟨value, listed, rfl⟩ := List.mem_map.mp member
  exact alphabet value (sextets_bound bytes value listed)

theorem encode_ascii (bytes : Bytes) : ∀ c ∈ (encode bytes).toList, c.toNat < 128 ∧ c ≠ '.' := by
  intro c member
  rw [encode, String.toList_ofList] at member
  obtain ⟨byte, listed, rfl⟩ := List.mem_map.mp member
  obtain ⟨narrow, other⟩ := encodeBytes_ascii bytes byte listed
  rw [← Bytes.toNat_ofNat_byte] at narrow other
  refine ⟨narrow, fun dot => other ?_⟩
  rw [dot]

theorem decode_exact (text : String) (bytes : Bytes) :
    decode text = .ok bytes ↔ text = encode bytes := by
  have written : Bytes.ofText (encode bytes) = encodeBytes bytes :=
    Bytes.ofText_ofBytes _ fun byte member => (encodeBytes_ascii bytes byte member).1
  rw [decode, decodeBytes_exact, ← written, Bytes.ofText_inj]

end RelyingParty.Base64Url
