import RelyingParty.Basic

set_option autoImplicit false

namespace RelyingParty.Bytes

theorem toList_loop (bytes : ByteArray) (index : Nat) (seen : List UInt8) :
    ByteArray.toList.loop bytes index seen = seen.reverse ++ bytes.data.toList.drop index := by
  -- The loop collects the bytes from the index on, the last one first.
  fun_induction ByteArray.toList.loop bytes index seen with
  | case1 index seen inside ih =>
    have within : index < bytes.data.toList.length := by simpa using inside
    have byte : bytes.get! index = bytes.data.toList[index] := by
      cases bytes
      simpa [ByteArray.get!] using getElem!_pos _ index inside
    rw [ih, List.drop_eq_getElem_cons within, byte]
    simp
  | case2 index seen outside =>
    have beyond : bytes.data.toList.length ≤ index := by simpa using outside
    simp [List.drop_eq_nil_of_le beyond]

theorem toList_data (bytes : ByteArray) : bytes.toList = bytes.data.toList := by
  rw [ByteArray.toList, toList_loop]
  rfl

theorem toList_toByteArray (bytes : Bytes) : bytes.toByteArray.toList = bytes := by
  rw [toList_data, List.toList_data_toByteArray]

theorem toByteArray_toList (bytes : ByteArray) : bytes.toList.toByteArray = bytes := by
  apply ByteArray.ext
  apply Array.toList_inj.mp
  rw [List.toList_data_toByteArray, toList_data]

theorem ofText_inj (text other : String) : ofText text = ofText other ↔ text = other := by
  constructor
  · intro same
    have restored := congrArg List.toByteArray same
    simp only [ofText, toByteArray_toList] at restored
    exact String.toByteArray_inj.mp restored
  · rintro rfl
    rfl

theorem text?_ofText (bytes : Bytes) (text : String) :
    text? bytes = some text ↔ bytes = ofText text := by
  unfold text? String.fromUTF8?
  constructor
  · intro read
    split at read
    next valid =>
      cases read
      exact (toList_toByteArray bytes).symm
    next => cases read
  · rintro rfl
    have restored : (ofText text).toByteArray = text.toByteArray := toByteArray_toList _
    have valid : (ofText text).toByteArray.IsValidUTF8 := restored ▸ text.isValidUTF8
    rw [dif_pos valid, Option.some_inj]
    exact String.toByteArray_inj.mp restored

theorem utf8Encode_ascii (chars : List Char) (ascii : ∀ c ∈ chars, c.toNat < 128) :
    chars.utf8Encode.data.toList = chars.map fun c => UInt8.ofNat c.toNat := by
  induction chars with
  | nil => rfl
  | cons c rest ih =>
    obtain ⟨narrow, others⟩ := List.forall_mem_cons.mp ascii
    -- A character up to 127 is encoded in one byte, which is its code.
    have small : c.val ≤ 127 := UInt32.le_iff_toNat_le.mpr (Nat.le_of_lt_succ narrow)
    have single := String.utf8EncodeChar_eq_singleton (Char.utf8Size_eq_one_iff.mpr small)
    have code : c.val.toUInt8 = UInt8.ofNat c.toNat := rfl
    rw [List.utf8Encode_cons, List.utf8Encode_singleton, single, ByteArray.toList_data_append,
      ih others, List.toList_data_toByteArray, code]
    rfl

theorem ofText_ascii (text : String) (ascii : ∀ c ∈ text.toList, c.toNat < 128) :
    ofText text = text.toList.map fun c => UInt8.ofNat c.toNat := by
  rw [← utf8Encode_ascii text.toList ascii, ofText, toList_data, ← String.toByteArray_ofList,
    String.ofList_toList]

theorem toNat_ofNat_byte (byte : UInt8) : (Char.ofNat byte.toNat).toNat = byte.toNat := by
  have valid : byte.toNat.isValidChar := .inl (Nat.lt_trans byte.toNat_lt (by decide))
  rw [Char.ofNat, dif_pos valid]
  rfl

theorem ofText_ofBytes (bytes : Bytes) (narrow : ∀ byte ∈ bytes, byte.toNat < 128) :
    ofText (String.ofList (bytes.map fun byte => Char.ofNat byte.toNat)) = bytes := by
  rw [ofText_ascii, String.toList_ofList]
  · simp [Function.comp_def, toNat_ofNat_byte]
  · simpa [toNat_ofNat_byte] using narrow

@[simp] theorem length_xor (left right : Bytes) :
    (xor left right).length = min left.length right.length := by
  simp [xor]

theorem xor_cancel (bytes mask : Bytes) (covered : bytes.length ≤ mask.length) :
    xor (xor bytes mask) mask = bytes := by
  induction bytes generalizing mask with
  | nil => simp [xor]
  | cons byte rest ih =>
    cases mask with
    | nil => simp at covered
    | cons head others =>
      have same := ih others (by simpa using covered)
      simp only [xor, List.zipWith_cons_cons] at same ⊢
      rw [same, UInt8.xor_assoc, UInt8.xor_self, UInt8.xor_zero]

theorem chunks_append {width : Nat} (block rest : Bytes) (nonempty : block ≠ [])
    (fits : block.length ≤ width) (full : rest ≠ [] -> block.length = width) :
    chunks width (block ++ rest) = block :: chunks width rest := by
  obtain ⟨byte, others, rfl⟩ := List.exists_cons_of_ne_nil nonempty
  rw [List.cons_append, chunks]
  by_cases last : rest = []
  next =>
    subst last
    simp only [List.length_cons] at fits
    rw [List.append_nil, List.take_of_length_le (by omega), List.drop_of_length_le (by omega)]
  next =>
    have exact : others.length = width - 1 := by
      have := full last
      simp only [List.length_cons] at this
      omega
    rw [← exact, List.take_left, List.drop_left]

/-- Byte strings are made of blocks, all of them full but the last. -/
theorem blocks_induction (width : Nat) (positive : 0 < width) {motive : Bytes -> Prop}
    (nil : motive [])
    (append : ∀ block rest, block ≠ [] -> block.length ≤ width ->
      (rest ≠ [] -> block.length = width) -> motive rest -> motive (block ++ rest))
    (bytes : Bytes) : motive bytes := by
  induction bytes using chunks.induct width with
  | case1 => exact nil
  | case2 byte rest ih =>
    have made := append (byte :: rest.take (width - 1)) (rest.drop (width - 1))
      (List.cons_ne_nil _ _) (by simp; omega) ?_ ih
    · simpa using made
    · intro more
      have longer : width - 1 < rest.length := by
        simpa [List.drop_eq_nil_iff] using more
      simp
      omega

theorem chunks_full {width count : Nat} (positive : 0 < width) (bytes : Bytes)
    (length : bytes.length = width * count) :
    (chunks width bytes).length = count ∧ ∀ block ∈ chunks width bytes, block.length = width := by
  induction count generalizing bytes with
  | zero =>
    obtain rfl := List.length_eq_zero_iff.mp length
    simp [chunks]
  | succ count ih =>
    rw [Nat.mul_succ] at length
    have block : (bytes.take width).length = width := by
      rw [List.length_take]
      omega
    obtain ⟨blocks, sizes⟩ := ih (bytes.drop width) (by simp; omega)
    have nonempty : bytes.take width ≠ [] := List.ne_nil_of_length_pos (by omega)
    have cut := chunks_append (bytes.take width) (bytes.drop width) nonempty (by omega)
      (fun _ => block)
    rw [List.take_append_drop] at cut
    rw [cut]
    exact ⟨by simp [blocks], by simpa [block] using sizes⟩

end RelyingParty.Bytes
