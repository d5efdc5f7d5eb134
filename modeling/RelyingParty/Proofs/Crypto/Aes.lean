import RelyingParty.Crypto.Aes
import RelyingParty.Proofs.Bytes

set_option autoImplicit false

namespace RelyingParty.Aes

theorem nextWord_length (words index : Nat) (constant : UInt8) (previous earlier : Bytes)
    (before : previous.length = 4) (first : earlier.length = 4) :
    (nextWord words index constant previous earlier).length = 4 := by
  unfold nextWord
  dsimp only
  split
  next => simp [before, first]
  next => split <;> simp [before, first]

theorem expand_words (words count index : Nat) (constant : UInt8) (recent : List Bytes)
    (positive : 0 < words) (begun : words ≤ recent.length)
    (sizes : ∀ word ∈ recent, word.length = 4) :
    (expand words count index constant recent).length = recent.length + count ∧
      ∀ word ∈ expand words count index constant recent, word.length = 4 := by
  induction count generalizing index constant recent with
  | zero => simpa [expand] using sizes
  | succ count ih =>
    -- The next word is made of two recent ones, which are there and have their full size.
    have size (place : Nat) (within : place < recent.length) :
        (recent.getD place []).length = 4 := by
      rw [List.getD_eq_getElem?_getD, List.getElem?_eq_getElem within]
      exact sizes _ (List.getElem_mem within)
    have word := nextWord_length words index constant (recent.getD 0 [])
      (recent.getD (words - 1) []) (size 0 (by omega)) (size (words - 1) (by omega))
    obtain ⟨length, all⟩ := ih (index + 1) (if index % words = 0 then twice constant else constant)
      (nextWord words index constant (recent.getD 0 []) (recent.getD (words - 1) []) :: recent)
      (by simp; omega) (List.forall_mem_cons.mpr ⟨word, sizes⟩)
    refine ⟨?_, all⟩
    change (expand words count (index + 1) _ _).length = _
    rw [length, List.length_cons]
    omega

theorem roundKeys_sizes (key : Bytes) (words : Nat) (positive : 0 < words)
    (length : key.length = 4 * words) :
    (roundKeys key).length = words + 7 ∧ ∀ round ∈ roundKeys key, round.length = 16 := by
  obtain ⟨count, sizes⟩ := Bytes.chunks_full (by decide) key length
  have whole : key.length / 4 = words := by omega
  unfold roundKeys
  dsimp only
  rw [whole]
  obtain ⟨total, all⟩ := expand_words words (4 * (words + 7) - words) words 1
    (Bytes.chunks 4 key).reverse positive (by simp [count]) (by simpa using sizes)
  -- Four words of four bytes make a round key.
  apply Bytes.chunks_full (by decide)
  rw [List.length_flatten, List.map_congr_left all, List.map_const', List.sum_replicate_nat, total,
    List.length_reverse, count]
  omega

@[simp] theorem shiftRows_length (state : Bytes) : (shiftRows state).length = 16 := by
  simp [shiftRows]

theorem rounds_length (keys : List Bytes) (state : Bytes) (nonempty : keys ≠ [])
    (sizes : ∀ key ∈ keys, key.length = 16) : (rounds keys state).length = 16 := by
  induction keys generalizing state with
  | nil => exact absurd rfl nonempty
  | cons key rest ih =>
    obtain ⟨size, sizes⟩ := List.forall_mem_cons.mp sizes
    cases rest with
    | nil => simp [rounds, size]
    | cons next others => exact ih _ (List.cons_ne_nil _ _) sizes

theorem encipher_length (key block : Bytes) (words : Nat) (positive : 0 < words)
    (length : key.length = 4 * words) : (encipher (roundKeys key) block).length = 16 := by
  obtain ⟨count, sizes⟩ := roundKeys_sizes key words positive length
  cases keys : roundKeys key with
  | nil => simp [keys] at count
  | cons first rest =>
    rw [keys] at count sizes
    have more : rest ≠ [] := List.ne_nil_of_length_pos (by simp at count; omega)
    exact rounds_length rest _ more (List.forall_mem_cons.mp sizes).2

end RelyingParty.Aes
