import RelyingParty.Crypto.Gcm
import RelyingParty.Proofs.Crypto.Aes

set_option autoImplicit false

namespace RelyingParty.Gcm

def sealing (key iv aad plaintext : Bytes) : Bytes :=
  let keys := Aes.roundKeys key
  let ciphertext := stream keys iv 2 (Bytes.chunks 16 plaintext)
  ciphertext ++ tag keys iv aad ciphertext

theorem ofNat_length (width value : Nat) : (Bytes.ofNat width value).length = width := by
  have little (width value : Nat) : (Bytes.ofNatLittle width value).length = width := by
    induction width generalizing value with
    | zero => rfl
    | succ width ih => simp [Bytes.ofNatLittle, ih]
  rw [Bytes.ofNat, List.length_reverse, little]

section

variable (keys : List Bytes) (iv : Bytes)
  (full : ∀ block, (Aes.encipher keys block).length = 16)

include full

theorem tag_length (aad ciphertext : Bytes) : (tag keys iv aad ciphertext).length = tagSize := by
  simp [tag, ofNat_length, full, tagSize]

theorem stream_stream (counter : Nat) (text : Bytes) :
    stream keys iv counter (Bytes.chunks 16 (stream keys iv counter (Bytes.chunks 16 text))) =
      text := by
  induction text using Bytes.blocks_induction 16 (by decide) generalizing counter with
  | nil => simp [Bytes.chunks, stream]
  | append block rest nonempty fits whole ih =>
    have covered : block.length ≤ (Aes.encipher keys (iv ++ Bytes.ofNat 4 counter)).length := by
      rw [full]
      exact fits
    have length : (Bytes.xor block (Aes.encipher keys (iv ++ Bytes.ofNat 4 counter))).length =
        block.length := by
      rw [Bytes.length_xor, Nat.min_eq_left covered]
    have masked : Bytes.xor block (Aes.encipher keys (iv ++ Bytes.ofNat 4 counter)) ≠ [] :=
      List.ne_nil_of_length_pos (by rw [length]; exact List.length_pos_iff.mpr nonempty)
    have later : stream keys iv (counter + 1) (Bytes.chunks 16 rest) ≠ [] -> block.length = 16 := by
      intro more
      refine whole ?_
      rintro rfl
      simp [Bytes.chunks, stream] at more
    rw [Bytes.chunks_append block rest nonempty fits whole, stream,
      Bytes.chunks_append _ _ masked (length ▸ fits) (length ▸ later), stream,
      Bytes.xor_cancel _ _ covered, ih]

end

theorem open?_success (key iv aad ciphertext given plaintext : Bytes) :
    open? key iv aad ciphertext given = some plaintext ↔
      tag (Aes.roundKeys key) iv aad ciphertext = given ∧
        stream (Aes.roundKeys key) iv 2 (Bytes.chunks 16 ciphertext) = plaintext := by
  unfold open?
  dsimp only
  split <;> simp_all

theorem openSealed?_success (key iv aad text plaintext : Bytes) :
    openSealed? key iv aad text = some plaintext ↔
      ∃ ciphertext given, text = ciphertext ++ given ∧ given.length = tagSize ∧
        open? key iv aad ciphertext given = some plaintext := by
  unfold openSealed?
  dsimp only
  constructor
  · intro opened
    split at opened
    next enough =>
      have size : (text.drop (text.length - tagSize)).length = tagSize := by
        rw [List.length_drop]
        omega
      exact ⟨_, _, (List.take_append_drop _ text).symm, size, opened⟩
    next => cases opened
  · rintro ⟨ciphertext, given, rfl, size, opened⟩
    have front : (ciphertext ++ given).length - tagSize = ciphertext.length := by
      rw [List.length_append, size, Nat.add_sub_cancel]
    rw [front, List.take_left, List.drop_left, if_pos (by simp [size])]
    exact opened

theorem openSealed?_exact (key iv aad text plaintext : Bytes) (words : Nat) (positive : 0 < words)
    (size : key.length = 4 * words) :
    openSealed? key iv aad text = some plaintext ↔ text = sealing key iv aad plaintext := by
  have full (block : Bytes) : (Aes.encipher (Aes.roundKeys key) block).length = 16 :=
    Aes.encipher_length key block words positive size
  have involution := stream_stream (Aes.roundKeys key) iv full 2
  simp only [openSealed?_success, open?_success]
  constructor
  · rintro ⟨ciphertext, _, rfl, _, rfl, rfl⟩
    unfold sealing
    dsimp only
    rw [involution]
  · rintro rfl
    exact ⟨_, _, rfl, tag_length _ iv full aad _, rfl, involution plaintext⟩

end RelyingParty.Gcm
