import RelyingParty.Proofs.Checked
import RelyingParty.Token

set_option autoImplicit false

namespace RelyingParty.Token

theorem not_mem_splitOn {A : Type} [BEq A] [LawfulBEq A] (separator : A) (items : List A) :
    ∀ part ∈ items.splitOn separator, separator ∉ part := by
  induction items with
  | nil => simp
  | cons item rest ih =>
    rw [List.splitOn_cons_eq_if_modifyHead]
    by_cases same : item = separator
    · simpa [same] using ih
    · obtain ⟨first, others, split⟩ :=
        List.exists_cons_of_ne_nil (List.splitOn_ne_nil separator rest)
      simp only [split, List.forall_mem_cons] at ih
      simpa [same, split, Ne.symm same] using ih

theorem segments_dotless (text : String) : ∀ segment ∈ segments text, '.' ∉ segment.toList := by
  intro segment member
  obtain ⟨part, split, rfl⟩ := List.mem_map.mp member
  rw [String.toList_ofList]
  exact not_mem_splitOn '.' text.toList part split

theorem intercalate_segments (text : String) : ".".intercalate (segments text) = text := by
  apply String.toList_inj.mp
  have parts : (segments text).map String.toList = text.toList.splitOn '.' := by
    simp [segments, Function.comp_def]
  rw [String.toList_intercalate, parts]
  exact List.intercalate_splitOn '.'

def covered (text : String) : String :=
  String.ofList ((text.toList.reverse.dropWhile (· != '.')).drop 1).reverse

theorem covered_append (front last : String) (dotless : '.' ∉ last.toList) :
    covered (front ++ "." ++ last) = front := by
  -- From the end, the first dot is the one before the last segment.
  have clear : ∀ c ∈ last.toList.reverse, (c != '.') = true := by
    intro c member
    have other : c ≠ '.' := by
      rintro rfl
      exact dotless (List.mem_reverse.mp member)
    simpa using other
  simp [covered, List.dropWhile_append_of_pos clear]

structure ReadsSigned (text headerText payloadText signatureText : String) (token : SignedToken) :
    Prop where
  cut : segments text = [headerText, payloadText, signatureText]
  header : readHeader headerText = .ok token.header
  algorithm : token.header.algorithm = .signing token.algorithm
  payload : Base64Url.decode payloadText = .ok token.payload
  signature : Base64Url.decode signatureText = .ok token.signature
  signingInput : token.signingInput = headerText ++ "." ++ payloadText

structure ReadsUnsecured (text headerText payloadText : String) (content : Bytes) : Prop where
  cut : segments text = [headerText, payloadText, ""]
  header : ∃ header, readHeader headerText = .ok header ∧ header.algorithm = .unsecured
  payload : Base64Url.decode payloadText = .ok content

structure ReadsEncrypted (text headerText keyText ivText ciphertextText tagText : String)
    (token : EncryptedToken) : Prop where
  cut : segments text = [headerText, keyText, ivText, ciphertextText, tagText]
  header : readHeader headerText = .ok token.header
  uncompressed : token.header.compression = none
  algorithm : token.header.algorithm = .keyManagement token.algorithm
  method : token.header.method = some token.method
  protectedHeader : token.protectedHeader = headerText
  encryptedKey : Base64Url.decode keyText = .ok token.encryptedKey
  iv : Base64Url.decode ivText = .ok token.iv
  ciphertext : Base64Url.decode ciphertextText = .ok token.ciphertext
  tag : Base64Url.decode tagText = .ok token.tag

inductive Reads (text : String) : Token -> Prop
  | unsecured {headerText payloadText : String} {content : Bytes}
      (reads : ReadsUnsecured text headerText payloadText content) : Reads text (.unsecured content)
  | signed {headerText payloadText signatureText : String} {token : SignedToken}
      (reads : ReadsSigned text headerText payloadText signatureText token) :
      Reads text (.signed token)
  | encrypted {headerText keyText ivText ciphertextText tagText : String} {token : EncryptedToken}
      (reads : ReadsEncrypted text headerText keyText ivText ciphertextText tagText token) :
      Reads text (.encrypted token)

theorem ReadsSigned.covered {text headerText payloadText signatureText : String}
    {token : SignedToken} (reads : ReadsSigned text headerText payloadText signatureText token) :
    covered text = token.signingInput := by
  have dotless := segments_dotless text signatureText (by simp [reads.cut])
  have joined := intercalate_segments text
  rw [reads.cut] at joined
  have whole : text = headerText ++ "." ++ payloadText ++ "." ++ signatureText := joined.symm
  rw [whole, covered_append _ _ dotless, reads.signingInput]

@[simp] theorem decode_success (segment : Segment) (text : String) (bytes : Bytes) :
    decode segment text = .ok bytes ↔ Base64Url.decode text = .ok bytes := by
  simp [decode]

theorem readSigned_reads (text headerText payloadText signatureText : String) (token : Token)
    (cut : segments text = [headerText, payloadText, signatureText])
    (read : readSigned headerText payloadText signatureText = .ok token) : Reads text token := by
  obtain ⟨header, headerRead, read⟩ := (bind_success _ _ _).mp read
  obtain ⟨payload, payloadRead, read⟩ := (bind_success _ _ _).mp read
  rw [decode_success] at payloadRead
  cases declared : header.algorithm with
  | unsecured =>
    simp only [declared] at read
    split at read
    next empty =>
      cases read
      exact .unsecured ⟨empty ▸ cut, ⟨header, headerRead, declared⟩, payloadRead⟩
    next => cases read
  | signing algorithm =>
    simp only [declared] at read
    obtain ⟨signature, signatureRead, returned⟩ := (bind_success _ _ _).mp read
    rw [decode_success] at signatureRead
    cases returned
    exact .signed ⟨cut, headerRead, declared, payloadRead, signatureRead, rfl⟩
  | keyManagement algorithm =>
    simp only [declared] at read
    cases read

theorem readEncrypted_reads (text headerText keyText ivText ciphertextText tagText : String)
    (token : Token) (cut : segments text = [headerText, keyText, ivText, ciphertextText, tagText])
    (read : readEncrypted headerText keyText ivText ciphertextText tagText = .ok token) :
    Reads text token := by
  obtain ⟨header, headerRead, read⟩ := (bind_success _ _ _).mp read
  split at read
  next => cases read
  next compression =>
    split at read
    next algorithm method declared chosen =>
      obtain ⟨key, keyRead, read⟩ := (bind_success _ _ _).mp read
      obtain ⟨iv, ivRead, read⟩ := (bind_success _ _ _).mp read
      obtain ⟨ciphertext, ciphertextRead, read⟩ := (bind_success _ _ _).mp read
      obtain ⟨tag, tagRead, returned⟩ := (bind_success _ _ _).mp read
      rw [decode_success] at keyRead ivRead ciphertextRead tagRead
      cases returned
      exact .encrypted ⟨cut, headerRead, by simpa using compression, declared, chosen, rfl, keyRead,
        ivRead, ciphertextRead, tagRead⟩
    next => cases read
    next => cases read

theorem ofText_reads (text : String) (token : Token) (read : ofText text = .ok token) :
    Reads text token := by
  unfold ofText at read
  split at read
  next headerText payloadText signatureText cut => exact readSigned_reads _ _ _ _ _ cut read
  next headerText keyText ivText ciphertextText tagText cut =>
    exact readEncrypted_reads _ _ _ _ _ _ _ cut read
  next => cases read

end RelyingParty.Token
