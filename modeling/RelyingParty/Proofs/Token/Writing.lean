import RelyingParty.Proofs.Base64Url
import RelyingParty.Proofs.Token.Declared

set_option autoImplicit false

namespace RelyingParty.Token

open Base64Url (encode)

/-- A first segment that announces a token, and stands in those of its parts that repeat it. -/
def Heads (headerText : String) : Token -> Prop
  | .unsecured _ => ∃ header, readHeader headerText = .ok header ∧ header.algorithm = .unsecured
  | .signed token =>
    readHeader headerText = .ok token.header ∧
      token.header.algorithm = .signing token.algorithm ∧
      token.signingInput = headerText ++ "." ++ encode token.payload
  | .encrypted token =>
    readHeader headerText = .ok token.header ∧ token.header.compression = none ∧
      token.header.algorithm = .keyManagement token.algorithm ∧
      token.header.method = some token.method ∧ token.protectedHeader = headerText

def compact (headerText : String) : Token -> String
  | .unsecured content => headerText ++ "." ++ encode content ++ "."
  | .signed token => token.signingInput ++ "." ++ encode token.signature
  | .encrypted token =>
    token.protectedHeader ++ "." ++ encode token.encryptedKey ++ "." ++ encode token.iv ++ "." ++
      encode token.ciphertext ++ "." ++ encode token.tag

def parts (headerText : String) : Token -> List String
  | .unsecured content => [headerText, encode content, ""]
  | .signed token => [headerText, encode token.payload, encode token.signature]
  | .encrypted token =>
    [headerText, encode token.encryptedKey, encode token.iv, encode token.ciphertext,
      encode token.tag]

theorem segments_intercalate (texts : List String) (nonempty : texts ≠ [])
    (dotless : ∀ text ∈ texts, '.' ∉ text.toList) : segments (".".intercalate texts) = texts := by
  have dots : ∀ letters ∈ texts.map String.toList, '.' ∉ letters := by simpa using dotless
  have cut := List.splitOn_intercalate '.' dots (by simpa using nonempty)
  rw [segments, String.toList_intercalate]
  exact (congrArg (List.map String.ofList) cut).trans (by simp [Function.comp_def])

theorem encode_dotless (bytes : Bytes) : '.' ∉ (encode bytes).toList :=
  fun member => (Base64Url.encode_ascii bytes '.' member).2 rfl

theorem readHeader_encoded (headerText : String) (header : Header)
    (read : readHeader headerText = .ok header) : ∃ bytes, headerText = encode bytes := by
  obtain ⟨bytes, _, decoded, _⟩ := (readHeader_success headerText header).mp read
  exact ⟨bytes, (Base64Url.decode_exact headerText bytes).mp decoded⟩

theorem Heads.encoded {headerText : String} {token : Token} (heads : Heads headerText token) :
    ∃ bytes, headerText = encode bytes := by
  cases token with
  | unsecured content =>
    obtain ⟨header, read, _⟩ := heads
    exact readHeader_encoded headerText header read
  | signed token => exact readHeader_encoded headerText _ heads.1
  | encrypted token => exact readHeader_encoded headerText _ heads.1

theorem Heads.compact_parts {headerText : String} {token : Token} (heads : Heads headerText token) :
    compact headerText token = ".".intercalate (parts headerText token) := by
  cases token with
  | unsecured content =>
    change _ = headerText ++ "." ++ encode content ++ "." ++ ""
    rw [String.append_empty]
    rfl
  | signed token =>
    obtain ⟨_, _, covered⟩ := heads
    rw [compact, covered]
    rfl
  | encrypted token =>
    obtain ⟨_, _, _, _, rfl⟩ := heads
    rfl

theorem Heads.segments_compact {headerText : String} {token : Token}
    (heads : Heads headerText token) :
    segments (compact headerText token) = parts headerText token := by
  -- No segment has a dot of its own, so the text is cut where it was joined.
  obtain ⟨bytes, same⟩ := heads.encoded
  have first : '.' ∉ headerText.toList := same ▸ encode_dotless bytes
  have dotless : ∀ part ∈ parts headerText token, '.' ∉ part.toList := by
    cases token <;> simp [parts, first, encode_dotless]
  rw [heads.compact_parts]
  refine segments_intercalate _ ?_ dotless
  cases token <;> exact List.cons_ne_nil _ _

theorem decode_encode (segment : Segment) (bytes : Bytes) :
    decode segment (encode bytes) = .ok bytes := by
  rw [decode_success, Base64Url.decode_exact]

theorem Heads.ofText_compact {headerText : String} {token : Token}
    (heads : Heads headerText token) : ofText (compact headerText token) = .ok token := by
  unfold ofText
  rw [heads.segments_compact]
  cases token with
  | unsecured content =>
    obtain ⟨header, read, declared⟩ := heads
    change readSigned headerText (encode content) "" = _
    simp only [readSigned, read, decode_encode, bind, Except.bind, declared, if_true]
  | signed token =>
    obtain ⟨read, declared, covered⟩ := heads
    change readSigned headerText (encode token.payload) (encode token.signature) = _
    simp only [readSigned, read, decode_encode, bind, Except.bind, declared, ← covered]
    rfl
  | encrypted token =>
    obtain ⟨read, uncompressed, declared, method, rfl⟩ := heads
    change readEncrypted token.protectedHeader (encode token.encryptedKey) (encode token.iv)
      (encode token.ciphertext) (encode token.tag) = _
    simp only [readEncrypted, read, decode_encode, bind, Except.bind, uncompressed, declared,
      method]
    rfl

theorem Reads.parts {text : String} {token : Token} (reads : Reads text token) :
    ∃ headerText, Heads headerText token ∧ segments text = parts headerText token := by
  cases reads with
  | @unsecured headerText _ _ reads =>
    have payload := (Base64Url.decode_exact _ _).mp reads.payload
    refine ⟨headerText, reads.header, ?_⟩
    rw [reads.cut, payload]
    rfl
  | @signed headerText _ _ _ reads =>
    have payload := (Base64Url.decode_exact _ _).mp reads.payload
    have signature := (Base64Url.decode_exact _ _).mp reads.signature
    refine ⟨headerText, ⟨reads.header, reads.algorithm, payload ▸ reads.signingInput⟩, ?_⟩
    rw [reads.cut, payload, signature]
    rfl
  | @encrypted headerText _ _ _ _ _ reads =>
    have key := (Base64Url.decode_exact _ _).mp reads.encryptedKey
    have iv := (Base64Url.decode_exact _ _).mp reads.iv
    have ciphertext := (Base64Url.decode_exact _ _).mp reads.ciphertext
    have tag := (Base64Url.decode_exact _ _).mp reads.tag
    refine ⟨headerText, ⟨reads.header, reads.uncompressed, reads.algorithm, reads.method,
      reads.protectedHeader⟩, ?_⟩
    rw [reads.cut, key, iv, ciphertext, tag]
    rfl

theorem ofText_parts (text : String) (token : Token) (read : ofText text = .ok token) :
    ∃ headerText, Heads headerText token ∧ segments text = parts headerText token ∧
      text = compact headerText token := by
  obtain ⟨headerText, heads, cut⟩ := (ofText_reads text token read).parts
  refine ⟨headerText, heads, cut, ?_⟩
  rw [heads.compact_parts, ← cut, intercalate_segments]

/-- What is authenticated: all before the last dot of a text, or the codes of its first segment. -/
def Authenticates (text headerText : String) : Token -> Prop
  | .unsecured _ => True
  | .signed token => token.signingInput = covered text
  | .encrypted token =>
    (∀ c ∈ headerText.toList, c.toNat < 128) ∧
      token.content.aad = headerText.toList.map fun c => UInt8.ofNat c.toNat

theorem Heads.authenticates {headerText : String} {token : Token} (heads : Heads headerText token) :
    Authenticates (compact headerText token) headerText token := by
  cases token with
  | unsecured content => trivial
  | signed token => exact (covered_append _ _ (encode_dotless _)).symm
  | encrypted token =>
    obtain ⟨bytes, same⟩ := heads.encoded
    obtain ⟨_, _, _, _, rfl⟩ := heads
    have ascii : ∀ c ∈ token.protectedHeader.toList, c.toNat < 128 := by
      rw [same]
      exact fun c member => (Base64Url.encode_ascii bytes c member).1
    exact ⟨ascii, Bytes.ofText_ascii _ ascii⟩

theorem ofText_exact (text : String) (token : Token) :
    (ofText text = .ok token ↔
        ∃ headerText, Heads headerText token ∧ text = compact headerText token) ∧
      (ofText text = .ok token ->
        (∃ headerText, segments text = parts headerText token ∧
          Authenticates text headerText token) ∧
        ∀ other, ofText other = .ok token -> (segments other).head? = (segments text).head? ->
          other = text) := by
  refine ⟨⟨fun read => ?_, ?_⟩, fun read => ?_⟩
  · obtain ⟨headerText, heads, _, written⟩ := ofText_parts text token read
    exact ⟨headerText, heads, written⟩
  · rintro ⟨headerText, heads, rfl⟩
    exact heads.ofText_compact
  · obtain ⟨headerText, heads, cut, written⟩ := ofText_parts text token read
    refine ⟨⟨headerText, cut, written ▸ heads.authenticates⟩, fun other readOther first => ?_⟩
    obtain ⟨otherHeader, _, otherCut, otherWritten⟩ := ofText_parts other token readOther
    -- Both texts are the compact form of the token, under what is now seen to be one segment.
    have same : otherHeader = headerText := by
      rw [cut, otherCut] at first
      cases token <;> exact Option.some.inj first
    rw [otherWritten, written, same]

namespace Sample

def sealedToken : EncryptedToken where
  header := ⟨.keyManagement .direct, some (.gcm .bits128), none, none, none, none, none⟩
  algorithm := .direct
  method := .gcm .bits128
  protectedHeader := "eyJhbGciOiJkaXIiLCJlbmMiOiJBMTI4R0NNIn0"
  encryptedKey := []
  iv := [0, 1, 2]
  ciphertext := [0, 1]
  tag := [255]

def sealedText : String := "eyJhbGciOiJkaXIiLCJlbmMiOiJBMTI4R0NNIn0..AAEC.AAE._w"

theorem sealed_exact :
    ofText sealedText = .ok (.encrypted sealedToken) ∧
      (∃ headerText, segments sealedText = parts headerText (.encrypted sealedToken) ∧
        Authenticates sealedText headerText (.encrypted sealedToken)) ∧
      ∀ other, ofText other = .ok (.encrypted sealedToken) ->
        (segments other).head? = (segments sealedText).head? -> other = sealedText := by
  have reads : (ofText sealedText).toOption = some (.encrypted sealedToken) := by decide +kernel
  have accepted := (toOption_success _ _).mp reads
  obtain ⟨_, exact⟩ := ofText_exact sealedText (.encrypted sealedToken)
  exact ⟨accepted, exact accepted⟩

end Sample

end RelyingParty.Token
