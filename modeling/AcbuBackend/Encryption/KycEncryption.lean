import AcbuBackend.Encryption.Buffer
import AcbuBackend.Json.RoundTrip
import AcbuBackend.Runtime.Errors

/-! The encryption of fields and of KYC payloads.
AES-256-GCM is a parameter. What it encrypts is the UTF-8 of a text, and what it decrypts is read as
one. The vector of an encryption is an argument.
-/

namespace AcbuBackend.Encryption

open AcbuBackend.Runtime
open Json (Value)

-- The cipher

structure SealedText where
  ciphertext : Bytes
  tag : Bytes

/-- `aes-256-gcm`, by key and vector; a text is decrypted with a tag and a ciphertext. -/
structure Gcm where
  encrypt (key iv : Bytes) (text : String) : SealedText
  decrypt (key iv tag ciphertext : Bytes) : Option String

/-- The lengths that `setAuthTag` takes. -/
def TAG_LENGTHS : List Nat :=
  [4, 8, 12, 13, 14, 15, 16]

/-- The cipher decrypts what it has encrypted, with its tag or the beginning of it, and nothing
else.
-/
structure Gcm.Lawful (gcm : Gcm) : Prop where
  tagLength : ∀ key iv text, (gcm.encrypt key iv text).tag.length = 16
  decrypt_iff : ∀ key iv tag ciphertext text, tag.length ∈ TAG_LENGTHS →
    (gcm.decrypt key iv tag ciphertext = some text
      ↔ (gcm.encrypt key iv text).ciphertext = ciphertext
        ∧ (gcm.encrypt key iv text).tag.take tag.length = tag)

-- Fields

def IV_BYTES : Nat := 12

def TAG_BYTES : Nat := 16

def VERSION_PREFIX : List Char := ['v', '1', ':']

/-- The length of a text in UTF-16. -/
def jsLength (text : String) : Nat :=
  (text.toList.map (fun c => if c.toNat < 65536 then 1 else 2)).sum

def getPiiKey (hexKey : String) : Except JsError Bytes :=
  if jsLength hexKey ≠ 64 then
    .error (.error ("PII_ENCRYPTION_KEY must be a 64-character hex string (32 bytes / 256 bits). "
      ++ s!"Got {jsLength hexKey} characters."))
  else .ok (hexBytes hexKey.toList)

/-- What `createCipheriv` and `createDecipheriv` check. -/
def checkCipher (key iv : Bytes) : Except JsError Unit :=
  if key.length ≠ 32 then .error (.error "Invalid key length")
  else if iv = [] then .error (.error "Invalid initialization vector")
  else .ok ()

/-- The text of a field: version, vector, tag and ciphertext. -/
def fieldText (iv : Bytes) (value : SealedText) : String :=
  String.ofList
    (VERSION_PREFIX ++ (hexText iv ++ ':' :: (hexText value.tag ++ ':' ::
      base64Text value.ciphertext)))

def encryptField (gcm : Gcm) (iv : Bytes) (plaintext : String) (key : Bytes)
    : Except JsError String := do
  checkCipher key iv
  return fieldText iv (gcm.encrypt key iv plaintext)

/-- The vector, the tag and the ciphertext of a field. -/
def parseField (encrypted : String) : Except JsError (Bytes × Bytes × Bytes) :=
  if VERSION_PREFIX.isPrefixOf encrypted.toList then
    match (encrypted.toList.drop VERSION_PREFIX.length).splitOn ':' with
    | [ivHex, tagHex, ciphertextB64] =>
        .ok (hexBytes ivHex, (hexBytes tagHex).take TAG_BYTES, base64Bytes ciphertextB64)
    | _ => .error (.error "Malformed encrypted PII field.")
  else .error (.error "Unsupported PII encryption version or unencrypted value.")

def setAuthTag (tag : Bytes) : Except JsError Unit :=
  if tag.length ∈ TAG_LENGTHS then .ok ()
  else .error (.error s!"Invalid authentication tag length: {tag.length}")

def decryptField (gcm : Gcm) (encrypted : String) (key : Bytes) : Except JsError String := do
  let (iv, tag, ciphertext) ← parseField encrypted
  checkCipher key iv
  setAuthTag tag
  match gcm.decrypt key iv tag ciphertext with
  | some plaintext => .ok plaintext
  | none => .error (.error "Unsupported state or unable to authenticate data")

section

variable (numberText : ℚ → List Char)

def encryptJson (gcm : Gcm) (iv : Bytes) (value : Value) (key : Bytes) : Except JsError String :=
  encryptField gcm iv (String.ofList (Json.stringify numberText value)) key

/-- `JSON.parse` of a text. -/
def parseJson (text : String) : Except JsError Value :=
  match Json.parse text.toList with
  | some value => .ok value
  | none => .error (.error "SyntaxError")

def decryptJson (gcm : Gcm) (encrypted : String) (key : Bytes) : Except JsError Value := do
  parseJson (← decryptField gcm encrypted key)

-- KYC payloads

/-- `getKey`, of `config.piiEncryptionKey`. -/
def getKey (piiEncryptionKey : Option String) : Option Bytes :=
  (piiEncryptionKey.filter (· ≠ "")).bind (fun hex => (getPiiKey hex).toOption)

def encryptKycPayload (gcm : Gcm) (piiEncryptionKey : Option String) (iv : Bytes)
    : Value → Except JsError (Option String)
  | .null => .ok none
  | payload =>
      match getKey piiEncryptionKey with
      | none =>
          .error (.error
            "PII_ENCRYPTION_KEY not configured — refusing to store plaintext KYC payload")
      | some key => (encryptJson numberText gcm iv payload key).map some

def decryptKycPayload (gcm : Gcm) (piiEncryptionKey : Option String)
    : Option String → Except JsError Value
  | none => .ok .null
  | some encrypted =>
      if !VERSION_PREFIX.isPrefixOf encrypted.toList then
        .ok ((Json.parse encrypted.toList).getD (.string encrypted))
      else
        match getKey piiEncryptionKey with
        | none => .error (.error "PII_ENCRYPTION_KEY not configured — cannot decrypt KYC payload")
        | some key => decryptJson gcm encrypted key

end

-- Round trips

section

variable {gcm : Gcm} {iv key : Bytes} {value : SealedText} {text : String}

theorem version_fieldText : VERSION_PREFIX.isPrefixOf (fieldText iv value).toList = true := by
  rw [fieldText, String.toList_ofList, List.isPrefixOf_iff_prefix]
  exact List.prefix_append _ _

theorem splitOn_fieldText
    : ((fieldText iv value).toList.drop VERSION_PREFIX.length).splitOn ':'
      = [hexText iv, hexText value.tag, base64Text value.ciphertext] := by
  have joined : (fieldText iv value).toList.drop VERSION_PREFIX.length
      = [':'].intercalate [hexText iv, hexText value.tag, base64Text value.ciphertext] := by
    rw [fieldText, String.toList_ofList, List.drop_left]
    simp [List.intercalate]
  rw [joined]
  refine List.splitOn_intercalate ':' ?_ (by simp)
  simp only [List.forall_mem_cons, List.not_mem_nil, false_imp_iff, implies_true, and_true]
  exact ⟨colon_not_mem_hexText iv, colon_not_mem_hexText _, colon_not_mem_base64Text _⟩

theorem parseField_fieldText (full : value.tag.length = TAG_BYTES)
    : parseField (fieldText iv value) = .ok (iv, value.tag, value.ciphertext) := by
  rw [parseField, if_pos version_fieldText, splitOn_fieldText]
  dsimp only
  rw [hexBytes_hexText, hexBytes_hexText, base64Bytes_base64Text, List.take_of_length_le full.le]

theorem checkCipher_ok (size : key.length = 32) (vector : iv ≠ [])
    : checkCipher key iv = .ok () := by
  rw [checkCipher, if_neg (not_not.mpr size), if_neg vector]

theorem decryptField_iff {encrypted : String} (size : key.length = 32)
    : decryptField gcm encrypted key = .ok text
      ↔ ∃ iv tag ciphertext, parseField encrypted = .ok (iv, tag, ciphertext) ∧ iv ≠ []
        ∧ tag.length ∈ TAG_LENGTHS ∧ gcm.decrypt key iv tag ciphertext = some text := by
  unfold decryptField
  cases parsed : parseField encrypted with
  | error e => simp [bind, Except.bind]
  | ok parts =>
      obtain ⟨iv, tag, ciphertext⟩ := parts
      simp only [bind, Except.bind, Except.ok.injEq, Prod.mk.injEq]
      by_cases vector : iv = []
      · rw [checkCipher, if_neg (not_not.mpr size), if_pos vector]
        simp [vector]
      · rw [checkCipher_ok size vector, setAuthTag]
        by_cases allowed : tag.length ∈ TAG_LENGTHS
        · rw [if_pos allowed]
          cases decrypted : gcm.decrypt key iv tag ciphertext with
          | none => simp [decrypted]
          | some plaintext => simp [decrypted, vector, allowed]
        · rw [if_neg allowed]
          simp [allowed]

theorem decryptField_encryptField (lawful : gcm.Lawful) (size : key.length = 32)
    (vector : iv.length = IV_BYTES)
    : ∃ encrypted, encryptField gcm iv text key = .ok encrypted
        ∧ VERSION_PREFIX.isPrefixOf encrypted.toList = true
        ∧ decryptField gcm encrypted key = .ok text := by
  have some : iv ≠ [] := List.ne_nil_of_length_pos (vector ▸ Nat.zero_lt_succ 11)
  have full := lawful.tagLength key iv text
  have allowed : (gcm.encrypt key iv text).tag.length ∈ TAG_LENGTHS := by
    rw [full]
    decide
  refine ⟨fieldText iv (gcm.encrypt key iv text), ?_, version_fieldText, ?_⟩
  · rw [encryptField, checkCipher_ok size some]
    rfl
  · rw [decryptField_iff size]
    refine ⟨iv, _, _, parseField_fieldText full, some, allowed, ?_⟩
    exact (lawful.decrypt_iff _ _ _ _ _ allowed).mpr ⟨rfl, List.take_length⟩

theorem decryptKycPayload_encryptKycPayload {numberText : ℚ → List Char}
    {piiEncryptionKey : Option String} {payload : Value} (lawful : gcm.Lawful)
    (configured : getKey piiEncryptionKey = some key) (size : key.length = 32)
    (vector : iv.length = IV_BYTES) (present : payload ≠ .null)
    (reads : ∀ q ∈ payload.numbers, Json.Reads numberText q)
    : ∃ encrypted,
        encryptKycPayload numberText gcm piiEncryptionKey iv payload = .ok (some encrypted)
        ∧ decryptKycPayload gcm piiEncryptionKey (some encrypted) = .ok payload := by
  obtain ⟨encrypted, written, version, read⟩ :=
    @decryptField_encryptField gcm iv key (String.ofList (Json.stringify numberText payload))
      lawful size vector
  have field : encryptKycPayload numberText gcm piiEncryptionKey iv payload
      = (encryptJson numberText gcm iv payload key).map some := by
    cases payload with
    | null => exact absurd rfl present
    | _ => simp only [encryptKycPayload, configured]
  refine ⟨encrypted, ?_, ?_⟩
  · rw [field, encryptJson, written]
    rfl
  · have parsed := Json.parse_stringify payload reads
    rw [decryptKycPayload, version, configured]
    simp only [Bool.not_true, Bool.false_eq_true, if_false, decryptJson, read, bind, Except.bind,
      parseJson, String.toList_ofList, parsed]

-- What is rejected

/-- A string that is decrypted is the output of an encryption. -/
def OnlyOutputs (gcm : Gcm) (key : Bytes) (encrypted : String) : Prop :=
  ∀ text, decryptField gcm encrypted key = .ok text →
    ∃ iv plaintext, iv.length = IV_BYTES ∧ encryptField gcm iv plaintext key = .ok encrypted

/-- A string in the very form that fields are written in. -/
def Canonical (encrypted : String) : Prop :=
  ∃ iv value, iv.length = IV_BYTES ∧ value.tag.length = TAG_BYTES ∧ encrypted = fieldText iv value

/-- The parts of a string are read as a vector, a ciphertext and a part of the tag that belong to
each other.
-/
def Genuine (gcm : Gcm) (key : Bytes) (encrypted : String) : Prop :=
  ∃ iv tag ciphertext, parseField encrypted = .ok (iv, tag, ciphertext) ∧ iv ≠ []
    ∧ tag.length ∈ TAG_LENGTHS
    ∧ ∃ text, (gcm.encrypt key iv text).ciphertext = ciphertext
      ∧ (gcm.encrypt key iv text).tag.take tag.length = tag

theorem Genuine.accepted {encrypted : String} (lawful : gcm.Lawful) (size : key.length = 32)
    (genuine : Genuine gcm key encrypted)
    : ∃ text, decryptField gcm encrypted key = .ok text := by
  obtain ⟨iv, tag, ciphertext, parsed, some, allowed, text, same⟩ := genuine
  refine ⟨text, (decryptField_iff size).mpr ⟨iv, tag, ciphertext, parsed, some, allowed, ?_⟩⟩
  exact (lawful.decrypt_iff _ _ _ _ _ allowed).mpr same

theorem genuine_of_accepted {encrypted : String} (lawful : gcm.Lawful) (size : key.length = 32)
    (accepted : decryptField gcm encrypted key = .ok text)
    : Genuine gcm key encrypted := by
  obtain ⟨iv, tag, ciphertext, parsed, some, allowed, decrypted⟩ :=
    (decryptField_iff size).mp accepted
  exact ⟨iv, tag, ciphertext, parsed, some, allowed, text,
    (lawful.decrypt_iff _ _ _ _ _ allowed).mp decrypted⟩

theorem canonical_of_output {encrypted : String} (lawful : gcm.Lawful)
    (vector : iv.length = IV_BYTES) (written : encryptField gcm iv text key = .ok encrypted)
    : Canonical encrypted := by
  unfold encryptField at written
  cases checked : checkCipher key iv with
  | error e =>
      rw [checked] at written
      cases written
  | ok _ =>
      rw [checked] at written
      obtain rfl := Except.ok.inj written
      exact ⟨iv, _, vector, lawful.tagLength key iv text, rfl⟩

theorem Canonical.onlyOutputs {encrypted : String} (lawful : gcm.Lawful) (size : key.length = 32)
    (canonical : Canonical encrypted)
    : OnlyOutputs gcm key encrypted := by
  obtain ⟨iv, value, vector, full, rfl⟩ := canonical
  intro text accepted
  obtain ⟨iv', tag, ciphertext, parsed, some, allowed, decrypted⟩ :=
    (decryptField_iff size).mp accepted
  rw [parseField_fieldText full, Except.ok.injEq, Prod.mk.injEq, Prod.mk.injEq] at parsed
  obtain ⟨rfl, rfl, rfl⟩ := parsed
  obtain ⟨ciphertext, tag⟩ := (lawful.decrypt_iff _ _ _ _ _ allowed).mp decrypted
  have whole : (gcm.encrypt key iv text).tag.take value.tag.length
      = (gcm.encrypt key iv text).tag := by
    rw [full]
    exact List.take_of_length_le (lawful.tagLength key iv text).le
  rw [whole] at tag
  have same : gcm.encrypt key iv text = value := by
    cases encrypted : gcm.encrypt key iv text
    rw [encrypted] at ciphertext tag
    subst ciphertext tag
    rfl
  refine ⟨iv, text, vector, ?_⟩
  rw [encryptField, checkCipher_ok size some, same]
  rfl

/-- Payloads come back as they were encrypted. A string is rejected unless it is the output of an
encryption exactly when it is written in the form of one, or its parts do not belong together.
-/
theorem kycEncryption_iff {numberText : ℚ → List Char} {piiEncryptionKey : Option String}
    {payload : Value} (lawful : gcm.Lawful) (configured : getKey piiEncryptionKey = some key)
    (size : key.length = 32) (vector : iv.length = IV_BYTES) (present : payload ≠ .null)
    (reads : ∀ q ∈ payload.numbers, Json.Reads numberText q)
    : (∃ encrypted,
        encryptKycPayload numberText gcm piiEncryptionKey iv payload = .ok (some encrypted)
        ∧ decryptKycPayload gcm piiEncryptionKey (some encrypted) = .ok payload)
      ∧ ∀ encrypted, OnlyOutputs gcm key encrypted
        ↔ Canonical encrypted ∨ ¬ Genuine gcm key encrypted := by
  refine ⟨decryptKycPayload_encryptKycPayload lawful configured size vector present reads,
    fun encrypted => ⟨fun only => ?_, ?_⟩⟩
  · by_cases genuine : Genuine gcm key encrypted
    · obtain ⟨text, accepted⟩ := genuine.accepted lawful size
      obtain ⟨iv, plaintext, vector, written⟩ := only text accepted
      exact .inl (canonical_of_output lawful vector written)
    · exact .inr genuine
  · rintro (canonical | foreign)
    · exact canonical.onlyOutputs lawful size
    · exact fun text accepted => absurd (genuine_of_accepted lawful size accepted) foreign

end

-- A cipher, and a tag that is too long

/-- The first block of the stream of AES-256-GCM under the key and the vector that are all zeros. -/
def keyStream : Bytes :=
  [0xce, 0xa7, 0x40, 0x3d, 0x4d, 0x60, 0x6b, 0x6e, 0x07, 0x4e, 0xc5, 0xd3, 0xba, 0xf3, 0x9d, 0x18]

def maskFrom (start : Nat) : Bytes → Bytes
  | [] => []
  | byte :: bytes => (byte ^^^ keyStream[start % 16]?.getD 0) :: maskFrom (start + 1) bytes

theorem maskFrom_maskFrom {start : Nat} {bytes : Bytes}
    : maskFrom start (maskFrom start bytes) = bytes := by
  induction bytes generalizing start with
  | nil => rfl
  | cons byte bytes ih =>
      rw [maskFrom, maskFrom, ih, UInt8.xor_assoc, UInt8.xor_self, UInt8.xor_zero]

def utf8Bytes (text : String) : Bytes :=
  text.toByteArray.data.toList

theorem fromUTF8?_iff {bytes : Bytes} {text : String}
    : String.fromUTF8? ⟨bytes.toArray⟩ = some text ↔ utf8Bytes text = bytes := by
  unfold String.fromUTF8?
  constructor
  · intro read
    split at read
    · obtain rfl := Option.some.inj read
      rfl
    · cases read
  · rintro rfl
    exact (dif_pos text.isValidUTF8).trans rfl

/-- A payload with a number. -/
def samplePayload : Value :=
  .object [("id", .number 1)]

/-- The text of numbers, for the one number there is. -/
def oneText (_ : ℚ) : List Char :=
  ['1']

def sampleText : String :=
  String.ofList (Json.stringify oneText samplePayload)

/-- The tag of that payload under AES-256-GCM, with the key and the vector that are all zeros. -/
def zeroTag : Bytes :=
  [0xfe, 0xc1, 0x95, 0xb2, 0x95, 0x81, 0x2b, 0x62, 0x72, 0xf9, 0xd9, 0x4b, 0xae, 0x4f, 0x75, 0xc1]

/-- A cipher that encrypts the payload under zeros as AES-256-GCM does. -/
def zeroCipher : Gcm where
  encrypt _ _ text := { ciphertext := maskFrom 0 (utf8Bytes text), tag := zeroTag }
  decrypt _ _ tag ciphertext :=
    if zeroTag.take tag.length = tag then String.fromUTF8? ⟨(maskFrom 0 ciphertext).toArray⟩
    else none

theorem zeroCipher_lawful : zeroCipher.Lawful where
  tagLength _ _ _ := rfl
  decrypt_iff key iv tag ciphertext text _ := by
    have masked : utf8Bytes text = maskFrom 0 ciphertext
        ↔ maskFrom 0 (utf8Bytes text) = ciphertext := by
      constructor
      · intro same
        rw [same, maskFrom_maskFrom]
      · rintro rfl
        exact maskFrom_maskFrom.symm
    unfold zeroCipher
    dsimp only
    by_cases own : zeroTag.take tag.length = tag
    · rw [if_pos own, fromUTF8?_iff, masked, and_iff_left own]
    · rw [if_neg own]
      exact iff_of_false (fun h => by cases h) fun h => own h.2

def zeroKeyText : String :=
  "0000000000000000000000000000000000000000000000000000000000000000"

def zeroKey : Bytes :=
  List.replicate 32 0

def zeroIv : Bytes :=
  List.replicate 12 0

theorem zeroKey_configured : getKey (some zeroKeyText) = some zeroKey := by
  decide +kernel

theorem reads_one : Json.Reads oneText 1 := by
  refine ⟨⟨'1', [], rfl, .inr rfl⟩, fun rest ends => ?_⟩
  have read := Json.parseNumber_digit (c := '1') rfl ends
  exact read.trans (by rw [show '1'.toNat = 49 from rfl]; norm_num)

theorem kycEncryption_iff_object
    : (∃ encrypted,
        encryptKycPayload oneText zeroCipher (some zeroKeyText) zeroIv samplePayload
          = .ok (some encrypted)
        ∧ decryptKycPayload zeroCipher (some zeroKeyText) (some encrypted) = .ok samplePayload)
      ∧ ∀ encrypted, OnlyOutputs zeroCipher zeroKey encrypted
        ↔ Canonical encrypted ∨ ¬ Genuine zeroCipher zeroKey encrypted := by
  refine kycEncryption_iff zeroCipher_lawful zeroKey_configured rfl rfl (fun h => by cases h)
    fun q member => ?_
  obtain rfl : q = 1 := List.mem_singleton.mp member
  exact reads_one

/-- The encryption of the payload, with another byte behind the tag. -/
def longTag : String :=
  "v1:000000000000000000000000:fec195b295812b6272f9d94bae4f75c100:tYUpWW9aWhM="

/-- A tag is cut to its length, so that a string is decrypted that no encryption has written. -/
theorem longTag_decrypted : ¬ OnlyOutputs zeroCipher zeroKey longTag := by
  intro only
  have accepted : decryptField zeroCipher longTag zeroKey = .ok sampleText := by decide +kernel
  obtain ⟨iv, plaintext, vector, written⟩ := only sampleText accepted
  obtain ⟨iv, value, -, full, same⟩ := canonical_of_output zeroCipher_lawful vector written
  have parts := @splitOn_fieldText iv value
  rw [← same] at parts
  have lengths : ((longTag.toList.drop VERSION_PREFIX.length).splitOn ':').map List.length
      = [24, 34, 12] := by decide +kernel
  rw [parts] at lengths
  have tag := (List.cons.inj (List.cons.inj lengths).2).1
  rw [length_hexText, full] at tag
  exact absurd tag (by decide)

end AcbuBackend.Encryption
