import SlotBooking.Http.Staff
import SlotBooking.Library.RecordCoding
import SlotBooking.Security.Base64Url

/-! The encryption of a push message, and a receiver as the standard has it. The elliptic curve,
HMAC and AES-GCM belong to the platform and are parameters. -/
namespace SlotBooking

/-- Private keys `K` and public keys `P`. -/
structure PushPlatform (K P : Type) where
  publicKey : K → P
  exportRaw : P → List UInt8
  importRaw : List UInt8 → Option P
  deriveBits : K → P → List UInt8
  hmacSha256 : List UInt8 → List UInt8 → List UInt8
  aesGcmEncrypt : List UInt8 → List UInt8 → List UInt8 → List UInt8
  aesGcmDecrypt : List UInt8 → List UInt8 → List UInt8 → Option (List UInt8)

structure ClientPublicKey where
  p256dh : JsString
  auth : JsString

structure EncryptedPushPayload where
  body : List UInt8
  ephemeralPublicKeyBase64Url : JsString
  salt : List UInt8

/-! ### Bytes -/

/-- `Uint8Array.prototype.set`. -/
def setAt (out : List UInt8) (offset : Nat) (part : List UInt8) : List UInt8 :=
  out.take offset ++ part ++ out.drop (offset + part.length)

/-- All parts are copied behind each other into one array. -/
def concat (parts : List (List UInt8)) : List UInt8 :=
  let total := parts.foldl (fun total part => total + part.length) 0
  (parts.foldl (fun (state : List UInt8 × Nat) part =>
    (setAt state.1 state.2 part, state.2 + part.length)) (List.replicate total 0, 0)).1

/-- `DataView.prototype.setUint32`, big-endian. -/
def uint32 (n : Nat) : List UInt8 := [24, 16, 8, 0].map (fun k => UInt8.ofNat (n >>> k))

def keyInfoPrefix : List UInt8 := encodeUtf8 (jsString "WebPush: info\x00")
def cekInfo : List UInt8 := encodeUtf8 (jsString "Content-Encoding: aes128gcm\x00")
def nonceInfo : List UInt8 := encodeUtf8 (jsString "Content-Encoding: nonce\x00")
def paddingDelimiter : List UInt8 := [0x02]
def recordSize : Nat := 4096

/-! ### The sender -/

section
variable {K P : Type} (platform : PushPlatform K P)

def hkdfExpandOneBlock (prk info : List UInt8) (length : Nat) : List UInt8 :=
  (platform.hmacSha256 prk (concat [info, [0x01]])).take length

/-- The key pair and the salt are new for every message. -/
def encryptPayload (plaintext : List UInt8) (client : ClientPublicKey) (ephemeral : K)
    (salt : List UInt8) : Option EncryptedPushPayload := do
  let clientPubRaw ← base64UrlToBytes client.p256dh
  let clientAuth ← base64UrlToBytes client.auth
  let ephemeralPubRaw := platform.exportRaw (platform.publicKey ephemeral)
  let clientPubKey ← platform.importRaw clientPubRaw
  let sharedSecret := platform.deriveBits ephemeral clientPubKey
  let prkKey := platform.hmacSha256 clientAuth sharedSecret
  let keyInfo := concat [keyInfoPrefix, clientPubRaw, ephemeralPubRaw]
  let ikm := hkdfExpandOneBlock platform prkKey keyInfo 32
  let prk := platform.hmacSha256 salt ikm
  let cek := hkdfExpandOneBlock platform prk cekInfo 16
  let nonce := hkdfExpandOneBlock platform prk nonceInfo 12
  let padded := concat [plaintext, paddingDelimiter]
  let ciphertext := platform.aesGcmEncrypt cek nonce padded
  let idlen := [UInt8.ofNat ephemeralPubRaw.length]
  let body := concat [salt, uint32 recordSize, idlen, ephemeralPubRaw, ciphertext]
  return ⟨body, bytesToBase64Url ephemeralPubRaw, salt⟩

/-! ### The receiver -/

/-- HKDF with a block of 32 bytes at most: the secret is extracted with the salt, and expanded. -/
def hkdf (salt secret info : List UInt8) (length : Nat) : List UInt8 :=
  (platform.hmacSha256 (platform.hmacSha256 salt secret) (info ++ [0x01])).take length

/-- Key and nonce of a message, from what both sides know. -/
def messageKeys (shared auth salt receiverKey senderKey : List UInt8) :
    List UInt8 × List UInt8 :=
  let ikm := hkdf platform auth shared (keyInfoPrefix ++ receiverKey ++ senderKey) 32
  (hkdf platform salt ikm cekInfo 16, hkdf platform salt ikm nonceInfo 12)

/-- The records of a message, under its key and nonce. -/
def openMessage (keys : List UInt8 × List UInt8) (size : Nat) (data : List UInt8) :
    Option (List UInt8) :=
  RecordCoding.openRecords
    (fun i record => platform.aesGcmDecrypt keys.1 (RecordCoding.nonceAt keys.2 i) record) 0
    (RecordCoding.records size data)

/-- The browser has its private key and its secret; the sender's key stands in the header. -/
def receive (own : K) (auth body : List UInt8) : Option (List UInt8) := do
  let (header, data) ← RecordCoding.parse body
  let sender ← platform.importRaw header.keyId
  let keys := messageKeys platform (platform.deriveBits own sender) auth header.salt
    (platform.exportRaw (platform.publicKey own)) header.keyId
  openMessage platform keys header.recordSize data

/-- What is returned, the receiver decrypts to the plaintext. -/
def Recovers (own : K) (auth plaintext : List UInt8) (client : ClientPublicKey) (ephemeral : K)
    (salt : List UInt8) : Prop :=
  ∀ encrypted, encryptPayload platform plaintext client ephemeral salt = some encrypted →
    receive platform own auth encrypted.body = some plaintext

/-- What is published of the curve, and of the cipher at one text. Of all texts at once no cipher
can leave every truncation of its output without meaning. -/
structure PushPlatform.Lawful (own ephemeral : K) (padded : List UInt8) : Prop where
  imports : ∀ key, platform.importRaw (platform.exportRaw key) = some key
  keyLength : ∀ key, (platform.exportRaw key).length = 65
  agree : platform.deriveBits ephemeral (platform.publicKey own) =
    platform.deriveBits own (platform.publicKey ephemeral)
  restores : ∀ key iv, platform.aesGcmDecrypt key iv (platform.aesGcmEncrypt key iv padded) =
    some padded
  tagged : ∀ key iv, (platform.aesGcmEncrypt key iv padded).length = padded.length + 16
  truncated : ∀ key iv n, n < (platform.aesGcmEncrypt key iv padded).length →
    platform.aesGcmDecrypt key iv ((platform.aesGcmEncrypt key iv padded).take n) = none

/-- A push service knows the public key and the secret of a browser. -/
structure ClientPublicKey.Belongs (client : ClientPublicKey) (own : K) (auth : List UInt8) :
    Prop where
  key : base64UrlToBytes client.p256dh = some (platform.exportRaw (platform.publicKey own))
  secret : base64UrlToBytes client.auth = some auth

end

/-! ### Concatenation -/

theorem foldl_setAt (parts : List (List UInt8)) (done : List UInt8) (rest : Nat) :
    parts.foldl (fun (state : List UInt8 × Nat) part =>
        (setAt state.1 state.2 part, state.2 + part.length))
        (done ++ List.replicate (parts.flatten.length + rest) 0, done.length) =
      (done ++ parts.flatten ++ List.replicate rest 0, (done ++ parts.flatten).length) := by
  induction parts generalizing done with
  | nil => simp
  | cons part parts ih =>
    have step : setAt (done ++ List.replicate ((part :: parts).flatten.length + rest) 0)
        done.length part = (done ++ part) ++ List.replicate (parts.flatten.length + rest) 0 := by
      rw [setAt, List.take_left, List.drop_length_add_append, List.drop_replicate]
      congr 2
      simp only [List.flatten_cons, List.length_append]
      omega
    rw [List.foldl_cons, step, ← List.length_append, ih]
    simp

theorem foldl_length (parts : List (List UInt8)) (start : Nat) :
    parts.foldl (fun total part => total + part.length) start = start + parts.flatten.length := by
  induction parts generalizing start with
  | nil => simp
  | cons part parts ih =>
    rw [List.foldl_cons, ih, List.flatten_cons, List.length_append, Nat.add_assoc]

theorem concat_eq (parts : List (List UInt8)) : concat parts = parts.flatten := by
  have all := foldl_setAt parts [] 0
  simp only [Nat.add_zero, List.nil_append, List.replicate_zero, List.append_nil,
    List.length_nil] at all
  rw [concat, foldl_length, Nat.zero_add, all]

section
variable {K P : Type} {platform : PushPlatform K P} {own ephemeral : K} {client : ClientPublicKey}
variable {auth salt plaintext : List UInt8}

theorem hkdfExpandOneBlock_eq (salt secret info : List UInt8) (length : Nat) :
    hkdfExpandOneBlock platform (platform.hmacSha256 salt secret) info length =
      hkdf platform salt secret info length := by
  rw [hkdfExpandOneBlock, concat_eq, hkdf]
  simp

variable (platform own ephemeral auth salt plaintext) in
/-- The one record of a message. -/
def ciphertextOf : List UInt8 :=
  let keys := messageKeys platform (platform.deriveBits ephemeral (platform.publicKey own)) auth salt
    (platform.exportRaw (platform.publicKey own))
    (platform.exportRaw (platform.publicKey ephemeral))
  platform.aesGcmEncrypt keys.1 keys.2 (plaintext ++ paddingDelimiter)

theorem encryptPayload_eq (lawful : platform.Lawful own ephemeral (plaintext ++ paddingDelimiter))
    (belongs : client.Belongs platform own auth) :
    encryptPayload platform plaintext client ephemeral salt =
      let key := platform.exportRaw (platform.publicKey ephemeral)
      some ⟨salt ++ uint32 recordSize ++ [UInt8.ofNat key.length] ++ key ++
        ciphertextOf platform own ephemeral auth salt plaintext, bytesToBase64Url key, salt⟩ := by
  simp [encryptPayload, belongs.key, belongs.secret, lawful.imports, hkdfExpandOneBlock_eq,
    concat_eq, ciphertextOf, messageKeys]

/-- The receiver derives the same keys, and opens the records of what follows the header. -/
theorem receive_eq (lawful : platform.Lawful own ephemeral (plaintext ++ paddingDelimiter))
    (salt16 : salt.length = 16) (data : List UInt8) :
    let key := platform.exportRaw (platform.publicKey ephemeral)
    receive platform own auth
        (salt ++ uint32 recordSize ++ [UInt8.ofNat key.length] ++ key ++ data) =
      openMessage platform (messageKeys platform
        (platform.deriveBits ephemeral (platform.publicKey own)) auth salt
        (platform.exportRaw (platform.publicKey own)) key) recordSize data := by
  intro key
  have short : key.length < 256 := by
    rw [lawful.keyLength]
    decide
  have size : RecordCoding.number (uint32 recordSize) = recordSize := by decide
  have large : 18 ≤ RecordCoding.number (uint32 recordSize) := by
    rw [size]
    decide
  rw [receive, RecordCoding.parse_append salt16 rfl large short]
  simp [lawful.imports, lawful.agree, size, key]

/-! ### The length of a message -/

section
variable {keys : List UInt8 × List UInt8} (nonce12 : keys.2.length ≤ 12)
include nonce12

theorem openMessage_short (lawful : platform.Lawful own ephemeral (plaintext ++ paddingDelimiter))
    (fits : plaintext.length ≤ 4079) :
    openMessage platform keys recordSize
      (platform.aesGcmEncrypt keys.1 keys.2 (plaintext ++ paddingDelimiter)) = some plaintext := by
  have length := lawful.tagged keys.1 keys.2
  rw [List.length_append, paddingDelimiter, List.length_singleton] at length
  have some_ : platform.aesGcmEncrypt keys.1 keys.2 (plaintext ++ paddingDelimiter) ≠ [] := by
    intro none_
    rw [paddingDelimiter] at none_
    simp [none_] at length
  have one : (platform.aesGcmEncrypt keys.1 keys.2 (plaintext ++ paddingDelimiter)).length ≤
      recordSize := by
    rw [paddingDelimiter, length, recordSize]
    omega
  rw [openMessage, RecordCoding.openRecords_single some_ one, RecordCoding.nonceAt_zero nonce12,
    lawful.restores, Option.bind_some]
  exact RecordCoding.unpad_append (by decide) plaintext

/-- The first 4096 bytes of a longer record decrypt to nothing. -/
theorem openMessage_long (lawful : platform.Lawful own ephemeral (plaintext ++ paddingDelimiter))
    (long : 4079 < plaintext.length) :
    openMessage platform keys recordSize
      (platform.aesGcmEncrypt keys.1 keys.2 (plaintext ++ paddingDelimiter)) = none := by
  have length := lawful.tagged keys.1 keys.2
  rw [List.length_append, paddingDelimiter, List.length_singleton] at length
  have more : recordSize <
      (platform.aesGcmEncrypt keys.1 keys.2 (plaintext ++ paddingDelimiter)).length := by
    rw [paddingDelimiter, length, recordSize]
    omega
  refine RecordCoding.openRecords_long (by decide) more ?_
  rw [RecordCoding.nonceAt_zero nonce12]
  exact lawful.truncated _ _ _ more

end

theorem messageKeys_nonce (shared auth salt receiverKey senderKey : List UInt8) :
    (messageKeys platform shared auth salt receiverKey senderKey).2.length ≤ 12 := by
  simp only [messageKeys, hkdf, List.length_take]
  exact Nat.min_le_left _ _

theorem not_recovers_long (lawful : platform.Lawful own ephemeral (plaintext ++ paddingDelimiter))
    (belongs : client.Belongs platform own auth) (salt16 : salt.length = 16)
    (long : 4079 < plaintext.length) :
    ¬ Recovers platform own auth plaintext client ephemeral salt := by
  intro recovers
  have read := recovers _ (encryptPayload_eq lawful belongs)
  rw [receive_eq lawful salt16, ciphertextOf,
    openMessage_long (messageKeys_nonce _ _ _ _ _) lawful long] at read
  cases read

end

/-- A message is decrypted to its plaintext by the receiver, if and only if it fits into the record
whose size its header names. -/
theorem payload_decrypts_iff {K P : Type} (platform : PushPlatform K P) (own ephemeral : K)
    (auth salt plaintext : List UInt8) (client : ClientPublicKey)
    (lawful : platform.Lawful own ephemeral (plaintext ++ paddingDelimiter))
    (belongs : client.Belongs platform own auth) (salt16 : salt.length = 16) :
    Recovers platform own auth plaintext client ephemeral salt ↔ plaintext.length ≤ 4079 := by
  constructor
  · intro recovers
    by_contra long
    exact not_recovers_long lawful belongs salt16 (Nat.not_le.mp long) recovers
  · intro fits encrypted made
    rw [encryptPayload_eq lawful belongs] at made
    cases made
    rw [receive_eq lawful salt16, ciphertextOf,
      openMessage_short (messageKeys_nonce _ _ _ _ _) lawful fits]

namespace Sample

def bytes (text : String) : List UInt8 := (base64UrlToBytes (jsString text)).getD []

/-- The public keys of the browser and of the sender. -/
def exportKey : Bool → List UInt8
  | false =>
    [4, 37, 113, 178, 190, 205, 253, 227, 96, 85, 26, 175, 30, 208, 244, 205, 54, 108, 17, 206,
     190, 85, 95, 137, 188, 183, 177, 134, 165, 51, 57, 23, 49, 104, 236, 226, 235, 224, 24, 89,
     123, 211, 4, 121, 184, 110, 60, 143, 142, 206, 213, 119, 202, 89, 24, 126, 146, 70, 153, 13,
     182, 130, 0, 139, 14]
  | true =>
    [4, 254, 51, 244, 171, 13, 234, 113, 145, 77, 181, 88, 35, 247, 59, 84, 148, 143, 65, 48, 109,
     146, 7, 50, 219, 185, 165, 154, 83, 40, 100, 130, 32, 14, 89, 122, 123, 123, 194, 96, 186,
     28, 34, 121, 152, 88, 9, 146, 233, 57, 115, 0, 47, 48, 18, 162, 138, 232, 240, 107, 187, 120,
     229, 236, 15]

def sharedSecret : List UInt8 := bytes "kyrL1jIIOHEzg3sM2ZWRHDRB62YACZhhSlknJ672kSs"

def keyMaterial : List UInt8 := bytes "S4lYMb_L0FxCeq0WhDx813KgSYqU26kOyzWUdsXYyrg"

/-- HMAC at the five texts of one message. -/
def hmacs (_ data : List UInt8) : List UInt8 :=
  if data = sharedSecret then bytes "Snr3JMxaHVDXHWJn5wdC52WjpCtd2EIEGBykDcZW32k"
  else if data = keyMaterial then bytes "09_eUZGrsvxChDCGRCdkLiDXrReGOEVeSCdCcPBSJSc"
  else if data = cekInfo ++ [1] then bytes "oIhVW04MRdy2XN9CiKLxTl0uQsGNvQfmsWdnbeeVI3I"
  else if data = nonceInfo ++ [1] then bytes "4h_95klXJ5E_qnoNYnGf3uTEcxHWwBqQ0L18I8048G0"
  else keyMaterial

/-- A platform for one text and its encryption. -/
def pushPlatform (padded ciphertext : List UInt8) : PushPlatform Bool Bool where
  publicKey := id
  exportRaw := exportKey
  importRaw raw :=
    if raw = exportKey false then some false
    else if raw = exportKey true then some true
    else none
  deriveBits _ _ := sharedSecret
  hmacSha256 := hmacs
  aesGcmEncrypt _ _ _ := ciphertext
  aesGcmDecrypt _ _ data := if data = ciphertext then some padded else none

def browser : ClientPublicKey where
  p256dh := jsString
    "BCVxsr7N_eNgVRqvHtD0zTZsEc6-VV-JvLexhqUzORcxaOzi6-AYWXvTBHm4bjyPjs7Vd8pZGH6SRpkNtoIAiw4"
  auth := jsString "BTBZMqHH6r4Tts7J_aSIgg"

def browserSecret : List UInt8 :=
  [5, 48, 89, 50, 161, 199, 234, 190, 19, 182, 206, 201, 253, 164, 136, 130]

def messageSalt : List UInt8 :=
  [12, 107, 250, 173, 173, 103, 149, 136, 3, 9, 45, 69, 70, 118, 243, 151]

/-- When I grow up, I want to be a watermelon -/
def watermelon : List UInt8 :=
  [87, 104, 101, 110, 32, 73, 32, 103, 114, 111, 119, 32, 117, 112, 44, 32, 73, 32, 119, 97, 110,
   116, 32, 116, 111, 32, 98, 101, 32, 97, 32, 119, 97, 116, 101, 114, 109, 101, 108, 111, 110]

def watermelonCiphertext : List UInt8 :=
  [242, 151, 222, 91, 66, 155, 186, 113, 83, 211, 164, 174, 12, 170, 9, 31, 212, 37, 243, 180,
   181, 65, 74, 221, 138, 179, 122, 25, 193, 187, 176, 92, 245, 203, 91, 42, 46, 5, 98, 213, 88,
   99, 86, 65, 236, 82, 129, 44, 108, 143, 244, 46, 149, 204, 184, 107, 231, 205]

/-- One byte more than fits. -/
def longPlaintext : List UInt8 := List.replicate 4080 0x61

theorem exportKey_ne : exportKey true ≠ exportKey false := by decide

theorem exportKey_length (key : Bool) : (exportKey key).length = 65 := by
  cases key <;> rfl

theorem pushPlatform_lawful {padded ciphertext : List UInt8}
    (tagged : ciphertext.length = padded.length + 16) :
    (pushPlatform padded ciphertext).Lawful false true padded where
  imports key := by cases key <;> simp [pushPlatform, exportKey_ne]
  keyLength := exportKey_length
  agree := rfl
  restores _ _ := if_pos rfl
  tagged _ _ := tagged
  truncated _ _ n short := by
    refine if_neg (fun same => ?_)
    have length := congrArg List.length same
    rw [List.length_take, Nat.min_eq_left (Nat.le_of_lt short)] at length
    exact Nat.ne_of_lt short length

theorem browser_decoded : base64UrlToBytes browser.p256dh = some (exportKey false) ∧
    base64UrlToBytes browser.auth = some browserSecret := by decide +kernel

theorem browser_belongs (padded ciphertext : List UInt8) :
    browser.Belongs (pushPlatform padded ciphertext) false browserSecret where
  key := by simp only [pushPlatform, id_eq, browser_decoded.1]
  secret := browser_decoded.2

end Sample

theorem payload_decrypts_watermelon :
    Recovers (Sample.pushPlatform (Sample.watermelon ++ paddingDelimiter)
      Sample.watermelonCiphertext) false Sample.browserSecret Sample.watermelon Sample.browser true
      Sample.messageSalt :=
  (payload_decrypts_iff _ false true Sample.browserSecret Sample.messageSalt Sample.watermelon
    Sample.browser (Sample.pushPlatform_lawful rfl) (Sample.browser_belongs _ _)
    rfl).mpr (by decide)

/-- The header names records of 4096 bytes, and the one that follows has 4097. -/
theorem long_payload_dropped : ∃ platform : PushPlatform Bool Bool,
    platform.Lawful false true (Sample.longPlaintext ++ paddingDelimiter) ∧
      Sample.browser.Belongs platform false Sample.browserSecret ∧
      encryptPayload platform Sample.longPlaintext Sample.browser true Sample.messageSalt ≠ none ∧
      ¬ Recovers platform false Sample.browserSecret Sample.longPlaintext Sample.browser true
        Sample.messageSalt := by
  have tagged : (List.replicate 4097 (0 : UInt8)).length =
      (Sample.longPlaintext ++ paddingDelimiter).length + 16 := by
    rw [List.length_append, Sample.longPlaintext, List.length_replicate, List.length_replicate]
    rfl
  have lawful := Sample.pushPlatform_lawful tagged
  refine ⟨_, lawful, Sample.browser_belongs _ _, ?_, ?_⟩
  · rw [encryptPayload_eq lawful (Sample.browser_belongs _ _)]
    exact Option.some_ne_none _
  · refine not_recovers_long lawful (Sample.browser_belongs _ _) rfl ?_
    rw [Sample.longPlaintext, List.length_replicate]
    decide

end SlotBooking
