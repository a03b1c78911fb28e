import VoiceAssistants.Python.Base64
import VoiceAssistants.Python.Coercions

/-!
# Envelope encryption of integration secrets

`encrypt_secret` and `decrypt_secret` of `backend/app/services/credential_envelope.py`.  The cipher is `AESGCM` of the
`cryptography` package, a parameter, and so are the random nonces and the environment that has the keys.
`decryptSecret_encryptSecret` is the round trip, also after a rotation of the keys.
-/

namespace VoiceAssistants
namespace Credentials

open Python (Json Coercions Base64.encode Base64.decode)

abbrev Bytes := List UInt8

/-! ## Texts and bytes -/

/-- `text.encode("utf-8")` -/
def utf8 (text : String) : Bytes :=
  text.toUTF8.data.toList

/-- `bytes.decode("utf-8")`; `none` is the exception. -/
def decodeUtf8 (bytes : Bytes) : Option String :=
  String.fromUTF8? ⟨bytes.toArray⟩

theorem decodeUtf8_utf8 (text : String) : decodeUtf8 (utf8 text) = some text :=
  dif_pos text.isValidUTF8

/-- `_b64` -/
def b64 (value : Bytes) : String :=
  String.ofList (Base64.encode value)

/-- `_unb64`, which fills up a missing padding; `none` is an exception. -/
def unb64 (value : String) : Option Bytes :=
  let padded := value.toList ++ List.replicate ((4 - value.toList.length % 4) % 4) '='
  if padded.all (fun c => c.toNat < 0x80) then Base64.decode padded else none

theorem unb64_b64 (value : Bytes) : unb64 (b64 value) = some value := by
  have hpadding : (4 - (Base64.encode value).length % 4) % 4 = 0 := by
    have hgroups := Python.Base64.four_dvd_length_encode value
    omega
  have hascii : (Base64.encode value).all (fun c => c.toNat < 0x80) = true := by
    rw [List.all_eq_true]
    intro c hc
    exact decide_eq_true (Python.Base64.lt_of_mem_encode hc)
  unfold unb64 b64
  rw [String.toList_ofList]
  dsimp only
  rw [hpadding, List.replicate_zero, List.append_nil, if_pos hascii]
  exact Python.Base64.decode_encode value

theorem b64_ne_empty {value : Bytes} (h : value ≠ []) : b64 value ≠ "" := by
  intro hempty
  have hlist := congrArg String.toList hempty
  rw [b64, String.toList_ofList] at hlist
  exact Python.Base64.encode_ne_nil h hlist

/-! ## Keys -/

/-- The variables of the environment; `CREDENTIAL_ENCRYPTION_KEY_VERSION` is `1` if it is not set, the others are empty. -/
structure KeySettings where
  credentialEncryptionKey : String
  credentialEncryptionKeyVersion : String
  credentialEncryptionPreviousKey : String
  credentialEncryptionPreviousKeyVersion : String

/-- `_master_key` for the text of a variable; `none` is an exception. -/
def masterKey (raw : String) : Option Bytes :=
  if raw = "" then none
  else (unb64 raw).filter fun key => key.length = 32

namespace KeySettings

/-- `_key_version` -/
def keyVersion (settings : KeySettings) : String :=
  strip settings.credentialEncryptionKeyVersion

/-- The key that `decrypt_secret` takes for the version of an envelope. -/
def dataKey (settings : KeySettings) (envelopeVersion : String) : Option Bytes :=
  if envelopeVersion = settings.keyVersion then masterKey settings.credentialEncryptionKey
  else if envelopeVersion = settings.credentialEncryptionPreviousKeyVersion then
    masterKey settings.credentialEncryptionPreviousKey
  else none

/-- What was encrypted in one environment has its key in another, under the same version. -/
def Reads (now settings : KeySettings) : Prop :=
  now.dataKey settings.keyVersion = masterKey settings.credentialEncryptionKey

theorem reads_self (settings : KeySettings) : settings.Reads settings :=
  if_pos rfl

end KeySettings

/-! ## The cipher -/

/-- `AESGCM(key).encrypt` and `AESGCM(key).decrypt`; `none` is an exception. -/
structure Aesgcm where
  encrypt (key nonce data associatedData : Bytes) : Option Bytes
  decrypt (key nonce data associatedData : Bytes) : Option Bytes

/-- What the package documents of them. -/
structure Aesgcm.Lawful (aes : Aesgcm) : Prop where
  /-- What was encrypted decrypts, with the same key, nonce and associated data. -/
  decrypt_encrypt : ∀ {key nonce data associatedData ciphertext : Bytes},
    aes.encrypt key nonce data associatedData = some ciphertext →
      aes.decrypt key nonce ciphertext associatedData = some data
  /-- A tag of 16 bytes is appended. -/
  length_encrypt : ∀ {key nonce data associatedData ciphertext : Bytes},
    aes.encrypt key nonce data associatedData = some ciphertext → ciphertext.length = data.length + 16

/-- What a secret is bound to. -/
structure SecretIdentity where
  companyId : String
  provider : String
  field : String

def SecretIdentity.context (identity : SecretIdentity) : Json :=
  .obj [("company_id", .str identity.companyId), ("provider", .str identity.provider), ("field", .str identity.field),
    ("version", .int 1)]

/-- `_aad` -/
def aad (context : Json) : Bytes :=
  utf8 (String.ofList context.sortKeys.dumps)

/-- Dictionaries are equal whatever the order of their members. -/
def sameDict (first second : Json) : Bool :=
  first.sortKeys.dumps == second.sortKeys.dumps

section Secrets

variable (aes : Aesgcm) (coercions : Coercions) (settings : KeySettings)

/-- `encrypt_secret` with the random bytes that it gets: the ciphertext and its envelope. -/
def encryptSecret (nonce : Bytes) (secret : String) (identity : SecretIdentity) : Option (String × Json) := do
  let key ← masterKey settings.credentialEncryptionKey
  let ciphertext ← aes.encrypt key nonce (utf8 secret) (aad identity.context)
  return (b64 ciphertext, .obj [("nonce", .str (b64 nonce)), ("context", identity.context), ("key_provider", .str "env"),
    ("key_version", .str settings.keyVersion)])

/-- `decrypt_secret`; `none` is an exception. -/
def decryptSecret (ciphertext : String) (envelope : Json) (identity : SecretIdentity) : Option String := do
  if sameDict ((envelope.member? "context").getD .null) identity.context then
    let nonce ← unb64 (coercions.str (← envelope.member? "nonce"))
    let encrypted ← unb64 ciphertext
    -- envelopes from before the providers had a name are of the environment's
    match (envelope.member? "key_provider").getD (.str "env") with
    | .str "env" =>
        let key ← settings.dataKey (coercions.str ((envelope.member? "key_version").getD (.str "1")))
        decodeUtf8 (← aes.decrypt key nonce encrypted (aad identity.context))
    | _ => none
  else none

end Secrets

section RoundTrip

variable {aes : Aesgcm} {coercions : Coercions} {settings now : KeySettings} {nonce : Bytes} {secret ciphertext : String}
  {envelope : Json} {identity : SecretIdentity}

/-- What an encryption that does not raise has given. -/
theorem encryptSecret_eq_some (h : encryptSecret aes settings nonce secret identity = some (ciphertext, envelope)) :
    ∃ key encrypted, masterKey settings.credentialEncryptionKey = some key ∧
      aes.encrypt key nonce (utf8 secret) (aad identity.context) = some encrypted ∧ ciphertext = b64 encrypted ∧
        envelope = .obj [("nonce", .str (b64 nonce)), ("context", identity.context), ("key_provider", .str "env"),
          ("key_version", .str settings.keyVersion)] := by
  unfold encryptSecret at h
  obtain ⟨key, hkey, h⟩ := Option.bind_eq_some_iff.mp h
  obtain ⟨encrypted, hencrypted, h⟩ := Option.bind_eq_some_iff.mp h
  obtain ⟨rfl, rfl⟩ := Prod.mk.inj (Option.some.inj h)
  exact ⟨key, encrypted, hkey, hencrypted, rfl, rfl⟩

/-- A secret decrypts under the identity that it was encrypted for, where its key is known. -/
theorem decryptSecret_encryptSecret (laws : aes.Lawful)
    (h : encryptSecret aes settings nonce secret identity = some (ciphertext, envelope)) (hreads : now.Reads settings) :
    decryptSecret aes coercions now ciphertext envelope identity = some secret := by
  obtain ⟨key, encrypted, hkey, hencrypted, rfl, rfl⟩ := encryptSecret_eq_some h
  have hcontext : sameDict identity.context identity.context = true := beq_self_eq_true _
  have hdataKey : now.dataKey settings.keyVersion = some key := hreads.trans hkey
  unfold decryptSecret
  simp [Json.member?, Coercions.str, hcontext, unb64_b64, hdataKey, laws.decrypt_encrypt hencrypted, decodeUtf8_utf8]

/-- A ciphertext is not empty, and its envelope is true. -/
theorem truthy_of_encryptSecret (laws : aes.Lawful)
    (h : encryptSecret aes settings nonce secret identity = some (ciphertext, envelope)) :
    ciphertext ≠ "" ∧ envelope.truthy = true := by
  obtain ⟨key, encrypted, -, hencrypted, rfl, rfl⟩ := encryptSecret_eq_some h
  constructor
  · apply b64_ne_empty
    rintro rfl
    have hlength := laws.length_encrypt hencrypted
    simp at hlength
  · rfl

end RoundTrip

end Credentials
end VoiceAssistants
