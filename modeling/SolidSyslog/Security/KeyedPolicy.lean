import SolidSyslog.Event
import SolidSyslog.Lib.Latch
import SolidSyslog.Lib.Run
import SolidSyslog.Lib.Trace
import SolidSyslog.Security.Crc16Policy

/-!
# The policies with a key

`SolidSyslog{OpenSsl,MbedTls,WolfSsl}HmacSha256Policy.c` and
`SolidSyslog{OpenSsl,MbedTls,WolfSsl}AesGcmPolicy.c`. A policy fetches its key from the integrator
for each record, and wipes it. The three that make a tag differ in the calls of their library, and
so do the three that encrypt; what the libraries compute is a parameter.
-/

namespace SolidSyslog.Security

open Lib
open Store (OpenResult fit)

/-- The functions of the crypto libraries, and what is documented of them. -/
structure Crypto where
  hmacSha256 : (key data : Bytes) → Bytes
  gcmSeal : (key nonce header body : Bytes) → Bytes × Bytes
  gcmOpen : (key nonce header body tag : Bytes) → Option Bytes
  hmacSha256_length : ∀ key data, (hmacSha256 key data).length = 32
  gcmSeal_body_length : ∀ key nonce header body,
    (gcmSeal key nonce header body).1.length = body.length
  gcmSeal_tag_length : ∀ key nonce header body, (gcmSeal key nonce header body).2.length = 16
  gcmOpen_length : ∀ {key nonce header body tag plain},
    gcmOpen key nonce header body tag = some plain → plain.length = body.length
  gcmOpen_gcmSeal : ∀ key nonce header body, gcmOpen key nonce header
    (gcmSeal key nonce header body).1 (gcmSeal key nonce header body).2 = some body

/-- `SOLIDSYSLOG_MAX_HMAC_KEY_SIZE`, with the bound that guards it. -/
structure MaxHmacKeySize where
  size : Nat
  size_ge : 32 ≤ size

/-- `enum SolidSyslogHmacSha256PolicyErrors`. -/
inductive HmacSha256PolicyError where
  | poolExhausted
  | unknownDestroy
  | badConfig
  | keyUnavailable
  | keyTooShort
  | hmacFailed
  | max
  deriving DecidableEq, Repr

/-- The error's number. -/
def HmacSha256PolicyError.code : HmacSha256PolicyError → Int
  | .poolExhausted => 0
  | .unknownDestroy => 1
  | .badConfig => 2
  | .keyUnavailable => 3
  | .keyTooShort => 4
  | .hmacFailed => 5
  | .max => 6

/-- `enum SolidSyslogAesGcmPolicyErrors`. -/
inductive AesGcmPolicyError where
  | poolExhausted
  | unknownDestroy
  | badConfig
  | keyUnavailable
  | nonceFailed
  | encryptFailed
  | decryptFailed
  | max
  deriving DecidableEq, Repr

/-- The error's number. -/
def AesGcmPolicyError.code : AesGcmPolicyError → Int
  | .poolExhausted => 0
  | .unknownDestroy => 1
  | .badConfig => 2
  | .keyUnavailable => 3
  | .nonceFailed => 4
  | .encryptFailed => 5
  | .decryptFailed => 6
  | .max => 7

/-! ## Calls -/

/-- A call of a crypto library, under one name where the libraries have one for the same thing. -/
inductive LibraryCall where
  | contextNew
  | contextFree
  | hmac (key data : Bytes)
  | setCipher
  | setNonceLength (length : Nat)
  | setKey (key : Bytes)
  | setKeyAndNonce (key nonce : Bytes)
  | update (data : Bytes)
  | final
  | setTag (tag : Bytes)
  | getTag
  | encrypt (nonce header body : Bytes)
  | decrypt (nonce header body tag : Bytes)
  deriving DecidableEq

/-- What surrounds a policy: the integrator's key function, the random source, whether a call of the
library succeeds, and what one that did not leaves of the bytes it worked on. -/
structure Surroundings (σ : Type) where
  getKey : (capacity : Nat) → σ → Option Bytes × σ
  random : (count : Nat) → σ → Option Bytes × σ
  library : LibraryCall → σ → Bool × σ
  leaves : Bytes → σ → Bytes

/-- What a policy does. -/
inductive PolicyEvent where
  | gotKey (key : Option Bytes)
  | wipedKey
  | drew (nonce : Option Bytes)
  | library (call : LibraryCall) (succeeded : Bool)
  | raised (event : ErrorEvent)
  deriving DecidableEq

/-- A policy's latch, what surrounds it, and what it has done so far. -/
structure KeyedPolicy (σ : Type) where
  faultReported : Bool
  env : σ
  trace : List PolicyEvent

/-- `struct SolidSyslogSecurityPolicy`. -/
structure SecurityPolicy (τ : Type) where
  trailerSize : Nat
  sealRecord : SecurityRecord → StateM τ (Bool × SecurityRecord)
  openRecord : SecurityRecord → StateM τ (OpenResult × SecurityRecord)

namespace KeyedPolicy

variable {σ : Type}

/-- An operation of a policy. -/
abbrev Action (σ : Type) := StateM (KeyedPolicy σ)

/-- A policy as its `Initialise` leaves it. -/
def initial (env : σ) : KeyedPolicy σ :=
  ⟨false, env, []⟩

def noted (s : KeyedPolicy σ) (event : PolicyEvent) (env : σ) : KeyedPolicy σ :=
  { s with env := env, trace := s.trace ++ [event] }

def note (event : PolicyEvent) : Action σ Unit :=
  modify fun s => s.noted event s.env

variable (K : Crypto) (O : Surroundings σ)

/-- The policy's `GetKey`, into a buffer of `capacity` bytes. -/
def getKey (capacity : Nat) : Action σ (Option Bytes) :=
  modifyGet fun s =>
    let answer := O.getKey capacity s.env
    (answer.1, s.noted (.gotKey answer.1) answer.2)

/-- `OPENSSL_cleanse`, `mbedtls_platform_zeroize` or `wc_ForceZero` on the key buffer. -/
def wipeKey : Action σ Unit :=
  note .wipedKey

/-- `RAND_bytes`, `mbedtls_ctr_drbg_random` or `wc_RNG_GenerateBlock`. -/
def random (count : Nat) : Action σ (Option Bytes) :=
  modifyGet fun s =>
    let answer := O.random count s.env
    let nonce := answer.1.map (fit count)
    (nonce, s.noted (.drew nonce) answer.2)

/-- A call of the library. -/
def library (call : LibraryCall) : Action σ Bool :=
  modifyGet fun s =>
    let answer := O.library call s.env
    (answer.1, s.noted (.library call answer.1) answer.2)

/-- Calls joined by `&&`. -/
def allSucceed : List LibraryCall → Action σ Bool
  | [] => return true
  | call :: calls => do
    if ← library O call then
      allSucceed calls
    else
      return false

/-- What the library left of the bytes, where it came to no end. -/
def leaves (bytes : Bytes) : Action σ Bytes := do
  return O.leaves bytes (← get).env

/-- A policy's `ReportFault`. -/
def reportFault (source : String) (category : Category) (detail : Int) : Action σ Unit := do
  if !(← get).faultReported then
    note (.raised ⟨.error, category, false, source, detail, 0⟩)
    modify fun s => { s with faultReported := true }

/-- The run of faults is over. -/
def rearm : Action σ Unit :=
  modify fun s => { s with faultReported := false }

/-! ## The policies that make a tag -/

/-- `HMAC_SHA256_TAG_SIZE`. -/
def hmacSha256TagSize : Nat := 32

/-- `HMAC_SHA256_MIN_KEY_SIZE`. -/
def hmacSha256MinKeySize : Nat := 32

/-- `KeyLengthIsValid`. -/
def keyLengthIsValid (M : MaxHmacKeySize) (keyLength : Nat) : Bool :=
  hmacSha256MinKeySize ≤ keyLength && keyLength ≤ M.size

/-- `FetchKey` of the policies that make a tag. -/
def fetchHmacKey (M : MaxHmacKeySize) (source : String) : Action σ (Option Bytes) := do
  match ← getKey O M.size with
  | some key =>
    if keyLengthIsValid M key.length then
      return some key
    else
      reportFault source .securityPolicyKeyUnavailable HmacSha256PolicyError.keyTooShort.code
      return none
  | none =>
    reportFault source .securityPolicyKeyUnavailable HmacSha256PolicyError.keyUnavailable.code
    return none

/-- The part of `ComputeTag` behind the key. -/
def tagUnderKey (source : String) (hmac : (key data : Bytes) → Action σ (Option Bytes))
    (data : Bytes) (failureCategory : Category) : Option Bytes → Action σ (Option Bytes)
  | some key => do
    match ← hmac key data with
    | some tag =>
      rearm
      return some tag
    | none =>
      reportFault source failureCategory HmacSha256PolicyError.hmacFailed.code
      return none
  | none => return none

/-- `ComputeTag`. -/
def computeTag (M : MaxHmacKeySize) (source : String)
    (hmac : (key data : Bytes) → Action σ (Option Bytes)) (data : Bytes)
    (failureCategory : Category) : Action σ (Option Bytes) := do
  let key ← fetchHmacKey O M source
  let computed ← tagUnderKey source hmac data failureCategory key
  wipeKey
  return computed

/-- `ConstantTimeEquals`. -/
def constantTimeEquals (a b : Bytes) (length : Nat) : Bool :=
  (List.range length).foldl (fun difference index =>
    difference ||| (a.getD index 0 ^^^ b.getD index 0)) 0 == 0

/-- The verdict on a record whose tag could be computed. -/
def tagVerdict (expected trailer : Bytes) : OpenResult :=
  if constantTimeEquals expected trailer hmacSha256TagSize then .opened else .rejected

/-- `SealRecord` and `OpenRecord` of the policies that make a tag. -/
def hmacSha256Policy (M : MaxHmacKeySize) (source : String)
    (hmac : (key data : Bytes) → Action σ (Option Bytes)) : SecurityPolicy (KeyedPolicy σ) where
  trailerSize := hmacSha256TagSize
  sealRecord record := do
    match ← computeTag O M source hmac (record.content.take record.contentLength.toNat)
      .securityPolicySealFailed with
    | some tag => return (true, { record with trailer := tag })
    | none => return (false, record)
  openRecord record := do
    match ← computeTag O M source hmac (record.content.take record.contentLength.toNat)
      .securityPolicyOpenFailed with
    | some expected => return (tagVerdict expected record.trailer, record)
    | none => return (.couldNotRun, record)

/-- `HMAC`. -/
def openSslHmac (key data : Bytes) : Action σ (Option Bytes) := do
  return if ← library O (.hmac key data) then some (K.hmacSha256 key data) else none

/-- `mbedtls_md_hmac`. -/
def mbedTlsHmac (key data : Bytes) : Action σ (Option Bytes) := do
  return if ← library O (.hmac key data) then some (K.hmacSha256 key data) else none

/-- `WolfSslHmacSha256Policy_Hmac`. -/
def wolfSslHmac (key data : Bytes) : Action σ (Option Bytes) := do
  if ← library O .contextNew then
    let ok ← allSucceed O [.setKey key, .update data, .final]
    note (.library .contextFree true)
    return if ok then some (K.hmacSha256 key data) else none
  else
    return none

/-- `SolidSyslogOpenSslHmacSha256Policy.c`. -/
def openSslHmacSha256Policy (M : MaxHmacKeySize) : SecurityPolicy (KeyedPolicy σ) :=
  hmacSha256Policy O M "OpenSslHmacSha256Policy" (openSslHmac K O)

/-- `SolidSyslogMbedTlsHmacSha256Policy.c`. -/
def mbedTlsHmacSha256Policy (M : MaxHmacKeySize) : SecurityPolicy (KeyedPolicy σ) :=
  hmacSha256Policy O M "MbedTlsHmacSha256Policy" (mbedTlsHmac K O)

/-- `SolidSyslogWolfSslHmacSha256Policy.c`. -/
def wolfSslHmacSha256Policy (M : MaxHmacKeySize) : SecurityPolicy (KeyedPolicy σ) :=
  hmacSha256Policy O M "WolfSslHmacSha256Policy" (wolfSslHmac K O)

/-! ## The policies that encrypt -/

/-- `AES_256_KEY_SIZE`. -/
def aes256KeySize : Nat := 32

/-- `GCM_NONCE_SIZE`. -/
def gcmNonceSize : Nat := 12

/-- `GCM_TAG_SIZE`. -/
def gcmTagSize : Nat := 16

/-- `AES_GCM_TRAILER_SIZE`. -/
def aesGcmTrailerSize : Nat := gcmNonceSize + gcmTagSize

/-- `FetchKey` of the policies that encrypt. -/
def fetchAesKey (source : String) : Action σ (Option Bytes) := do
  match (← getKey O aes256KeySize).filter fun key => key.length == aes256KeySize with
  | some key => return some key
  | none =>
    reportFault source .securityPolicyKeyUnavailable AesGcmPolicyError.keyUnavailable.code
    return none

/-- The calls of a library that encrypt a body under a header: the body and the tag. -/
abbrev Encryption (σ : Type) := (key nonce header body : Bytes) → Action σ (Option (Bytes × Bytes))

/-- The calls of a library that decrypt a body under a header: the verdict and what is left of the
body. -/
abbrev Decryption (σ : Type) := (key nonce header body tag : Bytes) → Action σ (OpenResult × Bytes)

end KeyedPolicy

/-- The header of a record. -/
def SecurityRecord.header (record : SecurityRecord) : Bytes :=
  record.content.take record.headerLength.toNat

/-- The body of a record. -/
def SecurityRecord.body (record : SecurityRecord) : Bytes :=
  (record.content.drop record.headerLength.toNat).take
    (record.contentLength - record.headerLength).toNat

/-- The record with another body in the place of its own. -/
def SecurityRecord.withBody (record : SecurityRecord) (body : Bytes) : SecurityRecord :=
  { record with content := record.header ++ body ++
      record.content.drop (record.headerLength.toNat +
        (record.contentLength - record.headerLength).toNat) }

namespace KeyedPolicy

variable {σ : Type} (K : Crypto) (O : Surroundings σ)

/-- The part of `SealRecord` behind the key. -/
def sealUnderKey (source : String) (encrypt : Encryption σ) (record : SecurityRecord) :
    Option Bytes → Action σ (Bool × SecurityRecord)
  | some key => do
    match ← random O gcmNonceSize with
    | some nonce =>
      match ← encrypt key nonce record.header record.body with
      | some (body, tag) =>
        rearm
        return (true, { record.withBody body with trailer := nonce ++ tag })
      | none =>
        reportFault source .securityPolicySealFailed AesGcmPolicyError.encryptFailed.code
        return (false, record)
    | none =>
      reportFault source .securityPolicySealFailed AesGcmPolicyError.nonceFailed.code
      return (false, record)
  | none => return (false, record)

/-- What `OpenRecord` makes of what its library answered. -/
def settleOpen (source : String) (result : OpenResult) : Action σ Unit := do
  if result = .couldNotRun then
    reportFault source .securityPolicyOpenFailed AesGcmPolicyError.decryptFailed.code
  else
    rearm

/-- The part of `OpenRecord` behind the key. -/
def openUnderKey (source : String) (decrypt : Decryption σ) (record : SecurityRecord) :
    Option Bytes → Action σ (OpenResult × SecurityRecord)
  | some key => do
    let (result, body) ← decrypt key (record.trailer.take gcmNonceSize) record.header record.body
      ((record.trailer.drop gcmNonceSize).take gcmTagSize)
    settleOpen source result
    return (result, record.withBody body)
  | none => return (.couldNotRun, record)

/-- `SealRecord` and `OpenRecord` of the policies that encrypt. -/
def aesGcmPolicy (source : String) (encrypt : Encryption σ) (decrypt : Decryption σ) :
    SecurityPolicy (KeyedPolicy σ) where
  trailerSize := aesGcmTrailerSize
  sealRecord record := do
    let key ← fetchAesKey O source
    let sealed ← sealUnderKey O source encrypt record key
    wipeKey
    return sealed
  openRecord record := do
    let key ← fetchAesKey O source
    let result ← openUnderKey source decrypt record key
    wipeKey
    return result

/-- `OpenSslAesGcmPolicy_GcmEncrypt`. -/
def openSslGcmEncrypt : Encryption σ := fun key nonce header body => do
  if ← library O .contextNew then
    let ok ← allSucceed O [.setCipher, .setNonceLength gcmNonceSize, .setKeyAndNonce key nonce,
      .update header, .update body, .final, .getTag]
    note (.library .contextFree true)
    return if ok then some (K.gcmSeal key nonce header body) else none
  else
    return none

/-- The verdict of a call that judges the tag. -/
def verdict (body : Bytes) : Option Bytes → Action σ (OpenResult × Bytes)
  | some plain => return (.opened, plain)
  | none => return (.rejected, ← leaves O body)

/-- The call of `EVP_DecryptFinal_ex` in `OpenSslAesGcmPolicy_GcmDecrypt`, if it comes to it: any
answer but success is a wrong tag. -/
def openSslFinal (setUp : Bool) (key nonce header body tag : Bytes) :
    Action σ (OpenResult × Bytes) := do
  if setUp then
    let final ← library O .final
    verdict O body (if final then K.gcmOpen key nonce header body tag else none)
  else
    return (.couldNotRun, ← leaves O body)

/-- `OpenSslAesGcmPolicy_GcmDecrypt`. -/
def openSslGcmDecrypt : Decryption σ := fun key nonce header body tag => do
  if ← library O .contextNew then
    let setUp ← allSucceed O [.setCipher, .setNonceLength gcmNonceSize, .setKeyAndNonce key nonce,
      .update header, .update body, .setTag tag]
    let result ← openSslFinal K O setUp key nonce header body tag
    note (.library .contextFree true)
    return result
  else
    return (.couldNotRun, body)

/-- `MbedTlsAesGcmPolicy_GcmEncrypt`. -/
def mbedTlsGcmEncrypt : Encryption σ := fun key nonce header body => do
  note (.library .contextNew true)
  let ok ← allSucceed O [.setKey key, .encrypt nonce header body]
  note (.library .contextFree true)
  return if ok then some (K.gcmSeal key nonce header body) else none

/-- The calls of `mbedtls_gcm_setkey` and `mbedtls_gcm_auth_decrypt`, or of `wc_AesGcmSetKey` and
`wc_AesGcmDecrypt`: an error other than a wrong tag is no verdict. -/
def authDecrypt (key nonce header body tag : Bytes) : Action σ (OpenResult × Bytes) := do
  if ← library O (.setKey key) then
    if ← library O (.decrypt nonce header body tag) then
      verdict O body (K.gcmOpen key nonce header body tag)
    else
      return (.couldNotRun, ← leaves O body)
  else
    return (.couldNotRun, body)

/-- `MbedTlsAesGcmPolicy_GcmDecrypt`. -/
def mbedTlsGcmDecrypt : Decryption σ := fun key nonce header body tag => do
  note (.library .contextNew true)
  let result ← authDecrypt K O key nonce header body tag
  note (.library .contextFree true)
  return result

/-- `SolidSyslogWolfSslAesGcmPolicy_GcmEncrypt`. -/
def wolfSslGcmEncrypt : Encryption σ := fun key nonce header body => do
  if ← library O .contextNew then
    let ok ← allSucceed O [.setKey key, .encrypt nonce header body]
    note (.library .contextFree true)
    return if ok then some (K.gcmSeal key nonce header body) else none
  else
    return none

/-- `SolidSyslogWolfSslAesGcmPolicy_GcmDecrypt`. -/
def wolfSslGcmDecrypt : Decryption σ := fun key nonce header body tag => do
  if ← library O .contextNew then
    let result ← authDecrypt K O key nonce header body tag
    note (.library .contextFree true)
    return result
  else
    return (.couldNotRun, body)

/-- `SolidSyslogOpenSslAesGcmPolicy.c`. -/
def openSslAesGcmPolicy : SecurityPolicy (KeyedPolicy σ) :=
  aesGcmPolicy O "OpenSslAesGcmPolicy" (openSslGcmEncrypt K O) (openSslGcmDecrypt K O)

/-- `SolidSyslogMbedTlsAesGcmPolicy.c`. -/
def mbedTlsAesGcmPolicy : SecurityPolicy (KeyedPolicy σ) :=
  aesGcmPolicy O "MbedTlsAesGcmPolicy" (mbedTlsGcmEncrypt K O) (mbedTlsGcmDecrypt K O)

/-- `SolidSyslogWolfSslAesGcmPolicy.c` and `SolidSyslogWolfSslAesGcmPolicyGcm.c`. -/
def wolfSslAesGcmPolicy : SecurityPolicy (KeyedPolicy σ) :=
  aesGcmPolicy O "WolfSslAesGcmPolicy" (wolfSslGcmEncrypt K O) (wolfSslGcmDecrypt K O)

end KeyedPolicy

end SolidSyslog.Security
