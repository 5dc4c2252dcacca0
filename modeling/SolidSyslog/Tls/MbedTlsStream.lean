import SolidSyslog.Tls.Stream

/-!
# The TLS stream over Mbed TLS

`SolidSyslogMbedTlsStream.c`. What Mbed TLS, the credentials, the transport and the integrator's
getters answer in a call comes with it; a call of the library that does I/O does so through the
transport, and a handshake calls back to judge the certificates of the peer.
-/

namespace SolidSyslog.Tls

open Lib

/-- A call of Mbed TLS. -/
inductive MbedTlsCall where
  | sslConfigDefaults
  | confMinTlsVersion
  | confLegacyRenegotiation
  | confRng
  | confCiphersuites
  | confCertProfile
  | confAuthmode (required : Bool)
  | confVerify
  | sslSetup
  | setHostname (name : Option Bytes)
  | setBio
  | handshake
  | getVerifyResult
  | read
  | write
  | closeNotify
  | sslFree
  | sslConfigFree
  deriving DecidableEq

/-- The `ssl_config` holds what the credentials install. -/
def MbedTlsCall.frees (call : MbedTlsCall) : Bool :=
  call = .sslConfigFree

/-- `struct SolidSyslogMbedTlsProfile`, with whether its lists are given. -/
structure MbedTlsProfile where
  serverName : Option Bytes
  cipherSuites : Bool
  certProfile : Bool

/-- One call of `mbedtls_ssl_handshake`: its I/O, the certificates the verify callback is called
for, each at its depth and with the flags found for it, and what it returns. -/
structure HandshakeStep (Cert : Type) where
  io : List TransportIo
  presented : List (Nat × Cert × UInt32)
  result : HandshakeResult

/-- What is answered to an `Open`. -/
structure OpenAnswers (Cert : Type) where
  profile : MbedTlsProfile
  transportOpens : Bool
  defaultsApplied : Bool
  installs : Bool
  installed : CredentialsInstalled
  isSetUp : Bool
  hostnameSet : Bool
  handshakeTimeoutMs : Nat
  handshake : Nat → HandshakeStep Cert
  verifyResult : UInt32
  closeIo : List TransportIo

/-- What the callback made of a certificate: the flags it left and whether it failed the
handshake. -/
structure Judgement (Cert : Type) where
  depth : Nat
  certificate : Cert
  flags : UInt32
  left : UInt32
  failed : Bool

/-- `struct SolidSyslogMbedTlsStream`, with its calls so far and what its callback has judged in the
handshake under way. -/
structure MbedTlsStream (Cert : Type) where
  credentialsInstalled : Bool
  installed : CredentialsInstalled
  profile : MbedTlsProfile
  refusedVerdict : UInt32
  pinVerdict : TlsAuthorisation
  judged : List (Judgement Cert)
  trace : List (TlsEvent MbedTlsCall)

/-- `MBEDTLS_X509_BADCERT_NOT_TRUSTED`. -/
def badcertNotTrusted : UInt32 := 0x08

/-- `MBEDTLS_X509_BADCERT_MISSING`. -/
def badcertMissing : UInt32 := 0x40

/-- `MBEDTLS_X509_BADCERT_OTHER`. -/
def badcertOther : UInt32 := 0x0100

namespace MbedTlsStream

variable {Cert : Type} (D : HashAlgorithm → Cert → Option Bytes)

def emit (s : MbedTlsStream Cert) (event : TlsEvent MbedTlsCall) : MbedTlsStream Cert :=
  { s with trace := s.trace ++ [event] }

/-- The `ssl_config` is part of the stream. -/
instance : TlsState (MbedTlsStream Cert) MbedTlsCall where
  trace := MbedTlsStream.trace
  credentialsInstalled := MbedTlsStream.credentialsInstalled
  hasHolder _ := true
  frees := MbedTlsCall.frees
  emit := emit
  trace_emit _ _ := rfl
  credentialsInstalled_emit _ _ := rfl
  hasHolder_emit _ _ := rfl

/-- A call of the library with the I/O it does. -/
def library (s : MbedTlsStream Cert) (call : MbedTlsCall) (io : List TransportIo) :
    MbedTlsStream Cert :=
  { s with trace := s.trace ++ io.map TransportIo.event ++ [.library call] }

/-! ## Close -/

/-- `MbedTlsStream_ReleaseCredentials`. -/
def releaseCredentials (s : MbedTlsStream Cert) : MbedTlsStream Cert :=
  if s.credentialsInstalled then { s.emit .release with credentialsInstalled := false } else s

/-- `MbedTlsStream_Close`. -/
def close (s : MbedTlsStream Cert) (closeIo : List TransportIo) : MbedTlsStream Cert :=
  let s := s.library .closeNotify closeIo
  let s := s.library .sslFree []
  let s := s.library .sslConfigFree []
  s.releaseCredentials.emit .transportClose

/-! ## The verify callback -/

/-- `MbedTlsStream_ChainTrustFlags`. -/
def chainTrustFlags : UInt32 :=
  badcertNotTrusted ||| badcertMissing

/-- `MbedTlsStream_LeafMatchesAPin`, with the digests `MbedTlsStream_DigestCertificate` computes. -/
def leafMatchesAPin (s : MbedTlsStream Cert) (leaf : Cert) : Bool × MbedTlsStream Cert :=
  let verdict := s.installed.fingerprints.authorise fun algorithm => D algorithm leaf
  (verdict = .matched, { s with pinVerdict := verdict })

/-- `MbedTlsStream_EnforceWhereTheLibraryWillNot`: whether it fails the handshake. -/
def enforceWhereTheLibraryWillNot (s : MbedTlsStream Cert) (depth : Nat) (flags : UInt32) :
    Bool × MbedTlsStream Cert :=
  if s.installed.trustAnchorsInstalled then (false, s)
  else
    let s := { s with refusedVerdict := s.refusedVerdict ||| flags }
    (depth = 0 && s.refusedVerdict ≠ 0, s)

/-- The flags `MbedTlsStream_VerifyPeer` leaves of those found for a certificate. -/
def judgeFlags (s : MbedTlsStream Cert) (crt : Cert) (depth : Nat) (flags : UInt32) :
    UInt32 × MbedTlsStream Cert :=
  if 0 < s.installed.fingerprints.count then
    let flags := if s.installed.trustAnchorsInstalled then flags else flags &&& ~~~chainTrustFlags
    if depth = 0 then
      let (matchesPin, s) := s.leafMatchesAPin D crt
      (if matchesPin then flags else flags ||| badcertOther, s)
    else (flags, s)
  else (flags, s)

/-- `MbedTlsStream_VerifyPeer`. -/
def verifyPeer (s : MbedTlsStream Cert) (crt : Cert) (depth : Nat) (flags : UInt32) :
    MbedTlsStream Cert :=
  let (left, s) := s.judgeFlags D crt depth flags
  let (failed, s) := s.enforceWhereTheLibraryWillNot depth left
  { s with judged := s.judged ++ [⟨depth, crt, flags, left, failed⟩] }

/-- The library calls back for some certificates. -/
def verifyPeers (s : MbedTlsStream Cert) (presented : List (Nat × Cert × UInt32)) :
    MbedTlsStream Cert :=
  presented.foldl (fun s (depth, crt, flags) => s.verifyPeer D crt depth flags) s

theorem judgeFlags_calls (s : MbedTlsStream Cert) (crt : Cert) (depth : Nat) (flags : UInt32) :
    (s.judgeFlags D crt depth flags).2.trace = s.trace ∧
      (s.judgeFlags D crt depth flags).2.credentialsInstalled = s.credentialsInstalled := by
  unfold judgeFlags
  split
  · dsimp only
    split
    · exact ⟨rfl, rfl⟩
    · exact ⟨rfl, rfl⟩
  · exact ⟨rfl, rfl⟩

theorem enforce_calls (s : MbedTlsStream Cert) (depth : Nat) (flags : UInt32) :
    (s.enforceWhereTheLibraryWillNot depth flags).2.trace = s.trace ∧
      (s.enforceWhereTheLibraryWillNot depth flags).2.credentialsInstalled =
        s.credentialsInstalled := by
  unfold enforceWhereTheLibraryWillNot
  split
  · exact ⟨rfl, rfl⟩
  · exact ⟨rfl, rfl⟩

theorem verifyPeer_calls (s : MbedTlsStream Cert) (crt : Cert) (depth : Nat) (flags : UInt32) :
    (s.verifyPeer D crt depth flags).trace = s.trace ∧
      (s.verifyPeer D crt depth flags).credentialsInstalled = s.credentialsInstalled := by
  obtain ⟨htrace, hflag⟩ := s.judgeFlags_calls D crt depth flags
  obtain ⟨htrace', hflag'⟩ := (s.judgeFlags D crt depth flags).2.enforce_calls depth
    (s.judgeFlags D crt depth flags).1
  exact ⟨htrace'.trans htrace, hflag'.trans hflag⟩

@[simp] theorem verifyPeers_trace (s : MbedTlsStream Cert)
    (presented : List (Nat × Cert × UInt32)) :
    (s.verifyPeers D presented).trace = s.trace := by
  induction presented generalizing s with
  | nil => rfl
  | cons one presented ih => exact (ih _).trans (s.verifyPeer_calls D _ _ _).1

@[simp] theorem verifyPeers_credentialsInstalled (s : MbedTlsStream Cert)
    (presented : List (Nat × Cert × UInt32)) :
    (s.verifyPeers D presented).credentialsInstalled = s.credentialsInstalled := by
  induction presented generalizing s with
  | nil => rfl
  | cons one presented ih => exact (ih _).trans (s.verifyPeer_calls D _ _ _).2

/-! ## Open -/

/-- `MbedTlsStream_PullProfile`. -/
def pullProfile (s : MbedTlsStream Cert) (answers : OpenAnswers Cert) : MbedTlsStream Cert :=
  { s with profile := answers.profile }

/-- `MbedTlsStream_ApplySslConfigDefaults`. -/
def applySslConfigDefaults (s : MbedTlsStream Cert) (answers : OpenAnswers Cert) :
    Bool × MbedTlsStream Cert :=
  (answers.defaultsApplied, s.library .sslConfigDefaults [])

/-- `MbedTlsStream_ApplyTlsPolicy`. -/
def applyTlsPolicy (s : MbedTlsStream Cert) : MbedTlsStream Cert :=
  ((s.library .confMinTlsVersion []).library .confLegacyRenegotiation []).library .confRng []

/-- `MbedTlsStream_ApplyCipherPolicy`. -/
def applyCipherPolicy (s : MbedTlsStream Cert) : MbedTlsStream Cert :=
  if s.profile.cipherSuites then s.library .confCiphersuites [] else s

/-- `MbedTlsStream_ApplyCertProfilePolicy`. -/
def applyCertProfilePolicy (s : MbedTlsStream Cert) : MbedTlsStream Cert :=
  if s.profile.certProfile then s.library .confCertProfile [] else s

/-- `MbedTlsStream_PeerIsAuthorisable`. -/
def peerIsAuthorisable (installed : CredentialsInstalled) : Bool :=
  installed.trustAnchorsInstalled || 0 < installed.fingerprints.count

/-- `MbedTlsStream_FingerprintsAreUsable`. -/
def fingerprintsAreUsable (installed : CredentialsInstalled) : Bool :=
  installed.fingerprints.inspect ≠ .malformed

/-- `MbedTlsStream_ApplyPeerVerificationPolicy`. -/
def applyPeerVerificationPolicy (s : MbedTlsStream Cert) : MbedTlsStream Cert :=
  (s.library (.confAuthmode s.installed.trustAnchorsInstalled) []).library .confVerify []

/-- `MbedTlsStream_InstallCredentials`. -/
def installCredentials (s : MbedTlsStream Cert) (answers : OpenAnswers Cert) :
    Bool × MbedTlsStream Cert :=
  let s := { s with installed := .none, credentialsInstalled := true }
  let s := { s.emit (.install answers.installs) with installed := answers.installed }
  if answers.installs && peerIsAuthorisable s.installed && fingerprintsAreUsable s.installed then
    (true, s.applyPeerVerificationPolicy)
  else (false, s)

/-- `MbedTlsStream_BindContextToConfig`. -/
def bindContextToConfig (s : MbedTlsStream Cert) (answers : OpenAnswers Cert) :
    Bool × MbedTlsStream Cert :=
  (answers.isSetUp, s.library .sslSetup [])

/-- `MbedTlsStream_ConfigureExpectedHostname`. -/
def configureExpectedHostname (s : MbedTlsStream Cert) (answers : OpenAnswers Cert) :
    Bool × MbedTlsStream Cert :=
  match s.profile.serverName with
  | none => (true, s.library (.setHostname none) [])
  | some [] => (true, s.library (.setHostname none) [])
  | some (first :: name) =>
    if first = 0x2E then (false, s)
    else (answers.hostnameSet, s.library (.setHostname (some (first :: name))) [])

/-- `MbedTlsStream_InstallTransportCallbacks`. -/
def installTransportCallbacks (s : MbedTlsStream Cert) : MbedTlsStream Cert :=
  s.library .setBio []

/-- One call of `mbedtls_ssl_handshake`. -/
def handshakeStep (s : MbedTlsStream Cert) (step : HandshakeStep Cert) : MbedTlsStream Cert :=
  (s.verifyPeers D step.presented).library .handshake step.io

/-- The loop of `MbedTlsStream_PerformHandshake`, from the attempt with that number on. -/
def handshakeFrom (s : MbedTlsStream Cert) (steps : Nat → HandshakeStep Cert)
    (attempt totalSleptMs budgetMs : Nat) : Bool × MbedTlsStream Cert :=
  let s := s.handshakeStep D (steps attempt)
  match (steps attempt).result with
  | .done => (true, s)
  | .failed => (false, s)
  | .wantIo =>
    if budgetMs ≤ totalSleptMs then (false, s)
    else handshakeFrom s steps (attempt + 1)
      (totalSleptMs + handshakePollMs totalSleptMs budgetMs) budgetMs
termination_by budgetMs - totalSleptMs
decreasing_by
  have hpos := handshakePollMs_pos ‹_›
  omega

/-- `MbedTlsStream_PerformHandshake`. -/
def performHandshake (s : MbedTlsStream Cert) (answers : OpenAnswers Cert) :
    Bool × MbedTlsStream Cert :=
  s.handshakeFrom D answers.handshake 0 0 answers.handshakeTimeoutMs

/-- `MbedTlsStream_IsVerifyFailure`. -/
def isVerifyFailure (verdict : UInt32) : Bool :=
  verdict ≠ 0 && verdict ≠ 0xFFFFFFFF

/-- `MbedTlsStream_PeerPassedVerification`. -/
def peerPassedVerification (s : MbedTlsStream Cert) (answers : OpenAnswers Cert) :
    Bool × MbedTlsStream Cert :=
  (!isVerifyFailure answers.verifyResult, s.library .getVerifyResult [])

/-- `SolidSyslogStream_Open` of the transport. -/
def openTransport (s : MbedTlsStream Cert) (answers : OpenAnswers Cert) :
    Bool × MbedTlsStream Cert :=
  (answers.transportOpens, s.emit (.transportOpen answers.transportOpens))

/-- The policies and the credentials of `MbedTlsStream_Establish`. -/
def secure (s : MbedTlsStream Cert) (answers : OpenAnswers Cert) : Bool × MbedTlsStream Cert :=
  let s := s.applyTlsPolicy.applyCipherPolicy.applyCertProfilePolicy
  andThen (andThen (s.installCredentials answers) (·.bindContextToConfig answers))
    (·.configureExpectedHostname answers)

/-- The handshake of `MbedTlsStream_Establish`. -/
def shakeHands (s : MbedTlsStream Cert) (answers : OpenAnswers Cert) : Bool × MbedTlsStream Cert :=
  andThen (s.installTransportCallbacks.performHandshake D answers)
    (·.peerPassedVerification answers)

/-- The fields `MbedTlsStream_Establish` sets first. -/
def startAfresh (s : MbedTlsStream Cert) (answers : OpenAnswers Cert) : MbedTlsStream Cert :=
  { s.pullProfile answers with refusedVerdict := 0, pinVerdict := .noMatch, judged := [] }

/-- `MbedTlsStream_Establish`, up to its verdict. -/
def attempt (s : MbedTlsStream Cert) (answers : OpenAnswers Cert) : Bool × MbedTlsStream Cert :=
  andThen (andThen (andThen ((s.startAfresh answers).openTransport answers)
    (·.applySslConfigDefaults answers)) (·.secure answers)) (·.shakeHands D answers)

/-- `MbedTlsStream_Establish`. -/
def establish (s : MbedTlsStream Cert) (answers : OpenAnswers Cert) : Bool × MbedTlsStream Cert :=
  closeOnFailure close answers.closeIo (s.attempt D answers)

/-- `MbedTlsStream_Open`. -/
def openStream (s : MbedTlsStream Cert) (answers : OpenAnswers Cert) : Bool × MbedTlsStream Cert :=
  if s.credentialsInstalled then (false, s) else s.establish D answers

/-! ## Read and send -/

/-- `MbedTlsStream_Read`: how many bytes, or none where it closes. -/
def read (s : MbedTlsStream Cert) (io : List TransportIo) (result : ReadResult)
    (closeIo : List TransportIo) : Option Nat × MbedTlsStream Cert :=
  readOrClose (fun s io _ => s.library .read io) close s io result closeIo

/-- `MbedTlsStream_Send`. -/
def send (s : MbedTlsStream Cert) (size : Nat) (answers : SendAnswers) :
    Bool × MbedTlsStream Cert :=
  sendOrClose (fun s io _ => s.library .read io) close (library · .write ·) answers size s

/-! ## Runs -/

/-- A call of the stream, with what is answered to it. -/
inductive Move (Cert : Type) where
  | openStream (answers : OpenAnswers Cert)
  | send (size : Nat) (answers : SendAnswers)
  | read (answers : ReadAnswers)
  | close (closeIo : List TransportIo)

/-- One call, between the entries that it begins and that it returns. -/
def move (s : MbedTlsStream Cert) : Move Cert → Option (MbedTlsStream Cert)
  | .openStream answers =>
    let r := (s.emit (.called .openStream)).openStream D answers
    some (r.2.emit (.returned (.opened r.1)))
  | .send size answers =>
    let r := (s.emit (.called .send)).send size answers
    some (r.2.emit (.returned (.sent r.1)))
  | .read answers =>
    let r := (s.emit (.called .read)).read answers.io answers.result answers.closeIo
    some (r.2.emit (.returned (.read r.1)))
  | .close closeIo => some (((s.emit (.called .close)).close closeIo).emit (.returned .closed))

/-- A stream that was never opened. -/
def initial : MbedTlsStream Cert :=
  ⟨false, .none, ⟨none, false, false⟩, 0, .noMatch, [], []⟩

end MbedTlsStream

end SolidSyslog.Tls
