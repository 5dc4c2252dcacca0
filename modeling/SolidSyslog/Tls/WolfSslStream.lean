import SolidSyslog.Tls.Stream

/-!
# The TLS stream over wolfSSL

`SolidSyslogWolfSslStream.c`, with the answer of the build it is part of to a pin beside trust
anchors. What wolfSSL, the credentials, the transport and the integrator's getters answer in a call
comes with it, and a handshake calls back for the checks a certificate fails.
-/

namespace SolidSyslog.Tls

open Lib

/-- A call of wolfSSL. -/
inductive WolfSslCall where
  | ctxNew
  | new
  | setMinVersion
  | setMinRsaKeySz
  | setMinEccKeySz
  | setMinDhKeySz
  | setCipherList (list : Bytes)
  | checkIpAddress (name : Bytes)
  | checkDomainName (name : Bytes)
  | useSni (name : Bytes)
  | setIoRecv
  | setIoSend
  | setIoReadCtx
  | setIoWriteCtx
  | setVerify
  | setCertCbCtx
  | connect
  | getError
  | getPeerCertificate
  | getDer
  | freePeerCertificate
  | read
  | write
  | shutdown
  | free
  | ctxFree
  deriving DecidableEq

/-- The context holds what the credentials install. -/
def WolfSslCall.frees (call : WolfSslCall) : Bool :=
  call = .ctxFree

/-- `enum SolidSyslogWolfSslAnchoredPinCheck`: what a build does about a pin beside trust
anchors. -/
inductive AnchoredPinCheck where
  | inCallback
  | afterHandshake
  | refused
  deriving DecidableEq

/-- `struct SolidSyslogWolfSslProfile`. -/
structure WolfSslProfile where
  serverName : Option Bytes
  cipherList : Option Bytes

/-- One call of the verify callback: what wolfSSL makes of the certificate, the digests of the leaf
and what `wc_ParseCert` finds wrong with the certificate on its own. -/
structure VerifyCall where
  preverify : Bool
  error : Int
  digest : HashAlgorithm → Option Bytes
  parseError : Int

/-- One call of `wolfSSL_connect`, with the error that `wolfSSL_get_error` makes of it. -/
structure ConnectStep where
  io : List TransportIo
  verifies : List VerifyCall
  result : HandshakeResult

/-- What is answered to an `Open`. -/
structure WolfSslOpenAnswers where
  profile : WolfSslProfile
  transportOpens : Bool
  contextBuilt : Bool
  installs : Bool
  installed : CredentialsInstalled
  sessionCreated : Bool
  minVersionSet : Bool
  minRsaKeySet : Bool
  minEccKeySet : Bool
  minDhKeySet : Bool
  cipherListSet : Bool
  nameDeclared : Bool
  sniUsed : Bool
  handshakeTimeoutMs : Nat
  connect : Nat → ConnectStep
  keptPeer : HashAlgorithm → Option Bytes
  closeIo : List TransportIo

/-- `struct SolidSyslogWolfSslStream`, with its calls so far. -/
structure WolfSslStream where
  context : Bool
  session : Bool
  credentialsInstalled : Bool
  installed : CredentialsInstalled
  profile : WolfSslProfile
  peerPinned : Bool
  trace : List (TlsEvent WolfSslCall)

/-- `ASN_NO_SIGNER_E`. -/
def asnNoSignerE : Int := -188

namespace WolfSslStream

variable (anchoredPinCheck : AnchoredPinCheck)

def emit (s : WolfSslStream) (event : TlsEvent WolfSslCall) : WolfSslStream :=
  { s with trace := s.trace ++ [event] }

/-- The context is built anew for each connection. -/
instance : TlsState WolfSslStream WolfSslCall where
  trace := WolfSslStream.trace
  credentialsInstalled := WolfSslStream.credentialsInstalled
  hasHolder := WolfSslStream.context
  frees := WolfSslCall.frees
  emit := emit
  trace_emit _ _ := rfl
  credentialsInstalled_emit _ _ := rfl
  hasHolder_emit _ _ := rfl

/-- A call of the library with the I/O it does. -/
def library (s : WolfSslStream) (call : WolfSslCall) (io : List TransportIo) : WolfSslStream :=
  { s with trace := s.trace ++ io.map TransportIo.event ++ [.library call] }

/-! ## Close -/

/-- `WolfSslStream_ReleaseCredentials`. -/
def releaseCredentials (s : WolfSslStream) : WolfSslStream :=
  if s.credentialsInstalled then { s with credentialsInstalled := false }.emit .release else s

/-- The session goes first in `WolfSslStream_Close`. -/
def freeSession (s : WolfSslStream) (closeIo : List TransportIo) : WolfSslStream :=
  if s.session then
    { (s.library .shutdown closeIo).library .free [] with session := false }
  else s

/-- Then the context. -/
def freeContext (s : WolfSslStream) : WolfSslStream :=
  if s.context then { s.library .ctxFree [] with context := false } else s

/-- `WolfSslStream_Close`. -/
def close (s : WolfSslStream) (closeIo : List TransportIo) : WolfSslStream :=
  ((s.freeSession closeIo).freeContext.releaseCredentials).emit .transportClose

/-! ## The verify callback -/

/-- `WolfSslStream_IsPinned`. -/
def isPinned (s : WolfSslStream) : Bool :=
  0 < s.installed.fingerprints.count

/-- `WolfSslStream_IsMissingSignerAPinCanWaive`. -/
def isMissingSignerAPinCanWaive (s : WolfSslStream) (store : VerifyCall) : Bool :=
  s.isPinned && !s.installed.trustAnchorsInstalled && store.error = asnNoSignerE

/-- `WolfSslStream_IsPinCheckedHere`. -/
def isPinCheckedHere (s : WolfSslStream) (store : VerifyCall) : Bool :=
  s.isPinned && (!s.installed.trustAnchorsInstalled || store.error ≠ 0 ||
    anchoredPinCheck = .inCallback)

/-- `SolidSyslogWolfSslStream_AuthoriseLeaf`. -/
def authoriseLeaf (s : WolfSslStream) (digest : HashAlgorithm → Option Bytes) :
    Bool × WolfSslStream :=
  let peerPinned := s.installed.fingerprints.authorise digest = .matched
  (peerPinned, { s with peerPinned := peerPinned })

/-- `WolfSslStream_StandsWithoutASigner`. -/
def standsWithoutASigner (store : VerifyCall) : Bool :=
  store.parseError = 0

/-- `WolfSslStream_VerifyPeer`. -/
def verifyPeer (s : WolfSslStream) (store : VerifyCall) : Bool × WolfSslStream :=
  if s.isMissingSignerAPinCanWaive store then
    let (matchesAPin, s) := s.authoriseLeaf store.digest
    (matchesAPin && standsWithoutASigner store, s)
  else if s.isPinCheckedHere anchoredPinCheck store then
    let (matchesAPin, s) := s.authoriseLeaf store.digest
    (store.preverify && matchesAPin, s)
  else (store.preverify, s)

/-- The library calls back for some checks, and acts on the verdicts. -/
def verifyPeers (s : WolfSslStream) (verifies : List VerifyCall) : WolfSslStream :=
  verifies.foldl (fun s store => (s.verifyPeer anchoredPinCheck store).2) s

/-! ## Open -/

/-- `WolfSslStream_PullProfile`. -/
def pullProfile (s : WolfSslStream) (answers : WolfSslOpenAnswers) : WolfSslStream :=
  { s with profile := answers.profile }

/-- `SolidSyslogStream_Open` of the transport. -/
def openTransport (s : WolfSslStream) (answers : WolfSslOpenAnswers) : Bool × WolfSslStream :=
  (answers.transportOpens, s.emit (.transportOpen answers.transportOpens))

/-- `WolfSslStream_BuildContext`. -/
def buildContext (s : WolfSslStream) (answers : WolfSslOpenAnswers) : Bool × WolfSslStream :=
  (answers.contextBuilt, { s.library .ctxNew [] with context := answers.contextBuilt })

/-- `WolfSslStream_PeerIsAuthorisable`. -/
def peerIsAuthorisable (installed : CredentialsInstalled) : Bool :=
  installed.trustAnchorsInstalled || 0 < installed.fingerprints.count

/-- `WolfSslStream_FingerprintsAreUsable`. -/
def fingerprintsAreUsable (installed : CredentialsInstalled) : Bool :=
  installed.fingerprints.inspect ≠ .malformed

/-- `WolfSslStream_BuildCanEnforceBoth`. -/
def buildCanEnforceBoth (installed : CredentialsInstalled) : Bool :=
  !(installed.trustAnchorsInstalled && 0 < installed.fingerprints.count) ||
    anchoredPinCheck ≠ .refused

/-- `WolfSslStream_InstallCredentials`. -/
def installCredentials (s : WolfSslStream) (answers : WolfSslOpenAnswers) : Bool × WolfSslStream :=
  let s := { s with installed := .none, credentialsInstalled := true }
  let s := { s.emit (.install answers.installs) with installed := answers.installed }
  (answers.installs && peerIsAuthorisable s.installed && fingerprintsAreUsable s.installed &&
    buildCanEnforceBoth anchoredPinCheck s.installed, s)

/-- `WolfSslStream_CreateSession`. -/
def createSession (s : WolfSslStream) (answers : WolfSslOpenAnswers) : Bool × WolfSslStream :=
  (answers.sessionCreated, { s.library .new [] with session := answers.sessionCreated })

/-- A call of the library that succeeds or not. -/
def configure (s : WolfSslStream) (call : WolfSslCall) (ok : Bool) : Bool × WolfSslStream :=
  (ok, s.library call [])

/-- `WolfSslStream_ApplyTlsPolicy`. -/
def applyTlsPolicy (s : WolfSslStream) (answers : WolfSslOpenAnswers) : Bool × WolfSslStream :=
  andThen (andThen (andThen (s.configure .setMinVersion answers.minVersionSet)
    (·.configure .setMinRsaKeySz answers.minRsaKeySet))
    (·.configure .setMinEccKeySz answers.minEccKeySet))
    (·.configure .setMinDhKeySz answers.minDhKeySet)

/-- `WolfSslStream_ApplyCipherPolicy`. -/
def applyCipherPolicy (s : WolfSslStream) (answers : WolfSslOpenAnswers) : Bool × WolfSslStream :=
  match s.profile.cipherList with
  | some list => s.configure (.setCipherList list) answers.cipherListSet
  | none => (true, s)

/-- `WolfSslStream_IsDigitOrDot`. -/
def isDigitOrDot (c : UInt8) : Bool :=
  (0x30 ≤ c && c ≤ 0x39) || c = 0x2E

/-- `WolfSslStream_IsAddressLiteral`. -/
def isAddressLiteral (name : Bytes) : Bool :=
  name.contains 0x3A || name.all isDigitOrDot

/-- `WolfSslStream_DeclareExpectedPeer`. -/
def declareExpectedPeer (s : WolfSslStream) (serverName : Bytes) (answers : WolfSslOpenAnswers) :
    Bool × WolfSslStream :=
  s.configure (if isAddressLiteral serverName then .checkIpAddress serverName
    else .checkDomainName serverName) answers.nameDeclared

/-- `WolfSslStream_ApplyExpectedPeerName`. -/
def applyExpectedPeerName (s : WolfSslStream) (serverName : Bytes) (answers : WolfSslOpenAnswers) :
    Bool × WolfSslStream :=
  andThen (s.declareExpectedPeer serverName answers)
    (·.configure (.useSni serverName) answers.sniUsed)

/-- `WolfSslStream_ConfigureExpectedPeerName`. -/
def configureExpectedPeerName (s : WolfSslStream) (answers : WolfSslOpenAnswers) :
    Bool × WolfSslStream :=
  match s.profile.serverName with
  | none => (true, s)
  | some [] => (true, s)
  | some (first :: name) => s.applyExpectedPeerName (first :: name) answers

/-- `WolfSslStream_InstallTransportCallbacks`. -/
def installTransportCallbacks (s : WolfSslStream) : WolfSslStream :=
  (((s.library .setIoRecv []).library .setIoSend []).library .setIoReadCtx []).library
    .setIoWriteCtx []

/-- `WolfSslStream_ApplyPeerVerificationPolicy`. -/
def applyPeerVerificationPolicy (s : WolfSslStream) : WolfSslStream :=
  (s.library .setVerify []).library .setCertCbCtx []

/-- `SolidSyslogWolfSslStream_AuthoriseKeptPeer`: only a build that checks the pin after the
handshake has kept the peer's certificate. -/
def authoriseKeptPeer (s : WolfSslStream) (answers : WolfSslOpenAnswers) : WolfSslStream :=
  match anchoredPinCheck with
  | .afterHandshake =>
    let s := (s.library .getPeerCertificate []).library .getDer []
    (s.authoriseLeaf answers.keptPeer).2.library .freePeerCertificate []
  | .inCallback | .refused => s

/-- `WolfSslStream_PinIsConfirmed`. -/
def pinIsConfirmed (s : WolfSslStream) (answers : WolfSslOpenAnswers) : Bool × WolfSslStream :=
  let s := if s.isPinned && !s.peerPinned then s.authoriseKeptPeer anchoredPinCheck answers else s
  (!s.isPinned || s.peerPinned, s)

/-- One turn of the loop of `WolfSslStream_PerformHandshake`. -/
def connectStep (s : WolfSslStream) (step : ConnectStep) : WolfSslStream :=
  ((s.verifyPeers anchoredPinCheck step.verifies).library .connect step.io).library .getError []

/-- The loop of `WolfSslStream_PerformHandshake`, from the attempt with that number on. -/
def connectFrom (s : WolfSslStream) (answers : WolfSslOpenAnswers) (attempt totalSleptMs : Nat) :
    Bool × WolfSslStream :=
  let s := s.connectStep anchoredPinCheck (answers.connect attempt)
  match (answers.connect attempt).result with
  | .done => s.pinIsConfirmed anchoredPinCheck answers
  | .failed => (false, s)
  | .wantIo =>
    if answers.handshakeTimeoutMs ≤ totalSleptMs then (false, s)
    else connectFrom s answers (attempt + 1)
      (totalSleptMs + handshakePollMs totalSleptMs answers.handshakeTimeoutMs)
termination_by answers.handshakeTimeoutMs - totalSleptMs
decreasing_by
  have hpos := handshakePollMs_pos ‹_›
  omega

/-- `WolfSslStream_PerformHandshake`. -/
def performHandshake (s : WolfSslStream) (answers : WolfSslOpenAnswers) : Bool × WolfSslStream :=
  s.connectFrom anchoredPinCheck answers 0 0

/-- The transport, the context and the credentials of `WolfSslStream_Establish`. -/
def equip (s : WolfSslStream) (answers : WolfSslOpenAnswers) : Bool × WolfSslStream :=
  andThen (andThen (s.openTransport answers) (·.buildContext answers))
    (·.installCredentials anchoredPinCheck answers)

/-- The session of `WolfSslStream_Establish`. -/
def prepare (s : WolfSslStream) (answers : WolfSslOpenAnswers) : Bool × WolfSslStream :=
  andThen (andThen (andThen (s.createSession answers) (·.applyTlsPolicy answers))
    (·.applyCipherPolicy answers)) (·.configureExpectedPeerName answers)

/-- The handshake of `WolfSslStream_Establish`. -/
def shakeHands (s : WolfSslStream) (answers : WolfSslOpenAnswers) : Bool × WolfSslStream :=
  s.installTransportCallbacks.applyPeerVerificationPolicy.performHandshake anchoredPinCheck answers

/-- `WolfSslStream_Establish`, up to its verdict. -/
def attempt (s : WolfSslStream) (answers : WolfSslOpenAnswers) : Bool × WolfSslStream :=
  let s := { s.pullProfile answers with peerPinned := false }
  andThen (andThen (s.equip anchoredPinCheck answers) (·.prepare answers))
    (·.shakeHands anchoredPinCheck answers)

/-- `WolfSslStream_Establish`. -/
def establish (s : WolfSslStream) (answers : WolfSslOpenAnswers) : Bool × WolfSslStream :=
  closeOnFailure close answers.closeIo (s.attempt anchoredPinCheck answers)

/-- `WolfSslStream_Open`. -/
def openStream (s : WolfSslStream) (answers : WolfSslOpenAnswers) : Bool × WolfSslStream :=
  if s.credentialsInstalled then (false, s) else s.establish anchoredPinCheck answers

/-! ## Read and send -/

/-- `wolfSSL_read`, and `wolfSSL_get_error` where no bytes are read. -/
def readSession (s : WolfSslStream) (io : List TransportIo) (result : ReadResult) : WolfSslStream :=
  match result with
  | .bytes (_ + 1) => s.library .read io
  | .bytes 0 | .wantRead | .failed => (s.library .read io).library .getError []

/-- `WolfSslStream_Read`: how many bytes, or none where it closes. -/
def read (s : WolfSslStream) (io : List TransportIo) (result : ReadResult)
    (closeIo : List TransportIo) : Option Nat × WolfSslStream :=
  readOrClose readSession close s io result closeIo

/-- `WolfSslStream_Send`. -/
def send (s : WolfSslStream) (size : Nat) (answers : SendAnswers) : Bool × WolfSslStream :=
  sendOrClose readSession close (library · .write ·) answers size s

/-! ## Runs -/

/-- A call of the stream, with what is answered to it. -/
inductive Move where
  | openStream (answers : WolfSslOpenAnswers)
  | send (size : Nat) (answers : SendAnswers)
  | read (answers : ReadAnswers)
  | close (closeIo : List TransportIo)

/-- One call, between the entries that it begins and that it returns. -/
def move (s : WolfSslStream) : Move → Option WolfSslStream
  | .openStream answers =>
    let r := (s.emit (.called .openStream)).openStream anchoredPinCheck answers
    some (r.2.emit (.returned (.opened r.1)))
  | .send size answers =>
    let r := (s.emit (.called .send)).send size answers
    some (r.2.emit (.returned (.sent r.1)))
  | .read answers =>
    let r := (s.emit (.called .read)).read answers.io answers.result answers.closeIo
    some (r.2.emit (.returned (.read r.1)))
  | .close closeIo => some (((s.emit (.called .close)).close closeIo).emit (.returned .closed))

/-- A stream that was never opened. -/
def initial : WolfSslStream :=
  ⟨false, false, false, .none, ⟨none, none⟩, false, []⟩

end WolfSslStream

end SolidSyslog.Tls
