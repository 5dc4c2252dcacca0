import SolidSyslog.Tls.MbedTlsPairing
import SolidSyslog.Tls.WolfSslPairing

/-!
# TLS streams pair their credentials and their transport

What holds of a run of either stream, and a run of each in which an `Open` is refused, a `Send` and
a `Read` fail, and a fresh `Open` follows.
-/

namespace SolidSyslog.Tls

open Lib

/-- In every run of either stream, whatever is answered, installs and releases alternate, the
material is let go of ahead of a release, and every answer that closes the stream leaves nothing
behind. -/
theorem streams_pair_credentials_and_transport {Cert : Type}
    {D : HashAlgorithm → Cert → Option Bytes}
    {anchoredPinCheck : AnchoredPinCheck} {mbed : MbedTlsStream Cert} {wolf : WolfSslStream}
    (hmbed : Reached (MbedTlsStream.move D) anyMove MbedTlsStream.initial mbed)
    (hwolf : Reached (WolfSslStream.move anchoredPinCheck) anyMove WolfSslStream.initial wolf) :
    Always (Admissible MbedTlsCall.frees) mbed.trace ∧
      Always (Admissible WolfSslCall.frees) wolf.trace :=
  ⟨(MbedTlsStream.resting_of_reached hmbed).atRest.running.admissible,
    (WolfSslStream.resting_of_reached hwolf).atRest.running.admissible⟩

/-! ## Runs -/

/-- Credentials with trust anchors and no pin. -/
def anchored : CredentialsInstalled :=
  ⟨true, .list []⟩

/-- Nothing goes wrong but for the handshake, which ends as given. -/
def mbedTlsAnswers (result : HandshakeResult) : OpenAnswers Unit where
  profile := ⟨none, true, false⟩
  transportOpens := true
  defaultsApplied := true
  installs := true
  installed := anchored
  isSetUp := true
  hostnameSet := true
  handshakeTimeoutMs := 5
  handshake _ := ⟨[.send true, .read 3], [(0, (), 0)], result⟩
  verifyResult := 0
  closeIo := [.send true]

/-- The same over wolfSSL. -/
def wolfSslAnswers (result : HandshakeResult) : WolfSslOpenAnswers where
  profile := ⟨none, none⟩
  transportOpens := true
  contextBuilt := true
  installs := true
  installed := anchored
  sessionCreated := true
  minVersionSet := true
  minRsaKeySet := true
  minEccKeySet := true
  minDhKeySet := true
  cipherListSet := true
  nameDeclared := true
  sniUsed := true
  handshakeTimeoutMs := 5
  connect _ := ⟨[.send true, .read 3], [⟨true, 0, fun _ => none, 0⟩], result⟩
  keptPeer _ := none
  closeIo := [.send true]

/-- A send of one byte with nothing to read ahead of it. -/
def oneByteSend (result : Int) : SendAnswers :=
  ⟨fun _ => ([], .wantRead), [.send true], result, []⟩

def noDigest (_ : HashAlgorithm) (_ : Unit) : Option Bytes :=
  none

/-- A handshake times out, the next is completed, another `Open` is refused, a `Send` succeeds and
the next fails, and the stream is opened again and closed by a failed `Read`. -/
def mbedTlsMoves : List (MbedTlsStream.Move Unit) :=
  [.openStream (mbedTlsAnswers .wantIo), .openStream (mbedTlsAnswers .done),
    .openStream (mbedTlsAnswers .done), .send 1 (oneByteSend 1), .send 1 (oneByteSend (-1)),
    .openStream (mbedTlsAnswers .done), .read ⟨[.read (-1)], .failed, []⟩]

/-- The same over wolfSSL. -/
def wolfSslMoves : List WolfSslStream.Move :=
  [.openStream (wolfSslAnswers .wantIo), .openStream (wolfSslAnswers .done),
    .openStream (wolfSslAnswers .done), .send 1 (oneByteSend 1), .send 1 (oneByteSend (-1)),
    .openStream (wolfSslAnswers .done), .read ⟨[.read (-1)], .failed, []⟩]

/-- What a trace answers. -/
def answersOf {L : Type} (t : List (TlsEvent L)) : List TlsAnswer :=
  t.filterMap fun
    | .returned answer => some answer
    | _ => none

/-- What either stream answers to these moves. -/
def sessionAnswers : List TlsAnswer :=
  [.opened false, .opened true, .opened false, .sent true, .sent false, .opened true, .read none]

theorem sessions_paired : ∃ mbed wolf,
    runMoves (MbedTlsStream.move noDigest) anyMove MbedTlsStream.initial mbedTlsMoves = some mbed ∧
    runMoves (WolfSslStream.move .refused) anyMove WolfSslStream.initial wolfSslMoves = some wolf ∧
    answersOf mbed.trace = sessionAnswers ∧ answersOf wolf.trace = sessionAnswers ∧
    Always (Admissible MbedTlsCall.frees) mbed.trace ∧
    Always (Admissible WolfSslCall.frees) wolf.trace := by
  have hmbed : (runMoves (MbedTlsStream.move noDigest) anyMove MbedTlsStream.initial
      mbedTlsMoves).map (answersOf ·.trace) = some sessionAnswers := by
    decide +kernel
  have hwolf : (runMoves (WolfSslStream.move .refused) anyMove WolfSslStream.initial
      wolfSslMoves).map (answersOf ·.trace) = some sessionAnswers := by
    decide +kernel
  obtain ⟨mbed, hmbedRun, hmbedAnswers⟩ := Option.map_eq_some_iff.1 hmbed
  obtain ⟨wolf, hwolfRun, hwolfAnswers⟩ := Option.map_eq_some_iff.1 hwolf
  obtain ⟨hmbedPaired, hwolfPaired⟩ := streams_pair_credentials_and_transport
    (Reached.of_runMoves hmbedRun) (Reached.of_runMoves hwolfRun)
  exact ⟨mbed, wolf, hmbedRun, hwolfRun, hmbedAnswers, hwolfAnswers, hmbedPaired, hwolfPaired⟩

end SolidSyslog.Tls
