import SolidSyslog.Lib.Interleaving
import SolidSyslog.Tls.MbedTlsStream

/-!
# The Mbed TLS stream pairs its credentials and its transport

Whatever is answered to its calls, the stream keeps to what it owes its credentials and its
transport: `Close` frees the `ssl_config` ahead of the release, and every `Open` that fails closes.
-/

namespace SolidSyslog.Tls

open Lib

namespace MbedTlsStream

variable {Cert : Type} {D : HashAlgorithm → Cert → Option Bytes} {s s' : MbedTlsStream Cert}
  {openAnswers : OpenAnswers Cert}

theorem keeps_library (s : MbedTlsStream Cert) (call : MbedTlsCall) (hcall : call.frees = false)
    (io : List TransportIo) : Keeps s (s.library call io) :=
  ⟨extends_library hcall io, rfl, rfl⟩

theorem keeps_verifyPeers (s : MbedTlsStream Cert) (presented : List (Nat × Cert × UInt32)) :
    Keeps s (s.verifyPeers D presented) := by
  refine ⟨?_, by simp [TlsState.credentialsInstalled], rfl⟩
  rw [show TlsState.trace (s.verifyPeers D presented) =
    TlsState.trace s from verifyPeers_trace D s _]
  exact .refl _

theorem keeps_handshakeFrom (s : MbedTlsStream Cert) (steps : Nat → HandshakeStep Cert)
    (attempt totalSleptMs budgetMs : Nat) :
    Keeps s (s.handshakeFrom D steps attempt totalSleptMs budgetMs).2 := by
  have hstep : ∀ (s : MbedTlsStream Cert) step, Keeps s (s.handshakeStep D step) :=
    fun s step => (keeps_verifyPeers s step.presented).trans (keeps_library _ .handshake rfl _)
  induction s, attempt, totalSleptMs using handshakeFrom.induct D steps budgetMs with
  | case1 s attempt totalSleptMs hdone =>
    rw [handshakeFrom, hdone]
    exact hstep s _
  | case2 s attempt totalSleptMs hfailed =>
    rw [handshakeFrom, hfailed]
    exact hstep s _
  | case3 s attempt totalSleptMs hwant hspent =>
    rw [handshakeFrom, hwant]
    dsimp only
    rw [if_pos hspent]
    exact hstep s _
  | case4 s attempt totalSleptMs s₁ hwant hleft ih =>
    rw [handshakeFrom, hwant]
    dsimp only
    rw [if_neg hleft]
    exact (hstep s _).trans ih

/-! ## Close -/

theorem shut_close (h : Going s) (closeIo : List TransportIo) : Shut (s.close closeIo) := by
  have hquiet : Keeps s ((s.library .closeNotify closeIo).library .sslFree []) :=
    (keeps_library s .closeNotify rfl closeIo).trans (keeps_library _ .sslFree rfl [])
  unfold close releaseCredentials
  dsimp only
  generalize (s.library .closeNotify closeIo).library .sslFree [] = s₁ at hquiet
  rcases h.cases with hholding | hbare
  · have hheld := hquiet.holding hholding
    have hflag : (s₁.library .sslConfigFree []).credentialsInstalled = true := hheld.flag
    rw [if_pos hflag]
    apply @Holding.shut _ _ _ s₁ _ hheld .sslConfigFree rfl
    · simp [TlsState.trace, library, emit]
    · rfl
  · have hshut := hquiet.bare hbare
    have hflag : (s₁.library .sslConfigFree []).credentialsInstalled = false := hshut.flag
    rw [if_neg (by simp [hflag])]
    have hfreed : Bare (s₁.library .sslConfigFree []) :=
      @Bare.free _ _ _ s₁ _ hshut .sslConfigFree rfl (by simp [TlsState.trace, library]) rfl
    exact hfreed.shut

/-! ## Open -/

theorem keeps_applyPolicies (s : MbedTlsStream Cert) :
    Keeps s s.applyTlsPolicy.applyCipherPolicy.applyCertProfilePolicy := by
  have htls : Keeps s s.applyTlsPolicy :=
    ((keeps_library s .confMinTlsVersion rfl []).trans
      (keeps_library _ .confLegacyRenegotiation rfl [])).trans (keeps_library _ .confRng rfl [])
  have hcipher : ∀ s : MbedTlsStream Cert, Keeps s s.applyCipherPolicy := by
    intro s
    unfold applyCipherPolicy
    split
    · exact keeps_library s .confCiphersuites rfl []
    · exact .refl s
  have hprofile : ∀ s : MbedTlsStream Cert, Keeps s s.applyCertProfilePolicy := by
    intro s
    unfold applyCertProfilePolicy
    split
    · exact keeps_library s .confCertProfile rfl []
    · exact .refl s
  exact (htls.trans (hcipher _)).trans (hprofile _)

theorem keeps_applyPeerVerificationPolicy (s : MbedTlsStream Cert) :
    Keeps s s.applyPeerVerificationPolicy :=
  (keeps_library s (.confAuthmode _) rfl []).trans (keeps_library _ .confVerify rfl [])

theorem attempted_installCredentials (h : Bare s) :
    Attempted Going Holding (s.installCredentials openAnswers) := by
  have hinstalled : Holding { { s with installed := .none, credentialsInstalled := true }.emit
      (.install openAnswers.installs) with installed := openAnswers.installed } :=
    h.install rfl rfl rfl
  unfold installCredentials
  dsimp only
  split
  · exact (keeps_applyPeerVerificationPolicy _).attempted_holding hinstalled
  · exact .of_false rfl hinstalled.going

theorem attempted_configureExpectedHostname (h : Holding s) :
    Attempted Going Holding (s.configureExpectedHostname openAnswers) := by
  unfold configureExpectedHostname
  split
  · exact (keeps_library s (.setHostname none) rfl []).attempted_holding h
  · exact (keeps_library s (.setHostname none) rfl []).attempted_holding h
  · split
    · exact .of_false rfl h.going
    · exact (keeps_library s (.setHostname (some _)) rfl []).attempted_holding h

/-- The install and the steps that bind the session to it. -/
theorem attempted_secure (h : Bare s) : Attempted Going Holding (s.secure openAnswers) := by
  have hpolicies := (keeps_applyPolicies s).bare h
  unfold secure
  dsimp only
  generalize s.applyTlsPolicy.applyCipherPolicy.applyCertProfilePolicy = s₁ at hpolicies
  have hinstalled : Attempted Going Holding (s₁.installCredentials openAnswers) :=
    attempted_installCredentials hpolicies
  have hbound : Attempted Going Holding (andThen (s₁.installCredentials openAnswers)
      (·.bindContextToConfig openAnswers)) :=
    hinstalled.andThen fun s hs => (keeps_library s .sslSetup rfl []).attempted_holding hs
  exact hbound.andThen fun s hs => attempted_configureExpectedHostname hs

theorem attempted_shakeHands (h : Holding s) :
    Attempted Going Holding (s.shakeHands D openAnswers) := by
  have hcallbacks := keeps_library s .setBio rfl []
  have hshaken : Attempted Going Holding
    (s.installTransportCallbacks.performHandshake D openAnswers) :=
    (hcallbacks.trans (keeps_handshakeFrom _ _ 0 0 _)).attempted_holding h
  exact hshaken.andThen fun s hs => (keeps_library s .getVerifyResult rfl []).attempted_holding hs

theorem attempted_attempt (h : Bare s)
    (hclosed : (Session.of MbedTlsCall.frees s.trace).transportOpen = false) :
    Attempted Going Holding (s.attempt D openAnswers) := by
  have hafresh : Bare (s.startAfresh openAnswers) := ⟨h.running, h.flag⟩
  have hopened : Bare ((s.startAfresh openAnswers).openTransport openAnswers).2 :=
    hafresh.openTransport hclosed _
  have htransport : Attempted Going Bare ((s.startAfresh openAnswers).openTransport openAnswers) :=
    .of_both hopened.going fun _ => hopened
  have hdefaults : Attempted Going Bare (andThen
      ((s.startAfresh openAnswers).openTransport openAnswers)
      (·.applySslConfigDefaults openAnswers)) :=
    htransport.andThen fun s hs => (keeps_library s .sslConfigDefaults rfl []).attempted_bare hs
  have hsecured : Attempted Going Holding (andThen (andThen
      ((s.startAfresh openAnswers).openTransport openAnswers)
      (·.applySslConfigDefaults openAnswers)) (·.secure openAnswers)) :=
    hdefaults.andThen fun s hs => attempted_secure hs
  exact hsecured.andThen fun s hs => attempted_shakeHands hs

theorem attempted_establish (h : Bare s)
    (hclosed : (Session.of MbedTlsCall.frees s.trace).transportOpen = false) :
    Attempted Shut Holding (s.establish D openAnswers) :=
  closeOnFailure_spec (attempted_attempt h hclosed) (fun _ io hs => shut_close hs io) _

/-! ## Runs -/

theorem resting_initial : Resting (initial : MbedTlsStream Cert) :=
  ⟨atRest_initial, nofun⟩

/-- What one call keeps. -/
theorem resting_move {move : Move Cert} (h : Resting s) (hmoved : s.move D move = some s') :
    Resting s' := by
  have hread : ∀ (s : MbedTlsStream Cert) io (_ : ReadResult), Resting s →
      Resting (s.library .read io) :=
    fun s io _ hs => (keeps_library s .read rfl io).resting hs
  have hwrite : ∀ (s : MbedTlsStream Cert) io, Resting s → Resting (s.library .write io) :=
    fun s io hs => (keeps_library s .write rfl io).resting hs
  have hclose : ∀ (s : MbedTlsStream Cert) io, Resting s → Shut (s.close io) :=
    fun s io hs => shut_close hs.going io
  cases move with
  | openStream answers =>
    obtain rfl := Option.some.inj hmoved
    exact h.opens (·.establish D answers) (fun s hs => attempted_establish hs) rfl
  | send size answers =>
    obtain rfl := Option.some.inj hmoved
    exact h.sends fun s hs => sendOrClose_spec hread hclose hwrite answers size hs
  | read answers =>
    obtain rfl := Option.some.inj hmoved
    exact h.reads fun s hs => readOrClose_spec hread hclose hs _ _ _
  | close closeIo =>
    obtain rfl := Option.some.inj hmoved
    exact h.closes fun s hs => shut_close hs closeIo

theorem resting_of_reached (h : Reached (MbedTlsStream.move D) anyMove initial s) : Resting s :=
  h.invariant (I := Resting) resting_initial fun hs _ hmoved => resting_move hs hmoved

end MbedTlsStream

end SolidSyslog.Tls
