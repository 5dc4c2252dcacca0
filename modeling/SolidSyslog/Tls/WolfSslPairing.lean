import SolidSyslog.Lib.Interleaving
import SolidSyslog.Tls.WolfSslStream

/-!
# The wolfSSL stream pairs its credentials and its transport

As over Mbed TLS, except that the context that holds the installed material is made by each `Open`:
the credentials are never installed without one, so that `Close` has one to free ahead of the
release.
-/

namespace SolidSyslog.Tls

open Lib

namespace WolfSslStream

variable {anchoredPinCheck : AnchoredPinCheck} {s s' : WolfSslStream} {answers : WolfSslOpenAnswers}

theorem keeps_library (s : WolfSslStream) (call : WolfSslCall) (hcall : call.frees = false)
    (io : List TransportIo) : Keeps s (s.library call io) :=
  ⟨extends_library hcall io, rfl, rfl⟩

/-! ## The handshake -/

theorem keeps_authoriseLeaf (s : WolfSslStream) (digest : HashAlgorithm → Option Bytes) :
    Keeps s (s.authoriseLeaf digest).2 :=
  ⟨.refl _, rfl, rfl⟩

theorem keeps_verifyPeer (s : WolfSslStream) (store : VerifyCall) :
    Keeps s (s.verifyPeer anchoredPinCheck store).2 := by
  unfold verifyPeer
  split
  · exact keeps_authoriseLeaf s _
  · split
    · exact keeps_authoriseLeaf s _
    · exact .refl s

theorem keeps_verifyPeers (s : WolfSslStream) (verifies : List VerifyCall) :
    Keeps s (s.verifyPeers anchoredPinCheck verifies) := by
  induction verifies generalizing s with
  | nil => exact .refl s
  | cons store verifies ih => exact (keeps_verifyPeer s store).trans (ih _)

theorem keeps_authoriseKeptPeer (s : WolfSslStream) :
    Keeps s (s.authoriseKeptPeer anchoredPinCheck answers) := by
  unfold authoriseKeptPeer
  split
  · have hpeer := (keeps_library s .getPeerCertificate rfl []).trans
      (keeps_library _ .getDer rfl [])
    exact (hpeer.trans (keeps_authoriseLeaf _ _)).trans
      (keeps_library _ .freePeerCertificate rfl [])
  · exact .refl s
  · exact .refl s

theorem keeps_pinIsConfirmed (s : WolfSslStream) :
    Keeps s (s.pinIsConfirmed anchoredPinCheck answers).2 := by
  unfold pinIsConfirmed
  dsimp only
  split
  · exact keeps_authoriseKeptPeer s
  · exact .refl s

theorem keeps_connectFrom (s : WolfSslStream) (attempt totalSleptMs : Nat) :
    Keeps s (s.connectFrom anchoredPinCheck answers attempt totalSleptMs).2 := by
  have hstep : ∀ (s : WolfSslStream) step, Keeps s (s.connectStep anchoredPinCheck step) :=
    fun s step => ((keeps_verifyPeers s _).trans (keeps_library _ .connect rfl _)).trans
      (keeps_library _ .getError rfl [])
  induction s, attempt, totalSleptMs using connectFrom.induct anchoredPinCheck answers with
  | case1 s attempt totalSleptMs hdone =>
    rw [connectFrom, hdone]
    exact (hstep s _).trans (keeps_pinIsConfirmed _)
  | case2 s attempt totalSleptMs hfailed =>
    rw [connectFrom, hfailed]
    exact hstep s _
  | case3 s attempt totalSleptMs hwant hspent =>
    rw [connectFrom, hwant]
    dsimp only
    rw [if_pos hspent]
    exact hstep s _
  | case4 s attempt totalSleptMs s₁ hwant hleft ih =>
    rw [connectFrom, hwant]
    dsimp only
    rw [if_neg hleft]
    exact (hstep s _).trans ih

/-! ## Close -/

theorem keeps_freeSession (s : WolfSslStream) (closeIo : List TransportIo) :
    Keeps s (s.freeSession closeIo) := by
  have hshutdown := keeps_library s .shutdown rfl closeIo
  have hfree := keeps_library (s.library .shutdown closeIo) .free rfl []
  unfold freeSession
  split
  · exact ⟨(hshutdown.trans hfree).trace, rfl, rfl⟩
  · exact .refl s

theorem releaseCredentials_of_installed (h : s.credentialsInstalled = true) :
    s.releaseCredentials = { s with credentialsInstalled := false }.emit .release :=
  if_pos h

theorem releaseCredentials_of_not (h : s.credentialsInstalled = false) : s.releaseCredentials = s :=
  if_neg (by simp [h])

theorem shut_close (h : Going s) (closeIo : List TransportIo) : Shut (s.close closeIo) := by
  have hquiet := keeps_freeSession s closeIo
  unfold close
  generalize s.freeSession closeIo = s₁ at hquiet
  rcases h.cases with hholding | hbare
  · have hheld := hquiet.holding hholding
    have hfreed : s₁.freeContext = { s₁.library .ctxFree [] with context := false } :=
      if_pos hheld.holder
    have hflag : s₁.freeContext.credentialsInstalled = true := by
      rw [hfreed]
      exact hheld.flag
    rw [releaseCredentials_of_installed hflag, hfreed]
    refine @Holding.shut _ _ _ s₁ _ hheld .ctxFree rfl ?_ rfl
    simp [TlsState.trace, library, emit]
  · have hbare := hquiet.bare hbare
    have hfreed : Bare s₁.freeContext := by
      unfold freeContext
      split
      · exact @Bare.free _ _ _ s₁ _ hbare .ctxFree rfl (by simp [TlsState.trace, library]) rfl
      · exact hbare
    rw [releaseCredentials_of_not hfreed.flag]
    exact hfreed.shut

/-! ## Open -/

/-- Nothing is installed, and there is a context to install into. -/
def Equipped (s : WolfSslStream) : Prop :=
  Bare s ∧ s.context = true

theorem attempted_buildContext (h : Bare s) :
    Attempted Going Equipped (s.buildContext answers) := by
  have hbuilt : Bare (s.buildContext answers).2 :=
    ⟨((keeps_library s .ctxNew rfl []).bare h).running, h.flag⟩
  exact .of_both hbuilt.going fun hcontext => ⟨hbuilt, hcontext⟩

theorem attempted_installCredentials (h : Equipped s) :
    Attempted Going Holding (s.installCredentials anchoredPinCheck answers) := by
  have hinstalled : Holding (s.installCredentials anchoredPinCheck answers).2 :=
    h.1.install rfl rfl h.2
  exact .of_both hinstalled.going fun _ => hinstalled

theorem attempted_equip (h : Bare s)
    (hclosed : (Session.of WolfSslCall.frees s.trace).transportOpen = false) :
    Attempted Going Holding (s.equip anchoredPinCheck answers) := by
  have hopened : Bare (s.openTransport answers).2 := h.openTransport hclosed _
  have htransport : Attempted Going Bare (s.openTransport answers) :=
    .of_both hopened.going fun _ => hopened
  have hcontext : Attempted Going Equipped
      (andThen (s.openTransport answers) (·.buildContext answers)) :=
    htransport.andThen fun s hs => attempted_buildContext hs
  exact hcontext.andThen fun s hs => attempted_installCredentials hs

theorem attempted_configure (h : Holding s) {call : WolfSslCall} (hcall : call.frees = false)
    (ok : Bool) : Attempted Going Holding (s.configure call ok) :=
  (keeps_library s call hcall []).attempted_holding h

theorem attempted_applyTlsPolicy (h : Holding s) :
    Attempted Going Holding (s.applyTlsPolicy answers) := by
  have hversion : Attempted Going Holding (s.configure .setMinVersion answers.minVersionSet) :=
    attempted_configure h rfl _
  have hrsa := hversion.andThen fun s hs =>
    @attempted_configure s hs .setMinRsaKeySz rfl answers.minRsaKeySet
  have hecc := hrsa.andThen fun s hs =>
    @attempted_configure s hs .setMinEccKeySz rfl answers.minEccKeySet
  exact hecc.andThen fun s hs => attempted_configure hs rfl _

theorem attempted_applyCipherPolicy (h : Holding s) :
    Attempted Going Holding (s.applyCipherPolicy answers) := by
  unfold applyCipherPolicy
  split
  · exact attempted_configure h rfl _
  · exact .of_true rfl h

theorem attempted_configureExpectedPeerName (h : Holding s) :
    Attempted Going Holding (s.configureExpectedPeerName answers) := by
  unfold configureExpectedPeerName
  split
  · exact .of_true rfl h
  · exact .of_true rfl h
  · next first name _ =>
    have hdeclared : Attempted Going Holding (s.declareExpectedPeer (first :: name) answers) := by
      unfold declareExpectedPeer
      split
      · exact attempted_configure h rfl _
      · exact attempted_configure h rfl _
    exact hdeclared.andThen fun s hs => attempted_configure hs rfl _

/-- The session and what is configured on it. -/
theorem attempted_prepare (h : Holding s) : Attempted Going Holding (s.prepare answers) := by
  have hcreated : Holding (s.createSession answers).2 :=
    ⟨((keeps_library s .new rfl []).holding h).running, h.flag, h.holder⟩
  have hsession : Attempted Going Holding (s.createSession answers) :=
    .of_both hcreated.going fun _ => hcreated
  have hpolicy := hsession.andThen fun s hs => @attempted_applyTlsPolicy s answers hs
  have hcipher := hpolicy.andThen fun s hs => @attempted_applyCipherPolicy s answers hs
  exact hcipher.andThen fun s hs => attempted_configureExpectedPeerName hs

theorem attempted_shakeHands (h : Holding s) :
    Attempted Going Holding (s.shakeHands anchoredPinCheck answers) := by
  have hrecv := (keeps_library s .setIoRecv rfl []).trans (keeps_library _ .setIoSend rfl [])
  have hcallbacks : Keeps s s.installTransportCallbacks :=
    (hrecv.trans (keeps_library _ .setIoReadCtx rfl [])).trans
      (keeps_library _ .setIoWriteCtx rfl [])
  have hverify : Keeps s s.installTransportCallbacks.applyPeerVerificationPolicy :=
    (hcallbacks.trans (keeps_library _ .setVerify rfl [])).trans
      (keeps_library _ .setCertCbCtx rfl [])
  exact (hverify.trans (keeps_connectFrom _ 0 0)).attempted_holding h

theorem attempted_establish (h : Bare s)
    (hclosed : (Session.of WolfSslCall.frees s.trace).transportOpen = false) :
    Attempted Shut Holding (s.establish anchoredPinCheck answers) := by
  have hafresh : Bare { s.pullProfile answers with peerPinned := false } := ⟨h.running, h.flag⟩
  have hequipped := @attempted_equip anchoredPinCheck _ answers hafresh hclosed
  have hprepared := hequipped.andThen fun s hs => @attempted_prepare s answers hs
  have hattempt : Attempted Going Holding (s.attempt anchoredPinCheck answers) :=
    hprepared.andThen fun s hs => attempted_shakeHands hs
  exact closeOnFailure_spec hattempt (fun _ io hs => shut_close hs io) _

/-! ## Runs -/

theorem resting_initial : Resting initial :=
  ⟨atRest_initial, nofun⟩

theorem keeps_readSession (s : WolfSslStream) (io : List TransportIo) (result : ReadResult) :
    Keeps s (s.readSession io result) := by
  have hread := keeps_library s .read rfl io
  have herror := hread.trans (keeps_library _ .getError rfl [])
  unfold readSession
  split
  · exact hread
  · exact herror
  · exact herror
  · exact herror

/-- What one call keeps. -/
theorem resting_move {move : Move} (h : Resting s)
    (hmoved : s.move anchoredPinCheck move = some s') :
    Resting s' := by
  have hread : ∀ (s : WolfSslStream) io result, Resting s → Resting (s.readSession io result) :=
    fun s io result hs => (keeps_readSession s io result).resting hs
  have hwrite : ∀ (s : WolfSslStream) io, Resting s → Resting (s.library .write io) :=
    fun s io hs => (keeps_library s .write rfl io).resting hs
  have hclose : ∀ (s : WolfSslStream) io, Resting s → Shut (s.close io) :=
    fun s io hs => shut_close hs.going io
  cases move with
  | openStream answers =>
    obtain rfl := Option.some.inj hmoved
    exact h.opens (·.establish anchoredPinCheck answers) (fun s hs => attempted_establish hs) rfl
  | send size answers =>
    obtain rfl := Option.some.inj hmoved
    exact h.sends fun s hs => sendOrClose_spec hread hclose hwrite answers size hs
  | read answers =>
    obtain rfl := Option.some.inj hmoved
    exact h.reads fun s hs => readOrClose_spec hread hclose hs _ _ _
  | close closeIo =>
    obtain rfl := Option.some.inj hmoved
    exact h.closes fun s hs => shut_close hs closeIo

theorem resting_of_reached (h : Reached (WolfSslStream.move anchoredPinCheck) anyMove initial s) :
    Resting s :=
  h.invariant (I := Resting) resting_initial fun hs _ hmoved => resting_move hs hmoved

end WolfSslStream

end SolidSyslog.Tls
