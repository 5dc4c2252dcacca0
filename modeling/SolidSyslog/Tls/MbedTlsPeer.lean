import SolidSyslog.Tls.MbedTlsStream

/-!
# The peers that the Mbed TLS stream accepts

The verify callback leaves flags of each certificate, which Mbed TLS merges into its verdict. With
trust anchors the library refuses on any of them; with pins alone the callback clears what a missing
anchor brings about, adds a flag for a leaf that no pin names, and refuses itself at the leaf, where
all flags of the chain have been seen. `HandshakeVerifies` is what Mbed TLS promises of this,
`PeerAuthorised` what an `Open` that returns true has made sure of.
-/

namespace SolidSyslog.Tls

open Lib

variable {Cert : Type}

/-- The flags a callback left, merged. -/
def verdictOf (judged : List (Judgement Cert)) : UInt32 :=
  judged.foldl (fun verdict judgement => verdict ||| judgement.left) 0

theorem verdictOf_concat (judged : List (Judgement Cert)) (judgement : Judgement Cert) :
    verdictOf (judged ++ [judgement]) = verdictOf judged ||| judgement.left := by
  simp [verdictOf]

/-- A clear verdict has no flag in it. -/
theorem left_of_verdictOf {judged : List (Judgement Cert)} (h : verdictOf judged = 0) :
    ∀ judgement ∈ judged, judgement.left = 0 := by
  induction judged using List.reverseRecOn with
  | nil => exact nofun
  | append_singleton judged last ih =>
    rw [verdictOf_concat, UInt32.or_eq_zero_iff] at h
    intro judgement hjudgement
    rcases List.mem_append.1 hjudgement with hbefore | hlast
    · exact ih h.1 judgement hbefore
    · rw [List.mem_singleton.1 hlast]
      exact h.2

/-! ## What the library promises -/

/-- The certificates of a chain, leaf first, as the callback is called for them: from the top down,
each at its depth. -/
def topDown (chain : List (Cert × UInt32)) : List (Nat × Cert × UInt32) :=
  (chain.zipIdx.map fun ((crt, flags), depth) => (depth, crt, flags)).reverse

/-- The leaf comes last. -/
theorem topDown_cons (leaf : Cert × UInt32) (chain : List (Cert × UInt32)) :
    ∃ above, topDown (leaf :: chain) = above ++ [(0, leaf.1, leaf.2)] :=
  ⟨_, by rw [topDown, List.zipIdx_cons, List.map_cons, List.reverse_cons]⟩

theorem mem_topDown {crt : Cert × UInt32} {chain : List (Cert × UInt32)} (h : crt ∈ chain) :
    ∃ depth, (depth, crt.1, crt.2) ∈ topDown chain := by
  obtain ⟨depth, hdepth, rfl⟩ := List.mem_iff_getElem.1 h
  refine ⟨depth, List.mem_reverse.2 (List.mem_map.2 ⟨(chain[depth], depth), ?_, rfl⟩)⟩
  exact List.mem_zipIdx_iff_getElem?.2 (List.getElem?_eq_getElem hdepth)

/-- The mode of verification that a trace shows configured: whether it is required. -/
def authmodeOf (t : List (TlsEvent MbedTlsCall)) : Option Bool :=
  t.foldl (fun mode entry => match entry with
    | .library (.confAuthmode required) => some required
    | _ => mode) none

/-- What Mbed TLS promises of a handshake that it completes: the callback has been called for the
whole chain and has not failed, the verdict is clear and a chain is there where that is required,
and the verdict can be read. -/
structure HandshakeVerifies (s : MbedTlsStream Cert) (chain : List (Cert × UInt32))
    (verifyResult : UInt32) : Prop where
  presented : s.judged.map (fun j => (j.depth, j.certificate, j.flags)) = topDown chain
  passed : ∀ judgement ∈ s.judged, judgement.failed = false
  required : authmodeOf s.trace = some true → chain ≠ [] ∧ verdictOf s.judged = 0
  verifyResult : verifyResult = if chain = [] then badcertMissing else verdictOf s.judged

namespace HandshakeVerifies

variable {s : MbedTlsStream Cert} {chain : List (Cert × UInt32)} {verifyResult : UInt32}

theorem judgement_of_mem (h : HandshakeVerifies s chain verifyResult) {crt : Cert × UInt32}
    (hcrt : crt ∈ chain) :
    ∃ judgement ∈ s.judged, judgement.certificate = crt.1 ∧ judgement.flags = crt.2 := by
  obtain ⟨depth, hdepth⟩ := mem_topDown hcrt
  rw [← h.presented] at hdepth
  obtain ⟨judgement, hmem, hpresented⟩ := List.mem_map.1 hdepth
  simp only [Prod.mk.injEq] at hpresented
  exact ⟨judgement, hmem, hpresented.2⟩

/-- The last call is for the leaf. -/
theorem leaf {leaf : Cert × UInt32} (h : HandshakeVerifies s (leaf :: chain) verifyResult) :
    ∃ above last, s.judged = above ++ [last] ∧ last.depth = 0 ∧ last.certificate = leaf.1 := by
  obtain ⟨above, habove⟩ := topDown_cons leaf chain
  have hpresented := h.presented
  rw [habove, List.map_eq_append_iff] at hpresented
  obtain ⟨before, lasts, hjudged, -, hlasts⟩ := hpresented
  obtain ⟨last, rfl, hlast⟩ := List.map_eq_singleton_iff.1 hlasts
  simp only [Prod.mk.injEq] at hlast
  exact ⟨before, last, hjudged, hlast.1, hlast.2.1⟩

end HandshakeVerifies

/-- What makes a peer one to talk to. -/
structure PeerAuthorised (D : HashAlgorithm → Cert → Option Bytes)
    (installed : CredentialsInstalled)
    (chain : List (Cert × UInt32)) : Prop where
  authorisable : installed.trustAnchorsInstalled = true ∨ 0 < installed.fingerprints.count
  readable : installed.fingerprints.isReadable = true
  pinsParse : ∀ pin ∈ installed.fingerprints.pins, (Fingerprint.parse pin).isSome = true
  presented : chain ≠ []
  anchored : installed.trustAnchorsInstalled = true → ∀ crt ∈ chain, crt.2 = 0
  unanchored : installed.trustAnchorsInstalled = false →
    ∀ crt ∈ chain, crt.2 &&& ~~~(badcertNotTrusted ||| badcertMissing) = 0
  pinned : 0 < installed.fingerprints.count → ∀ leaf ∈ chain.head?,
    ∃ pin ∈ installed.fingerprints.pins, PinList.Names (D · leaf.1) pin

/-! ## What the callback leaves -/

namespace MbedTlsStream

variable {D : HashAlgorithm → Cert → Option Bytes} {s s' : MbedTlsStream Cert}
  {installed : CredentialsInstalled} {answers : OpenAnswers Cert} {chain : List (Cert × UInt32)}

/-- What a judgement keeps of its certificate's flags: with no flag left they were harmless, and the
leaf is one that a pin names. -/
structure Judged (D : HashAlgorithm → Cert → Option Bytes) (installed : CredentialsInstalled)
    (judgement : Judgement Cert) : Prop where
  anchored : installed.trustAnchorsInstalled = true → judgement.left = 0 → judgement.flags = 0
  pinsAlone : 0 < installed.fingerprints.count → judgement.left = 0 →
    judgement.flags &&& ~~~chainTrustFlags = 0
  pinned : 0 < installed.fingerprints.count → judgement.left = 0 → judgement.depth = 0 →
    installed.fingerprints.authorise (D · judgement.certificate) = .matched

/-- The callback fails at a leaf below which some flag is left, where there are no anchors. -/
def Enforced (installed : CredentialsInstalled) (before : List (Judgement Cert))
    (judgement : Judgement Cert) : Prop :=
  installed.trustAnchorsInstalled = false →
    judgement.failed = (judgement.depth = 0 && verdictOf (before ++ [judgement]) ≠ 0)

/-- The judgements of a handshake under way. -/
structure Judging (D : HashAlgorithm → Cert → Option Bytes) (installed : CredentialsInstalled)
    (s : MbedTlsStream Cert) : Prop where
  installs : s.installed = installed
  judged : ∀ judgement ∈ s.judged, Judged D installed judgement
  enforced : Always (Enforced installed) s.judged
  refused : installed.trustAnchorsInstalled = false → s.refusedVerdict = verdictOf s.judged

theorem judgeFlags_state (s : MbedTlsStream Cert) (crt : Cert) (depth : Nat) (flags : UInt32) :
    (s.judgeFlags D crt depth flags).2.installed = s.installed ∧
      (s.judgeFlags D crt depth flags).2.judged = s.judged ∧
      (s.judgeFlags D crt depth flags).2.refusedVerdict = s.refusedVerdict := by
  unfold judgeFlags
  split
  · dsimp only
    split
    · exact ⟨rfl, rfl, rfl⟩
    · exact ⟨rfl, rfl, rfl⟩
  · exact ⟨rfl, rfl, rfl⟩

/-- With pins, no flag is left where what is not cleared is none and the leaf is one that a pin
names. -/
theorem judgeFlags_pinned (hpins : 0 < s.installed.fingerprints.count) {crt : Cert} {depth : Nat}
    {flags : UInt32} (hclear : (s.judgeFlags D crt depth flags).1 = 0) :
    (if s.installed.trustAnchorsInstalled then flags else flags &&& ~~~chainTrustFlags) = 0 ∧
      (depth = 0 → s.installed.fingerprints.authorise (D · crt) = .matched) := by
  have hother : badcertOther ≠ 0 := by decide
  simp only [judgeFlags, if_pos hpins] at hclear
  by_cases hleaf : depth = 0
  · rw [if_pos hleaf] at hclear
    by_cases hmatches : s.installed.fingerprints.authorise (D · crt) = .matched
    · simp only [leafMatchesAPin, hmatches] at hclear
      exact ⟨by simpa using hclear, fun _ => hmatches⟩
    · simp only [leafMatchesAPin, hmatches] at hclear
      simp [UInt32.or_eq_zero_iff, hother] at hclear
  · rw [if_neg hleaf] at hclear
    exact ⟨hclear, fun h => absurd h hleaf⟩

theorem judgeFlags_spec (s : MbedTlsStream Cert) (crt : Cert) (depth : Nat) (flags : UInt32)
    (failed : Bool) :
    Judged D s.installed ⟨depth, crt, flags, (s.judgeFlags D crt depth flags).1, failed⟩ := by
  refine ⟨?_, ?_, ?_⟩
  · intro hanchors hclear
    by_cases hpins : 0 < s.installed.fingerprints.count
    · simpa [hanchors] using (judgeFlags_pinned hpins hclear).1
    · simpa only [judgeFlags, if_neg hpins] using hclear
  · intro hpins hclear
    have hflags := (judgeFlags_pinned hpins hclear).1
    split at hflags
    · simp [show flags = 0 from hflags]
    · exact hflags
  · intro hpins hclear hleaf
    exact (judgeFlags_pinned hpins hclear).2 hleaf

theorem enforce_state (s : MbedTlsStream Cert) (depth : Nat) (flags : UInt32) :
    (s.enforceWhereTheLibraryWillNot depth flags).2.installed = s.installed ∧
      (s.enforceWhereTheLibraryWillNot depth flags).2.judged = s.judged := by
  unfold enforceWhereTheLibraryWillNot
  split
  · exact ⟨rfl, rfl⟩
  · exact ⟨rfl, rfl⟩

theorem enforce_unanchored (hanchors : s.installed.trustAnchorsInstalled = false) (depth : Nat)
    (flags : UInt32) :
    (s.enforceWhereTheLibraryWillNot depth flags).2.refusedVerdict = s.refusedVerdict ||| flags ∧
      (s.enforceWhereTheLibraryWillNot depth flags).1 =
        (depth = 0 && s.refusedVerdict ||| flags ≠ 0) := by
  unfold enforceWhereTheLibraryWillNot
  rw [if_neg (by simp [hanchors])]
  exact ⟨rfl, rfl⟩

/-- One call of the verify callback. -/
theorem Judging.verifyPeer (h : Judging D installed s) (crt : Cert) (depth : Nat) (flags : UInt32) :
    Judging D installed (s.verifyPeer D crt depth flags) := by
  obtain ⟨hinstalled, hjudged, hrefused⟩ := @judgeFlags_state _ D s crt depth flags
  have hspec := @judgeFlags_spec _ D s crt depth flags
  rw [h.installs] at hspec hinstalled
  have hverify : s.verifyPeer D crt depth flags =
      let r₁ := s.judgeFlags D crt depth flags
      let r₂ := r₁.2.enforceWhereTheLibraryWillNot depth r₁.1
      { r₂.2 with judged := r₂.2.judged ++ [⟨depth, crt, flags, r₁.1, r₂.1⟩] } := rfl
  generalize s.judgeFlags D crt depth flags = r₁ at hinstalled hjudged hrefused hspec hverify
  obtain ⟨left, s₁⟩ := r₁
  obtain ⟨hinstalled₂, hjudged₂⟩ := enforce_state s₁ depth left
  have hunanchored := @enforce_unanchored _ s₁
  generalize henforce : s₁.enforceWhereTheLibraryWillNot depth left = r₂ at *
  obtain ⟨failed, s₂⟩ := r₂
  dsimp only at hinstalled hjudged hrefused hspec hinstalled₂ hjudged₂ hverify
  rw [henforce] at hverify
  rw [hverify, hjudged₂, hjudged]
  refine ⟨hinstalled₂.trans hinstalled, ?_, h.enforced.concat ?_, ?_⟩
  · intro judgement hjudgement
    rcases List.mem_append.1 hjudgement with hbefore | hlast
    · exact h.judged judgement hbefore
    · rw [List.mem_singleton.1 hlast]
      exact hspec failed
  · intro hanchors
    obtain ⟨-, hfailed⟩ := hunanchored (hinstalled ▸ hanchors) depth left
    rw [henforce] at hfailed
    rw [verdictOf_concat, ← h.refused hanchors, ← hrefused]
    exact hfailed
  · intro hanchors
    obtain ⟨hverdict, -⟩ := hunanchored (hinstalled ▸ hanchors) depth left
    rw [henforce] at hverdict
    rw [verdictOf_concat, ← h.refused hanchors, ← hrefused]
    exact hverdict

theorem Judging.verifyPeers (h : Judging D installed s) (presented : List (Nat × Cert × UInt32)) :
    Judging D installed (s.verifyPeers D presented) := by
  induction presented generalizing s with
  | nil => exact h
  | cons one presented ih => exact ih (h.verifyPeer _ _ _)

/-! ## Open -/

/-- The credentials have passed the checks ahead of the handshake, and nothing but the callback
judges the peer since. -/
structure Underway (D : HashAlgorithm → Cert → Option Bytes) (answers : OpenAnswers Cert)
    (s : MbedTlsStream Cert) : Prop where
  installs : answers.installs = true
  authorisable : peerIsAuthorisable answers.installed = true
  usable : fingerprintsAreUsable answers.installed = true
  authmode : authmodeOf s.trace = some answers.installed.trustAnchorsInstalled
  judging : Judging D answers.installed s

/-- A call of the library does not change the mode but for one that configures it. -/
theorem authmodeOf_library (s : MbedTlsStream Cert) {call : MbedTlsCall}
    (hcall : ∀ required, call ≠ .confAuthmode required) (io : List TransportIo) :
    authmodeOf (s.library call io).trace = authmodeOf s.trace := by
  have hio : ∀ (io : List TransportIo) (t : List (TlsEvent MbedTlsCall)),
      authmodeOf (t ++ io.map TransportIo.event) = authmodeOf t := by
    intro io t
    induction io generalizing t with
    | nil => rw [List.map_nil, List.append_nil]
    | cons op io ih =>
      rw [List.map_cons, List.append_cons, ih]
      cases op with
      | send ok => simp [authmodeOf, TransportIo.event]
      | read result => simp [authmodeOf, TransportIo.event]
  have hlast : ∀ t : List (TlsEvent MbedTlsCall),
      authmodeOf (t ++ [.library call]) = authmodeOf t := by
    intro t
    rw [authmodeOf, List.foldl_concat]
    cases call with
    | confAuthmode required => exact absurd rfl (hcall required)
    | _ => rfl
  exact (hlast _).trans (hio io s.trace)

theorem Underway.library (h : Underway D answers s) (call : MbedTlsCall)
    (hcall : ∀ required, call ≠ .confAuthmode required) (io : List TransportIo) :
    Underway D answers (s.library call io) :=
  ⟨h.installs, h.authorisable, h.usable, (authmodeOf_library s hcall io).trans h.authmode,
    ⟨h.judging.installs, h.judging.judged, h.judging.enforced, h.judging.refused⟩⟩

theorem Underway.handshakeStep (h : Underway D answers s) (step : HandshakeStep Cert) :
    Underway D answers (s.handshakeStep D step) := by
  have hverified : Underway D answers (s.verifyPeers D step.presented) := by
    refine ⟨h.installs, h.authorisable, h.usable, ?_, h.judging.verifyPeers _⟩
    rw [verifyPeers_trace]
    exact h.authmode
  exact hverified.library .handshake nofun _

theorem Underway.handshakeFrom (h : Underway D answers s) (steps : Nat → HandshakeStep Cert)
    (attempt totalSleptMs budgetMs : Nat) :
    Underway D answers (s.handshakeFrom D steps attempt totalSleptMs budgetMs).2 := by
  induction s, attempt, totalSleptMs using handshakeFrom.induct D steps budgetMs with
  | case1 s attempt totalSleptMs hdone =>
    rw [MbedTlsStream.handshakeFrom, hdone]
    exact h.handshakeStep _
  | case2 s attempt totalSleptMs hfailed =>
    rw [MbedTlsStream.handshakeFrom, hfailed]
    exact h.handshakeStep _
  | case3 s attempt totalSleptMs hwant hspent =>
    rw [MbedTlsStream.handshakeFrom, hwant]
    dsimp only
    rw [if_pos hspent]
    exact h.handshakeStep _
  | case4 s attempt totalSleptMs s₁ hwant hleft ih =>
    rw [MbedTlsStream.handshakeFrom, hwant]
    dsimp only
    rw [if_neg hleft]
    exact ih (h.handshakeStep _)

/-- No certificate is judged yet. -/
def Fresh (s : MbedTlsStream Cert) : Prop :=
  s.judged = [] ∧ s.refusedVerdict = 0

theorem fresh_applyPolicies (h : Fresh s) :
    Fresh s.applyTlsPolicy.applyCipherPolicy.applyCertProfilePolicy := by
  have hcipher : ∀ s : MbedTlsStream Cert, Fresh s → Fresh s.applyCipherPolicy := by
    intro s hs
    unfold applyCipherPolicy
    split
    · exact hs
    · exact hs
  have hprofile : ∀ s : MbedTlsStream Cert, Fresh s → Fresh s.applyCertProfilePolicy := by
    intro s hs
    unfold applyCertProfilePolicy
    split
    · exact hs
    · exact hs
  exact hprofile _ (hcipher _ h)

/-- What an install that passes its checks leads to. -/
theorem underway_installCredentials (h : Fresh s) :
    Attempted (fun _ => True) (Underway D answers) (s.installCredentials answers) := by
  unfold installCredentials
  dsimp only
  split
  · next hok =>
    simp only [Bool.and_eq_true] at hok
    obtain ⟨⟨hinstalls, hauthorisable⟩, husable⟩ := hok
    refine .of_true rfl ⟨hinstalls, hauthorisable, husable, ?_, rfl, ?_, ?_, ?_⟩
    · simp [applyPeerVerificationPolicy, library, authmodeOf]
    · rw [show _ = [] from h.1]
      exact nofun
    · rw [show _ = [] from h.1]
      exact Always.nil
    · intro _
      rw [show _ = [] from h.1]
      exact h.2
  · exact .of_false rfl trivial

theorem underway_secure (h : Fresh s) :
    Attempted (fun _ => True) (Underway D answers) (s.secure answers) := by
  have hinstalled : Attempted (fun _ => True) (Underway D answers)
      (s.applyTlsPolicy.applyCipherPolicy.applyCertProfilePolicy.installCredentials answers) :=
    underway_installCredentials (fresh_applyPolicies h)
  have hbound := hinstalled.andThen fun s (hs : Underway D answers s) =>
    show Attempted (fun _ => True) (Underway D answers) (s.bindContextToConfig answers) from
      .of_both trivial fun _ => hs.library .sslSetup nofun []
  refine hbound.andThen fun s hs => ?_
  unfold configureExpectedHostname
  split
  · exact .of_true rfl (hs.library (.setHostname none) nofun [])
  · exact .of_true rfl (hs.library (.setHostname none) nofun [])
  · split
    · exact .of_false rfl trivial
    · exact .of_both trivial fun _ => hs.library (.setHostname (some _)) nofun []

/-- An `Open` that returns true has gone through its handshake, with a verdict that is no
failure. -/
theorem underway_of_opened (h : s.openStream D answers = (true, s')) :
    Underway D answers s' ∧ isVerifyFailure answers.verifyResult = false := by
  have hopened : Attempted (fun _ => True) Fresh ((s.startAfresh answers).openTransport answers) :=
    .of_both trivial fun _ => ⟨rfl, rfl⟩
  have hdefaults := hopened.andThen fun s (hs : Fresh s) =>
    show Attempted (fun _ => True) Fresh (s.applySslConfigDefaults answers) from
      .of_both trivial fun _ => hs
  have hsecured := hdefaults.andThen fun s hs => @underway_secure _ D s answers hs
  have hattempt : Attempted (fun _ => True)
      (fun s => Underway D answers s ∧ isVerifyFailure answers.verifyResult = false)
      (s.attempt D answers) := by
    refine hsecured.andThen fun s hs => ?_
    have hcallbacks : Underway D answers s.installTransportCallbacks := hs.library .setBio nofun []
    have hshaken : Attempted (fun _ => True) (Underway D answers)
        (s.installTransportCallbacks.performHandshake D answers) :=
      .of_both trivial fun _ => hcallbacks.handshakeFrom _ 0 0 _
    refine hshaken.andThen fun s hs => .of_both trivial fun hpassed => ?_
    refine ⟨hs.library .getVerifyResult nofun [], ?_⟩
    simpa [peerPassedVerification] using hpassed
  unfold openStream establish closeOnFailure at h
  split at h
  · cases h
  · split at h
    · next hok =>
      have hdone := hattempt.holds_of hok
      rwa [h] at hdone
    · cases h

/-- Of a handshake that is completed, no flag is left. -/
theorem Underway.verdict (h : Underway D answers s')
    (hverifies : HandshakeVerifies s' chain answers.verifyResult)
    (hpassed : isVerifyFailure answers.verifyResult = false) :
    chain ≠ [] ∧ verdictOf s'.judged = 0 := by
  cases hanchors : answers.installed.trustAnchorsInstalled with
  | true =>
    apply hverifies.required
    rw [h.authmode, hanchors]
  | false =>
    have hchain : chain ≠ [] := by
      intro hnone
      rw [hverifies.verifyResult, if_pos hnone] at hpassed
      exact absurd hpassed (by decide)
    refine ⟨hchain, ?_⟩
    -- The last call is for the leaf, and does not fail.
    obtain ⟨leaf, rest, rfl⟩ := List.exists_cons_of_ne_nil hchain
    obtain ⟨above, last, hjudged, hdepth, -⟩ := hverifies.leaf
    have hfailed := h.judging.enforced above last [] hjudged hanchors
    rw [hverifies.passed last (by simp [hjudged]), hdepth, ← hjudged] at hfailed
    simpa using hfailed

/-- An `Open` that returns true has installed its credentials, and its peer is one to talk to. -/
theorem open_authorises_peer (h : s.openStream D answers = (true, s'))
    (hverifies : HandshakeVerifies s' chain answers.verifyResult) :
    answers.installs = true ∧ PeerAuthorised D answers.installed chain := by
  obtain ⟨hunderway, hpassed⟩ := underway_of_opened h
  obtain ⟨hchain, hverdict⟩ := hunderway.verdict hverifies hpassed
  have hleft := left_of_verdictOf hverdict
  have hinspected := PinList.inspect_ne_malformed (by simpa [fingerprintsAreUsable] using
    hunderway.usable)
  have hauthorisable : answers.installed.trustAnchorsInstalled = true ∨
      0 < answers.installed.fingerprints.count := by
    simpa [peerIsAuthorisable] using hunderway.authorisable
  refine ⟨hunderway.installs, hauthorisable, hinspected.1, hinspected.2, hchain, ?_, ?_, ?_⟩
  · intro hanchors crt hcrt
    obtain ⟨judgement, hmem, -, hflags⟩ := hverifies.judgement_of_mem hcrt
    rw [← hflags]
    exact (hunderway.judging.judged judgement hmem).anchored hanchors (hleft judgement hmem)
  · intro hanchors crt hcrt
    obtain ⟨judgement, hmem, -, hflags⟩ := hverifies.judgement_of_mem hcrt
    have hpins := hauthorisable.resolve_left (by simp [hanchors])
    rw [← hflags]
    exact (hunderway.judging.judged judgement hmem).pinsAlone hpins (hleft judgement hmem)
  · intro hpins leaf hleaf
    obtain ⟨rest, rfl⟩ := List.head?_eq_some_iff.1 hleaf
    obtain ⟨above, last, hjudged, hdepth, hcertificate⟩ := hverifies.leaf
    have hmem : last ∈ s'.judged := by simp [hjudged]
    have hmatched := (hunderway.judging.judged last hmem).pinned hpins (hleft last hmem) hdepth
    rw [hcertificate] at hmatched
    exact PinList.authorise_matched hmatched

/-- A pin of a digest of zeros. -/
def zerosPin : Bytes :=
  [0x73, 0x68, 0x61, 0x2D, 0x31, 0x3A] ++ (List.replicate 19 [0x30, 0x30, 0x3A]).flatten ++
    [0x30, 0x30]

/-- The digest of every certificate is zeros. -/
def zerosDigest (_ : HashAlgorithm) (_ : Unit) : Option Bytes :=
  some (List.replicate 20 0)

/-- A leaf and a certificate above it, neither of them trusted. -/
def untrustedChain : List (Unit × UInt32) :=
  [((), badcertNotTrusted), ((), badcertNotTrusted)]

/-- A pin and no anchors are installed, and the handshake takes two calls. -/
def pinnedAnswers : OpenAnswers Unit where
  profile := ⟨none, false, false⟩
  transportOpens := true
  defaultsApplied := true
  installs := true
  installed := ⟨false, .list [some zerosPin]⟩
  isSetUp := true
  hostnameSet := true
  handshakeTimeoutMs := 20
  handshake attempt :=
    if attempt = 0 then ⟨[], [], .wantIo⟩ else ⟨[], topDown untrustedChain, .done⟩
  verifyResult := 0
  closeIo := []

theorem pinned_peer_authorised : ∃ s', initial.openStream zerosDigest pinnedAnswers = (true, s') ∧
    PeerAuthorised zerosDigest pinnedAnswers.installed untrustedChain := by
  have hopened : (initial.openStream zerosDigest pinnedAnswers).1 = true := by decide +kernel
  have hverifies : HandshakeVerifies (initial.openStream zerosDigest pinnedAnswers).2 untrustedChain
      pinnedAnswers.verifyResult :=
    ⟨by decide +kernel, by decide +kernel, by decide +kernel, by decide +kernel⟩
  exact ⟨_, Prod.ext hopened rfl, (open_authorises_peer (Prod.ext hopened rfl) hverifies).2⟩

end MbedTlsStream

end SolidSyslog.Tls
