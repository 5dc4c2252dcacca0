import SolidSyslog.LwipRaw.TcpStream

/-!
# The TCP stream and lwIP's pcbs

A call of lwIP is made with the pcb the stream holds. A reset takes that pcb away at any step; where
none comes between the check of a `Send` or `Read` and its hop, no call is made without one.
-/

namespace SolidSyslog.LwipRaw

open Lib

namespace TcpStream

variable {n : Nat} {C : TcpConfig} {s s' : TcpStream n} {outside : Outside}

/-- Every call of lwIP has been made with a pcb `tcp_new` gave and nothing had released, no pcb was
released twice, and every pcb is the stream's or was released. -/
structure PcbsLive (s : TcpStream n) : Prop where
  usesLive : Always pcbs.UsesLive s.trace
  releasedOnce : (pcbs.released s.trace).Nodup
  accounted : ∀ pcb ∈ pcbs.obtained s.trace, s.pcb = some pcb ∨ pcb ∈ pcbs.released s.trace

/-- A `Send` has made its checks and not its hop, or a `Read` has found the stream open, has not
made its hop and pbufs are queued. -/
def isBehindCheck (s : TcpStream n) : Bool :=
  match s.caller with
  | .sendHop _ => true
  | .readQueued _ | .readEnded _ | .readHop _ => 0 < s.rxQueue.count
  | _ => false

/-- No reset comes between a check and the hop that relies on it. -/
def NoResetBehindCheck (s : TcpStream n) : TcpMove → Prop
  | .errCallback _ => s.isBehindCheck = false
  | _ => True

/-! ## The pcb held -/

/-- A callback is for the pcb held. -/
theorem pcb_of_attached (h : s.attached = s.pcb.toList) {pcb : Nat} (hattached : pcb ∈ s.attached) :
    s.pcb = some pcb := by
  rw [h] at hattached
  exact Option.mem_toList.1 hattached

theorem erase_attached (h : s.attached = s.pcb.toList) {pcb : Nat} (hpcb : s.pcb = some pcb) :
    s.attached.erase pcb = [] := by
  rw [h, hpcb]
  simp

/-- The pcb the stream holds is the one pcb not released, and the one that calls back. -/
structure Held (s : TcpStream n) : Prop where
  ledger : Ledger pcbs s.pcb.toList s.trace
  attached : s.attached = s.pcb.toList
  fresh : ∀ pcb ∈ pcbs.obtained s.trace, pcb < s.freshPcb

theorem Held.initial : Held (initial : TcpStream n) :=
  ⟨Ledger.nil, rfl, nofun⟩

theorem Held.live (h : Held s) : PcbsLive s := by
  refine ⟨h.ledger.usesLive, h.ledger.released_nodup, ?_⟩
  intro pcb hpcb
  rcases h.ledger.held_or_released hpcb with hheld | hreleased
  · exact .inl (Option.mem_toList.1 hheld)
  · exact .inr hreleased

theorem freshPcb_emit (s : TcpStream n) {event : TcpEvent} (hobtains : pcbs.obtains event = none) :
    (s.emit event).freshPcb = s.freshPcb := by
  change (pcbs.obtained (s.trace ++ [event])).length = _
  rw [Handling.obtained_concat, hobtains]
  simp [freshPcb]

theorem Held.fresh_emit (h : Held s) {event : TcpEvent} (hobtains : pcbs.obtains event = none) :
    ∀ pcb ∈ pcbs.obtained (s.emit event).trace, pcb < (s.emit event).freshPcb := by
  rw [freshPcb_emit s hobtains]
  change ∀ pcb ∈ pcbs.obtained (s.trace ++ [event]), pcb < s.freshPcb
  rw [Handling.obtained_concat, hobtains]
  simpa using h.fresh

/-- A call made with the pcb held. -/
theorem Held.emit (h : Held s) (event : TcpEvent) {pcb : Nat} (hpcb : s.pcb = some pcb)
    (huses : pcbs.uses event = some s.pcb) (hobtains : pcbs.obtains event = none)
    (hreleases : pcbs.releases event = none) : Held (s.emit event) := by
  refine ⟨h.ledger.use ?_ hobtains hreleases, h.attached, h.fresh_emit hobtains⟩
  intro used hused
  rw [huses, hpcb] at hused
  obtain rfl := Option.some.inj hused
  exact ⟨pcb, by simp [hpcb], rfl⟩

/-- The pcb held is released. -/
theorem Held.release (h : Held s) (event : TcpEvent) {pcb : Nat} (hpcb : s.pcb = some pcb)
    (huses : ∀ used, pcbs.uses event = some used → used = some pcb)
    (hobtains : pcbs.obtains event = none) (hreleases : pcbs.releases event = some pcb) :
    Held { (s.detachPcb pcb).emit event with pcb := none } := by
  have hledger : Ledger pcbs [pcb] s.trace := by
    have := h.ledger
    rwa [hpcb] at this
  refine ⟨hledger.release huses hobtains hreleases, ?_, h.fresh_emit hobtains⟩
  exact erase_attached h.attached hpcb

theorem Held.doAbort (h : Held s) : Held s.doAbort := by
  unfold TcpStream.doAbort
  split
  · next pcb hpcb => exact h.release (.abort (some pcb)) hpcb (fun used hused =>
      (Option.some.inj hused).symm) rfl rfl
  · exact h

theorem Held.doOpenAndConnect (h : Held s) (hnone : s.pcb = none) :
    Held (s.doOpenAndConnect outside) := by
  have hledger : Ledger pcbs [] s.trace := by
    have := h.ledger
    rwa [hnone] at this
  unfold TcpStream.doOpenAndConnect
  split
  · have hnew : s.freshPcb ∉ pcbs.obtained s.trace := fun hmem => (h.fresh _ hmem).false
    have hobtained : pcbs.obtained (s.trace ++ [.new s.freshPcb]) =
        pcbs.obtained s.trace ++ [s.freshPcb] := pcbs.obtained_concat _ _
    have hcreated : Held { s.emit (.new s.freshPcb) with
        pcb := some s.freshPcb
        attached := s.freshPcb :: s.attached
        attempt := some s.freshPcb
        connected := false
        errored := false } := by
      refine ⟨hledger.obtain rfl rfl hnew rfl, ?_, ?_⟩
      · change s.freshPcb :: s.attached = [s.freshPcb]
        rw [h.attached, hnone]
        rfl
      · change ∀ pcb ∈ pcbs.obtained (s.trace ++ [.new s.freshPcb]),
          pcb < (pcbs.obtained (s.trace ++ [.new s.freshPcb])).length
        rw [hobtained, List.length_append]
        intro pcb hpcb
        rcases List.mem_append.1 hpcb with hold | hfresh
        · exact Nat.lt_succ_of_lt (h.fresh pcb hold)
        · rw [List.mem_singleton.1 hfresh]
          exact Nat.lt_succ_self _
    exact hcreated.emit (.connect (some s.freshPcb) outside.connect) rfl rfl rfl rfl
  · exact ⟨hledger, by rw [h.attached, hnone], h.fresh⟩

section Hops

variable [NeZero n]

theorem drainQueued_eq (s : TcpStream n) (queued : Nat) : ∃ rxQueue freed,
    s.drainQueued queued = { s with rxQueue := rxQueue, freed := freed } := by
  induction queued generalizing s with
  | zero => exact ⟨s.rxQueue, s.freed, rfl⟩
  | succ queued ih =>
    unfold drainQueued
    split
    · next p _ =>
      obtain ⟨rxQueue, freed, heq⟩ := ih { s.pbufFree p with rxQueue := s.rxQueue.dequeue }
      exact ⟨rxQueue, freed, heq⟩
    · obtain ⟨rxQueue, freed, heq⟩ := ih { s with rxQueue := s.rxQueue.dequeue }
      exact ⟨rxQueue, freed, heq⟩

theorem drainAllQueuedPbufs_eq (s : TcpStream n) : ∃ rxQueue freed, s.drainAllQueuedPbufs =
    { s with rxQueue := rxQueue, freed := freed, rxHeadOffset := 0 } := by
  obtain ⟨rxQueue, freed, heq⟩ := s.drainQueued_eq s.rxQueue.count
  exact ⟨rxQueue, freed, by rw [drainAllQueuedPbufs, heq]⟩

theorem Held.drainAllQueuedPbufs (h : Held s) : Held s.drainAllQueuedPbufs := by
  obtain ⟨rxQueue, freed, heq⟩ := s.drainAllQueuedPbufs_eq
  rw [heq]
  exact ⟨h.ledger, h.attached, h.fresh⟩

theorem Held.closePcb (h : Held s) : Held (s.closePcb outside) := by
  have hdrained := h.drainAllQueuedPbufs
  unfold TcpStream.closePcb
  dsimp only
  split
  · next pcb hpcb =>
    split
    · next hok =>
      rw [hok]
      exact hdrained.release (.close (some pcb) .ok) hpcb
        (fun used hused => (Option.some.inj hused).symm) rfl rfl
    · next herr =>
      -- a close that fails releases nothing: the abort after it does
      have hreleases : pcbs.releases (.close (some pcb) outside.close) = none := by
        cases hclose : outside.close with
        | ok => exact absurd hclose herr
        | mem => rfl
        | other => rfl
      have hclosed := hdrained.emit (.close (some pcb) outside.close) hpcb
        (congrArg some hpcb.symm) rfl hreleases
      exact hclosed.release (.abort (some pcb)) hpcb
        (fun used hused => (Option.some.inj hused).symm) rfl rfl
  · exact hdrained

theorem Held.sendOrCloseOnFailure (h : Held s) {pcb : Nat} (hpcb : s.pcb = some pcb)
    (data : Bytes) :
    Held (s.sendOrCloseOnFailure data outside).2 := by
  unfold TcpStream.sendOrCloseOnFailure
  have hwritten := h.emit (.write s.pcb (data.take (toUint16 data.length)) outside.write)
    hpcb rfl rfl rfl
  dsimp only
  split
  · have hnudged := hwritten.emit (.output s.pcb outside.output) hpcb rfl rfl rfl
    split
    · exact hnudged
    · exact hnudged.closePcb
  · exact hwritten.closePcb

theorem drainHeadBytes_eq (s : TcpStream n) (size : Nat) :
    ∃ rxQueue rxHeadOffset freed received readFrom, (s.drainHeadBytes size).2 = { s with
      rxQueue := rxQueue, rxHeadOffset := rxHeadOffset, freed := freed, received := received,
      readFrom := readFrom } := by
  unfold drainHeadBytes
  split
  · dsimp only
    split
    · exact ⟨_, _, _, _, _, rfl⟩
    · exact ⟨_, _, _, _, _, rfl⟩
  · exact ⟨_, _, _, _, _, rfl⟩

theorem Held.doRead (h : Held s) (hopen : 0 < s.rxQueue.count → s.pcb.isSome = true) (size : Nat) :
    Held (s.doRead size outside) := by
  unfold TcpStream.doRead
  split
  · next hqueued =>
    obtain ⟨pcb, hpcb⟩ := Option.isSome_iff_exists.1 (hopen hqueued)
    obtain ⟨_, _, _, _, _, heq⟩ := s.drainHeadBytes_eq size
    have hdrained : Held (s.drainHeadBytes size).2 := by
      rw [heq]
      exact ⟨h.ledger, h.attached, h.fresh⟩
    have hsame : (s.drainHeadBytes size).2.pcb = some pcb := by rw [heq]; exact hpcb
    have hacked := hdrained.emit (.recved (s.drainHeadBytes size).2.pcb
      (toUint16 (s.drainHeadBytes size).1.length)) hsame rfl rfl rfl
    exact ⟨hacked.ledger, hacked.attached, hacked.fresh⟩
  · have hclosed : Held (s.closePcb outside) := h.closePcb
    exact ⟨hclosed.ledger, hclosed.attached, hclosed.fresh⟩

end Hops

/-! ## Moves -/

/-- What the caller's thread has checked still holds where it stands. -/
def Ready (s : TcpStream n) : Prop :=
  match s.caller with
  | .openHop => s.pcb = none
  | .sendErrored _ => s.pcb = none → s.errored = true
  | .sendHop _ => s.pcb ≠ none
  | .readQueued _ | .readEnded _ | .readHop _ => s.pcb = none → s.rxQueue.count = 0
  | _ => True

/-- What holds between any two moves. -/
structure PcbSound (s : TcpStream n) : Prop where
  held : Held s
  ready : Ready s

theorem Held.answer (h : Held s) (a : TcpAnswer) : PcbSound (s.answer a) :=
  ⟨⟨h.ledger, h.attached, h.fresh⟩, trivial⟩

theorem Held.goTo (h : Held s) {caller : TcpCaller} (hready : Ready { s with caller := caller }) :
    PcbSound { s with caller := caller } :=
  ⟨⟨h.ledger, h.attached, h.fresh⟩, hready⟩

theorem ready_of_isWaiting {caller : TcpCaller} (h : IsWaiting caller) :
    Ready { s with caller := caller } := by
  cases caller <;> trivial

/-- A callback that leaves the stream its pcb. -/
theorem PcbSound.told (h : PcbSound s) {pcb : Nat} (hpcb : s.pcb = some pcb)
    (hsame : s'.pcb = s.pcb ∧ s'.attached = s.attached ∧ s'.trace = s.trace ∧
      s'.caller = s.caller) :
    PcbSound s' := by
  obtain ⟨hpcb', hattached, htrace, hcaller⟩ := hsame
  have hready := h.ready
  refine ⟨⟨?_, ?_, ?_⟩, ?_⟩
  · rw [hpcb', htrace]
    exact h.held.ledger
  · rw [hpcb', hattached]
    exact h.held.attached
  · rw [freshPcb, htrace]
    exact h.held.fresh
  · unfold Ready at hready ⊢
    rw [hcaller, hpcb', hpcb]
    rw [hpcb] at hready
    cases hcaller : s.caller <;> simp_all

theorem PcbSound.errCallback (h : PcbSound s) {pcb : Nat} (hattached : pcb ∈ s.attached)
    (hclear : NoResetBehindCheck s (.errCallback pcb)) : PcbSound (s.errCallback pcb) := by
  have hpcb := pcb_of_attached h.held.attached hattached
  have hreleased := h.held.release (.err pcb) hpcb nofun rfl rfl
  refine ⟨⟨hreleased.ledger, hreleased.attached, hreleased.fresh⟩, ?_⟩
  change s.isBehindCheck = false at hclear
  unfold isBehindCheck at hclear
  change Ready { s with pcb := none, errored := true }
  unfold Ready
  split at hclear
  · cases hclear
  · next hcaller => simpa [hcaller] using hclear
  · next hcaller => simpa [hcaller] using hclear
  · next hcaller => simpa [hcaller] using hclear
  · cases hcaller : s.caller <;> simp_all

variable [NeZero n]

theorem PcbSound.goOn (h : PcbSound s) (hmoved : s.goOn C outside = some s') : PcbSound s' := by
  have hready := h.ready
  unfold Ready at hready
  cases goOn_cases hmoved with
  | setUp stands created goes =>
    rw [stands] at hready
    refine (h.held.doOpenAndConnect hready).goTo ?_
    rcases goes with hwaits | rfl
    · exact ready_of_isWaiting hwaits
    · trivial
  | notSetUp stands failed =>
    rw [stands] at hready
    exact (h.held.doOpenAndConnect hready).answer _
  | waits stands goes => exact h.held.goTo (ready_of_isWaiting goes)
  | opens stands => exact ⟨⟨h.held.ledger, h.held.attached, h.held.fresh⟩, trivial⟩
  | givesUp stands => exact h.held.goTo trivial
  | aborts stands => exact h.held.doAbort.answer _
  | findsErrored stands => exact h.held.answer _
  | findsWell stands well =>
    rw [stands] at hready
    exact h.held.goTo fun hnone => well (hready hnone)
  | sends stands =>
    rw [stands] at hready
    obtain ⟨pcb, hpcb⟩ := Option.ne_none_iff_exists'.1 hready
    exact (h.held.sendOrCloseOnFailure hpcb _).answer _
  | looks stands goes =>
    have hkept : s.pcb = none → s.rxQueue.count = 0 := by
      rcases stands with stands | stands
      · rwa [stands] at hready
      · rwa [stands] at hready
    rcases goes with rfl | rfl
    · exact h.held.goTo hkept
    · exact h.held.goTo hkept
  | readsNothing stands => exact h.held.answer _
  | reads stands =>
    rw [stands] at hready
    have hopen : 0 < s.rxQueue.count → s.pcb.isSome = true := by
      intro hqueued
      by_contra hnone
      have hempty := hready (Option.not_isSome_iff_eq_none.1 hnone)
      omega
    refine ⟨h.held.doRead hopen _, ?_⟩
    unfold TcpStream.doRead
    split
    · trivial
    · trivial
  | findsQueued stands => exact h.held.goTo trivial
  | findsNothing stands empty => exact h.held.answer _
  | closes stands => exact h.held.closePcb.answer _

theorem PcbSound.move {move : TcpMove} (h : PcbSound s) (hclear : NoResetBehindCheck s move)
    (hmoved : s.move C move = some s') : PcbSound s' := by
  cases move with
  | openStream =>
    obtain ⟨-, ⟨-, rfl⟩ | ⟨hnone, rfl⟩⟩ := start_cases hmoved
    · exact h.held.answer _
    · exact h.held.goTo hnone
  | send data =>
    obtain ⟨-, ⟨⟨pcb, hpcb⟩, rfl⟩ | ⟨-, rfl⟩⟩ := start_cases hmoved
    · exact h.held.goTo fun hnone => absurd (hpcb.symm.trans hnone) nofun
    · exact h.held.answer _
  | read size =>
    obtain ⟨-, ⟨⟨pcb, hpcb⟩, rfl⟩ | ⟨-, rfl⟩⟩ := start_cases hmoved
    · exact h.held.goTo fun hnone => absurd (hpcb.symm.trans hnone) nofun
    · exact h.held.answer _
  | close =>
    obtain ⟨-, ⟨-, rfl⟩ | ⟨-, rfl⟩⟩ := start_cases hmoved
    · exact h.held.goTo trivial
    · exact h.held.goTo trivial
  | goOn outside => exact h.goOn hmoved
  | connectedCallback pcb err =>
    obtain ⟨hattached, rfl⟩ := called_cases hmoved
    apply h.told (pcb_of_attached h.held.attached hattached)
    unfold TcpStream.connectedCallback
    split
    · exact ⟨rfl, rfl, rfl, rfl⟩
    · exact ⟨rfl, rfl, rfl, rfl⟩
  | recvCallback pcb p =>
    obtain ⟨hattached, rfl⟩ := called_cases hmoved
    apply h.told (pcb_of_attached h.held.attached hattached)
    unfold TcpStream.recvCallback
    split
    · exact ⟨rfl, rfl, rfl, rfl⟩
    · split
      · exact ⟨rfl, rfl, rfl, rfl⟩
      · exact ⟨rfl, rfl, rfl, rfl⟩
  | errCallback pcb =>
    obtain ⟨hattached, rfl⟩ := called_cases hmoved
    exact h.errCallback hattached hclear

/-- Where no reset comes between a check of `Send` or `Read` and its hop, lwIP is called with pcbs
that are live, and each is released once. -/
theorem pcbs_stay_live (h : Reached (move C) NoResetBehindCheck (initial : TcpStream n) s) :
    PcbsLive s :=
  (h.invariant ⟨Held.initial, trivial⟩ PcbSound.move).held.live

/-! ## Runs -/

instance (s : TcpStream n) (move : TcpMove) : Decidable (NoResetBehindCheck s move) :=
  match move with
  | .errCallback _ => inferInstanceAs (Decidable (s.isBehindCheck = false))
  | .openStream | .send _ | .read _ | .close | .goOn _ | .connectedCallback .. | .recvCallback .. =>
    .isTrue trivial

/-- One poll is the whole wait. -/
def onePollConnect : TcpConfig :=
  ⟨10, 10⟩

/-- A stream of two slots that was never opened. -/
def neverOpened : TcpStream 2 :=
  initial

/-- lwIP answers every call with success. -/
def allWell : Outside :=
  ⟨true, .ok, .ok, .ok, .ok, 10⟩

/-- A chain of one link of one byte. -/
def oneByte (byte : UInt8) : Chain :=
  ⟨[[byte]], by simp⟩

/-- An `Open` that the peer accepts. -/
def connects (pcb : Nat) : List TcpMove :=
  [.openStream, .goOn allWell, .connectedCallback pcb .ok, .goOn allWell, .goOn allWell]

/-- A connection is made, written to and read from; the peer resets it, and it is made again and
closed. -/
def reconnected : List TcpMove :=
  connects 0 ++ [.send [1], .goOn allWell, .goOn allWell, .recvCallback 0 (oneByte 7), .read 4,
    .goOn allWell, .goOn allWell, .errCallback 0] ++ connects 1 ++ [.close, .goOn allWell]

theorem reconnected_pcbs_live :
    ∃ s, runMoves (move onePollConnect) NoResetBehindCheck neverOpened reconnected = some s ∧
      pcbs.obtained s.trace = [0, 1] ∧ pcbs.released s.trace = [0, 1] ∧ PcbsLive s := by
  have hrun : ∃ s, runMoves (move onePollConnect) NoResetBehindCheck neverOpened reconnected =
      some s ∧ pcbs.obtained s.trace = [0, 1] ∧ pcbs.released s.trace = [0, 1] :=
    ⟨_, rfl, rfl, rfl⟩
  obtain ⟨s, hs, hobtained, hreleased⟩ := hrun
  exact ⟨s, hs, hobtained, hreleased, pcbs_stay_live (Reached.of_runMoves hs)⟩

/-- The peer resets the connection between the checks of a `Send` and its hop. -/
def resetBehindSend : List TcpMove :=
  connects 0 ++ [.send [1], .goOn allWell, .errCallback 0, .goOn allWell]

/-- The hop calls `tcp_write` with no pcb. -/
theorem reset_behind_send_writes_null : ¬ ∀ s : TcpStream 2,
    Reached (move onePollConnect) anyMove neverOpened s → PcbsLive s := by
  intro hall
  have hrun : ∃ s, runMoves (move onePollConnect) anyMove neverOpened resetBehindSend = some s ∧
      s.trace = [.new 0, .connect (some 0) .ok, .err 0, .write none [1] .ok, .output none .ok] :=
    ⟨_, rfl, rfl⟩
  obtain ⟨s, hs, htrace⟩ := hrun
  have hlive := (hall s (Reached.of_runMoves hs)).usesLive
  obtain ⟨pcb, hpcb, -⟩ := hlive [.new 0, .connect (some 0) .ok, .err 0] (.write none [1] .ok)
    [.output none .ok] htrace none rfl
  cases hpcb

end TcpStream

end SolidSyslog.LwipRaw
