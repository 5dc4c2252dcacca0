import SolidSyslog.LwipRaw.TcpPcbs

/-!
# The receive queue of the TCP stream

What a stream accepts on a connection waits in the ring until it is read or the connection is
closed. A reset takes the pcb and leaves the ring as it is; where every connection is set up on an
empty ring, what is read is what was accepted on the connection read, in order.
-/

namespace SolidSyslog.LwipRaw

open Lib

/-- The bytes of some pbufs. -/
def payloads (q : List Pbuf) : Bytes :=
  q.flatMap (·.chain.payload)

namespace TcpStream

variable {n : Nat} {C : TcpConfig} {s s' : TcpStream n} {outside : Outside}
  {q : List Pbuf}

/-- The pbufs accepted on a pcb, oldest first. -/
def acceptedOn (s : TcpStream n) (pcb : Option Nat) : List Pbuf :=
  (s.accepted.filter fun a => some a.1 = pcb).map Prod.snd

/-- What has been read since the last successful `Open` was accepted on its connection, in order;
each read was of a pbuf accepted on the connection it was made on; the queue is bounded; the pbufs
freed are the first ones accepted, and after a `Close` they are all. -/
structure Faithful (s : TcpStream n) : Prop where
  inOrder : s.received <+: payloads (s.acceptedOn s.connection)
  ownBytes : ∀ r ∈ s.readFrom, ∃ pcb, r.1 = some pcb ∧ (pcb, r.2) ∈ s.accepted
  bounded : s.rxQueue.count ≤ n
  distinct : (s.accepted.map (·.2.number)).Nodup
  freedOnce : s.freed <+: s.accepted.map (·.2.number)
  freedAtClose : s.caller = .idle (some .closed) → s.freed = s.accepted.map (·.2.number)

/-- An `Open` is for a stream its caller takes to be closed. -/
def Permitted (s : TcpStream n) : TcpMove → Prop
  | .openStream => s.takenOpen = false
  | _ => True

/-- A hop that sets a connection up finds no pbuf queued. -/
def SetsUpEmpty (s : TcpStream n) : TcpMove → Prop
  | .goOn outside => s.caller = .openHop → outside.pcbCreated = true → s.rxQueue.count = 0
  | _ => True

/-! ## What waits in the queue -/

/-- The cursor is within the pbuf at the head. -/
def Cursor (q : List Pbuf) (offset : Nat) : Prop :=
  match q with
  | [] => offset = 0
  | p :: _ => offset ≤ p.chain.totLen

theorem Cursor.concat {offset : Nat} (h : Cursor q offset) (p : Pbuf) :
    Cursor (q ++ [p]) offset := by
  cases q with
  | nil =>
    have hzero : offset = 0 := h
    exact hzero.trans_le (Nat.zero_le _)
  | cons head rest => exact h

theorem payloads_append (q q' : List Pbuf) : payloads (q ++ q') = payloads q ++ payloads q' :=
  List.flatMap_append

theorem Cursor.le_length {offset : Nat} (h : Cursor q offset) : offset ≤ (payloads q).length := by
  cases q with
  | nil => exact Nat.le_of_eq h
  | cons head rest =>
    have hle : offset ≤ head.chain.payload.length := h
    simp only [payloads, List.flatMap_cons, List.length_append]
    omega

theorem acceptedOn_concat (s : TcpStream n) (pcb : Nat) (p : Pbuf) (asked : Option Nat) :
    { s with accepted := s.accepted ++ [(pcb, p)] }.acceptedOn asked =
      s.acceptedOn asked ++ if some pcb = asked then [p] else [] := by
  unfold acceptedOn
  rw [List.filter_append, List.map_append]
  congr 1
  by_cases h : some pcb = asked
  · simp [h]
  · simp [h]

/-! ## What is left to read -/

/-- The stream reads the connection its caller opened last, and what is left to read of it waits. -/
structure Current (s : TcpStream n) (q : List Pbuf) : Prop where
  connection : s.connection = s.attempt
  unread : s.received ++ (payloads q).drop s.rxHeadOffset = payloads (s.acceptedOn s.attempt)

theorem Current.caller (h : Current s q) (caller : TcpCaller) :
    Current { s with caller := caller } q :=
  ⟨h.connection, h.unread⟩

theorem copyHead_eq {p : Pbuf} (hcursor : s.rxHeadOffset ≤ p.chain.totLen) (size : Nat) :
    s.copyHead p size = (p.chain.payload.drop s.rxHeadOffset).take size := by
  have hfits : p.chain.totLen < 65536 := p.chain.fits
  have hrest : (p.chain.payload.drop s.rxHeadOffset).length = p.chain.totLen - s.rxHeadOffset :=
    List.length_drop
  unfold copyHead Chain.copyPartial
  dsimp only
  rw [toUint16_of_le (by omega : s.rxHeadOffset ≤ 65535)]
  split
  · rw [toUint16_of_le (by omega)]
  · rw [toUint16_of_le (by omega), List.take_of_length_le hrest.le,
      List.take_of_length_le (by omega)]

/-- What a read copies is what was left to read, up to what is left after it. -/
theorem copyHead_append {p : Pbuf} (hcursor : s.rxHeadOffset ≤ p.chain.totLen) (size : Nat)
    (q : List Pbuf) : s.copyHead p size ++
      (payloads (p :: q)).drop (s.rxHeadOffset + (s.copyHead p size).length) =
      (payloads (p :: q)).drop s.rxHeadOffset := by
  have hcopied := copyHead_eq hcursor size
  have hle : s.rxHeadOffset ≤ p.chain.payload.length := hcursor
  have hhead : (payloads (p :: q)).drop s.rxHeadOffset =
      p.chain.payload.drop s.rxHeadOffset ++ payloads q := List.drop_append_of_le_length hle
  rw [← List.drop_drop, hhead]
  generalize p.chain.payload.drop s.rxHeadOffset = left at hcopied
  have hshort : (s.copyHead p size).length ≤ left.length := by
    rw [hcopied]
    exact List.length_take_le' ..
  have htake : left.take (s.copyHead p size).length = s.copyHead p size := by
    rw [hcopied, List.take_eq_take_iff, List.length_take]
    omega
  rw [List.drop_append_of_le_length hshort, ← List.append_assoc]
  congr 1
  conv_lhs => rw [← htake]
  rw [List.length_take, min_eq_left hshort, List.take_append_drop]

/-! ## Where the caller is -/

/-- What the queue is to the caller's thread where it stands. -/
def Mode (s : TcpStream n) (q : List Pbuf) : Prop :=
  match s.caller with
  | .openHop | .closeQueued => s.pcb = none
  | .readConnected .. | .readErrored .. | .waited =>
    s.rxHeadOffset = 0 ∧ q = s.acceptedOn s.attempt
  | .abortHop => True
  | .readQueued _ | .readEnded _ | .readHop _ => Current s q
  | .idle (some .closed) => s.pcb = none ∧ q = []
  | .idle _ | .sendErrored _ | .sendHop _ | .closeHop => s.pcb ≠ none → Current s q

theorem mode_of_isWaiting {caller : TcpCaller} (hwaits : IsWaiting caller)
    (h : s.rxHeadOffset = 0 ∧ q = s.acceptedOn s.attempt) : Mode { s with caller := caller } q := by
  cases caller <;> first | exact h | exact absurd hwaits id

theorem waiting_of_mode (hwaits : IsWaiting s.caller) (h : Mode s q) :
    s.rxHeadOffset = 0 ∧ q = s.acceptedOn s.attempt := by
  unfold Mode at h
  cases hcaller : s.caller <;> rw [hcaller] at hwaits h <;> first | exact h | exact absurd hwaits id

/-- Between two calls a stream that has a pcb reads the connection its caller opened last. -/
theorem Mode.current {last : Option TcpAnswer} {pcb : Nat} (h : Mode s q)
    (hcaller : s.caller = .idle last) (hpcb : s.pcb = some pcb) : Current s q := by
  have hsome : s.pcb ≠ none := by simp [hpcb]
  unfold Mode at h
  rw [hcaller] at h
  cases last with
  | none => exact h hsome
  | some a =>
    cases a with
    | closed => exact absurd h.1 hsome
    | opened ok => exact h hsome
    | sent ok => exact h hsome
    | read data => exact h hsome

/-- A callback on the pcb held leaves the caller's thread where it is. -/
theorem Mode.callback {q' : List Pbuf} {pcb : Nat} (h : Mode s q) (hpcb : s.pcb = some pcb)
    (hcaller : s'.caller = s.caller)
    (hwaits : s.rxHeadOffset = 0 ∧ q = s.acceptedOn s.attempt →
      s'.rxHeadOffset = 0 ∧ q' = s'.acceptedOn s'.attempt)
    (hcurrent : Current s q → Current s' q') : Mode s' q' := by
  have hsome : s.pcb ≠ none := by simp [hpcb]
  unfold Mode at h ⊢
  rw [hcaller]
  cases hat : s.caller with
  | idle last =>
    rw [hat] at h
    cases last with
    | none => exact fun _ => hcurrent (h hsome)
    | some a =>
      cases a with
      | closed => exact absurd h.1 hsome
      | opened ok => exact fun _ => hcurrent (h hsome)
      | sent ok => exact fun _ => hcurrent (h hsome)
      | read data => exact fun _ => hcurrent (h hsome)
  | openHop => rw [hat] at h; exact absurd h hsome
  | readConnected elapsedMs deadlineMs => rw [hat] at h; exact hwaits h
  | readErrored elapsedMs deadlineMs => rw [hat] at h; exact hwaits h
  | waited => rw [hat] at h; exact hwaits h
  | abortHop => trivial
  | sendErrored data => rw [hat] at h; exact fun _ => hcurrent (h hsome)
  | sendHop data => rw [hat] at h; exact fun _ => hcurrent (h hsome)
  | readQueued size => rw [hat] at h; exact hcurrent h
  | readEnded size => rw [hat] at h; exact hcurrent h
  | readHop size => rw [hat] at h; exact hcurrent h
  | closeQueued => rw [hat] at h; exact absurd h hsome
  | closeHop => rw [hat] at h; exact fun _ => hcurrent (h hsome)

/-! ## The queue at any time -/

variable [NeZero n]

/-- What holds of the queue at any time. -/
structure Queued (s : TcpStream n) (q : List Pbuf) : Prop where
  holds : s.rxQueue.Holds q
  cursor : Cursor q s.rxHeadOffset
  attached : s.attached = s.pcb.toList
  attempt : ∀ pcb, s.pcb = some pcb → s.attempt = some pcb
  known : ∀ pcb, s.pcb = some pcb → pcb < s.freshPcb
  fresh : ∀ a ∈ s.accepted, a.1 < s.freshPcb
  numbers : s.accepted.map (·.2.number) = List.range s.accepted.length
  freed : s.freed ++ q.map (·.number) = s.accepted.map (·.2.number)
  waiting : q <:+ s.acceptedOn s.attempt
  inOrder : s.received <+: payloads (s.acceptedOn s.connection)
  ownBytes : ∀ r ∈ s.readFrom, ∃ pcb, r.1 = some pcb ∧ (pcb, r.2) ∈ s.accepted

theorem Queued.initial : Queued (initial : TcpStream n) [] where
  holds := Ring.Holds.empty
  cursor := rfl
  attached := rfl
  attempt := nofun
  known := nofun
  fresh := nofun
  numbers := rfl
  freed := rfl
  waiting := List.suffix_rfl
  inOrder := List.prefix_rfl
  ownBytes := nofun

/-- The caller's thread and the flags are of no matter to the queue. -/
theorem Queued.frame (h : Queued s q) (hsame : s' = { s with
    caller := s'.caller, takenOpen := s'.takenOpen, connected := s'.connected,
    errored := s'.errored }) : Queued s' q := by
  rw [hsame]
  exact ⟨h.holds, h.cursor, h.attached, h.attempt, h.known, h.fresh, h.numbers, h.freed, h.waiting,
    h.inOrder, h.ownBytes⟩

theorem Queued.emit (h : Queued s q) (event : TcpEvent) (hobtains : pcbs.obtains event = none) :
    Queued (s.emit event) q := by
  have hfresh := freshPcb_emit s hobtains
  exact ⟨h.holds, h.cursor, h.attached, h.attempt, hfresh ▸ h.known, hfresh ▸ h.fresh, h.numbers,
    h.freed, h.waiting, h.inOrder, h.ownBytes⟩

/-- The pcb goes. -/
theorem Queued.drop (h : Queued s q) {pcb : Nat} (hpcb : s.pcb = some pcb) :
    Queued { s.detachPcb pcb with pcb := none } q := by
  refine ⟨h.holds, h.cursor, ?_, nofun, nofun, h.fresh, h.numbers, h.freed, h.waiting, h.inOrder,
    h.ownBytes⟩
  exact erase_attached h.attached hpcb

theorem Queued.doAbort (h : Queued s q) : Queued s.doAbort q ∧ s.doAbort.pcb = none := by
  unfold TcpStream.doAbort
  split
  · next pcb hpcb => exact ⟨(h.drop hpcb).emit (.abort (some pcb)) rfl, rfl⟩
  · next hnone => exact ⟨h, hnone⟩

/-! ## Draining -/

theorem drainQueued_holds (h : s.rxQueue.Holds q) : ∃ rxQueue, rxQueue.Holds [] ∧
    s.drainQueued q.length =
      { s with rxQueue := rxQueue, freed := s.freed ++ q.map (·.number) } := by
  induction q generalizing s with
  | nil => exact ⟨s.rxQueue, h, by simp [drainQueued]⟩
  | cons p q ih =>
    obtain ⟨rxQueue, hrx, heq⟩ := @ih { s.pbufFree p with rxQueue := s.rxQueue.dequeue } h.dequeue
    refine ⟨rxQueue, hrx, ?_⟩
    rw [List.length_cons, drainQueued, h.front_eq]
    dsimp only
    rw [heq]
    simp [pbufFree]

/-- After a drain nothing waits. -/
theorem Queued.drainAllQueuedPbufs (h : Queued s q) :
    Queued s.drainAllQueuedPbufs [] ∧ s.drainAllQueuedPbufs.pcb = s.pcb := by
  obtain ⟨rxQueue, hrx, heq⟩ := drainQueued_holds h.holds
  unfold TcpStream.drainAllQueuedPbufs
  rw [h.holds.count, heq]
  refine ⟨⟨hrx, rfl, h.attached, h.attempt, h.known, h.fresh, h.numbers, ?_, List.nil_suffix,
    h.inOrder, h.ownBytes⟩, rfl⟩
  simpa using h.freed

theorem Queued.closePcb (h : Queued s q) :
    Queued (s.closePcb outside) [] ∧ (s.closePcb outside).pcb = none := by
  obtain ⟨hdrained, hpcb⟩ := h.drainAllQueuedPbufs
  unfold TcpStream.closePcb
  dsimp only
  split
  · next pcb hsome =>
    have hclosed := (hdrained.drop hsome).emit (.close (some pcb) outside.close) rfl
    split
    · exact ⟨hclosed, rfl⟩
    · exact ⟨hclosed.emit (.abort (some pcb)) rfl, rfl⟩
  · next hnone => exact ⟨hdrained, hnone⟩

/-! ## Setting up -/

theorem acceptedOn_fresh (h : Queued s q) : s.acceptedOn (some s.freshPcb) = [] := by
  unfold acceptedOn
  rw [List.map_eq_nil_iff, List.filter_eq_nil_iff]
  intro a ha
  have hlt := h.fresh a ha
  simp only [Option.some.injEq, decide_eq_true_eq]
  omega

/-- A connection is set up on an empty queue. -/
theorem Queued.setUp (h : Queued s []) (hnone : s.pcb = none)
    (hcreated : outside.pcbCreated = true) :
    Queued (s.doOpenAndConnect outside) [] ∧ (s.doOpenAndConnect outside).rxHeadOffset = 0 ∧
      (s.doOpenAndConnect outside).acceptedOn (s.doOpenAndConnect outside).attempt = [] := by
  have hattached : s.attached = [] := by rw [h.attached, hnone]; rfl
  have hmore : s.freshPcb < (pcbs.obtained (s.trace ++ [.new s.freshPcb])).length := by
    rw [Handling.obtained_concat, List.length_append]
    exact Nat.lt_succ_self _
  unfold TcpStream.doOpenAndConnect
  rw [if_pos hcreated]
  refine ⟨?_, h.cursor, acceptedOn_fresh h⟩
  apply Queued.emit _ _ rfl
  refine ⟨h.holds, h.cursor, ?_, fun pcb hpcb => hpcb, ?_, ?_, h.numbers, h.freed, List.nil_suffix,
    h.inOrder, h.ownBytes⟩
  · change s.freshPcb :: s.attached = [s.freshPcb]
    rw [hattached]
  · intro pcb hpcb
    obtain rfl := Option.some.inj hpcb
    exact hmore
  · exact fun a ha => (h.fresh a ha).trans hmore

/-- Without a pcb there is no connection to set up. -/
theorem Queued.notSetUp (h : Queued s q) (hnone : s.pcb = none)
    (hfailed : ¬ outside.pcbCreated = true) :
    Queued (s.doOpenAndConnect outside) q ∧ (s.doOpenAndConnect outside).pcb = none := by
  have hattached : s.attached = [] := by rw [h.attached, hnone]; rfl
  unfold TcpStream.doOpenAndConnect
  rw [if_neg hfailed]
  exact ⟨⟨h.holds, h.cursor, hattached, nofun, nofun, h.fresh, h.numbers, h.freed, h.waiting,
    h.inOrder, h.ownBytes⟩, rfl⟩

/-! ## Receiving -/

/-- A chain accepted from the pcb held goes behind those that wait. -/
theorem Queued.accept (h : Queued s q) {pcb : Nat} (hpcb : s.pcb = some pcb)
    (hroom : s.rxQueue.count < n) (chain : Chain) :
    Queued { s with
      rxQueue := s.rxQueue.enqueue ⟨s.accepted.length, chain⟩
      accepted := s.accepted ++ [(pcb, ⟨s.accepted.length, chain⟩)] }
      (q ++ [⟨s.accepted.length, chain⟩]) := by
  refine ⟨h.holds.enqueue hroom _, h.cursor.concat _, h.attached, h.attempt,
    h.known, ?_, ?_, ?_, ?_, ?_, ?_⟩
  · intro a ha
    rcases List.mem_append.1 ha with hold | hnew
    · exact h.fresh a hold
    · rw [List.mem_singleton.1 hnew]
      exact h.known pcb hpcb
  · simp [h.numbers, List.range_succ]
  · have hfreed := h.freed
    simp only [List.map_append, List.map_cons, List.map_nil, ← List.append_assoc, hfreed]
  · change _ <:+ { s with accepted := s.accepted ++ [(pcb, _)] }.acceptedOn s.attempt
    rw [acceptedOn_concat, h.attempt pcb hpcb, if_pos rfl]
    obtain ⟨before, hbefore⟩ := h.waiting
    refine ⟨before, ?_⟩
    rw [← List.append_assoc, hbefore, h.attempt pcb hpcb]
  · change s.received <+: payloads
      ({ s with accepted := s.accepted ++ [(pcb, _)] }.acceptedOn s.connection)
    rw [acceptedOn_concat, payloads_append]
    exact h.inOrder.trans (List.prefix_append _ _)
  · intro r hr
    obtain ⟨pcb', hconnection, hmem⟩ := h.ownBytes r hr
    exact ⟨pcb', hconnection, List.mem_append_left _ hmem⟩

theorem Current.accept (hcurrent : Current s q) (h : Queued s q) {pcb : Nat}
    (hpcb : s.pcb = some pcb)
    (p : Pbuf) (rxQueue : Ring Pbuf n) :
    Current { s with rxQueue := rxQueue, accepted := s.accepted ++ [(pcb, p)] } (q ++ [p]) := by
  refine ⟨hcurrent.connection, ?_⟩
  change s.received ++ (payloads (q ++ [p])).drop s.rxHeadOffset =
    payloads ({ s with accepted := s.accepted ++ [(pcb, p)] }.acceptedOn s.attempt)
  rw [acceptedOn_concat, h.attempt pcb hpcb, if_pos rfl, payloads_append, payloads_append,
    List.drop_append_of_le_length h.cursor.le_length, ← List.append_assoc, hcurrent.unread,
    h.attempt pcb hpcb]

/-! ## Reading -/

theorem mem_accepted (h : Queued s q) {p : Pbuf} (hp : p ∈ q) :
    ∃ pcb, s.attempt = some pcb ∧ (pcb, p) ∈ s.accepted := by
  have hmem := h.waiting.subset hp
  unfold acceptedOn at hmem
  obtain ⟨⟨pcb, p'⟩, ha, rfl⟩ := List.mem_map.1 hmem
  obtain ⟨haccepted, hpcb⟩ := List.mem_filter.1 ha
  exact ⟨pcb, (of_decide_eq_true hpcb).symm, haccepted⟩

/-- A read takes what it copies from what is left to read. -/
theorem Queued.drainHeadBytes {p : Pbuf} (h : Queued s (p :: q)) (hcurrent : Current s (p :: q))
    (size : Nat) : ∃ q', Queued (s.drainHeadBytes size).2 q' ∧
      Current (s.drainHeadBytes size).2 q' := by
  have hcursor : s.rxHeadOffset ≤ p.chain.totLen := h.cursor
  have hleft := copyHead_append hcursor size q
  have hreceived : s.received ++ s.copyHead p size ++
      (payloads (p :: q)).drop (s.rxHeadOffset + (s.copyHead p size).length) =
      payloads (s.acceptedOn s.attempt) := by
    rw [List.append_assoc, hleft, hcurrent.unread]
  have hinOrder : s.received ++ s.copyHead p size <+: payloads (s.acceptedOn s.connection) := by
    rw [hcurrent.connection, ← hreceived]
    exact List.prefix_append _ _
  have hown : ∀ r ∈ s.readFrom ++ [(s.connection, p)],
      ∃ pcb, r.1 = some pcb ∧ (pcb, r.2) ∈ s.accepted := by
    intro r hr
    rcases List.mem_append.1 hr with hold | hnew
    · exact h.ownBytes r hold
    · rw [List.mem_singleton.1 hnew]
      obtain ⟨pcb, hattempt, hmem⟩ := mem_accepted h List.mem_cons_self
      exact ⟨pcb, hcurrent.connection.trans hattempt, hmem⟩
  unfold TcpStream.drainHeadBytes
  rw [h.holds.front_eq]
  dsimp only
  split
  · next hdrained =>
    -- the head is read to its end: it is freed, and the next pbuf is read from its start
    have hwhole : (payloads (p :: q)).drop (s.rxHeadOffset + (s.copyHead p size).length) =
        payloads q := by
      have hend : s.rxHeadOffset + (s.copyHead p size).length = p.chain.payload.length := by
        have hlength : (s.copyHead p size).length ≤ p.chain.totLen - s.rxHeadOffset := by
          rw [copyHead_eq hcursor, List.length_take, List.length_drop]
          exact Nat.min_le_right _ _
        have htotal : p.chain.payload.length = p.chain.totLen := rfl
        omega
      rw [hend]
      exact List.drop_left
    refine ⟨q, ⟨h.holds.dequeue, ?_, h.attached, h.attempt, h.known, h.fresh, h.numbers, ?_, ?_,
      hinOrder, hown⟩, hcurrent.connection, ?_⟩
    · cases q with
      | nil => rfl
      | cons next rest => exact Nat.zero_le _
    · simpa [pbufFree] using h.freed
    · exact (List.suffix_cons p q).trans h.waiting
    · rw [hwhole] at hreceived
      exact hreceived
  · next hmore =>
    refine ⟨p :: q, ⟨h.holds, ?_, h.attached, h.attempt, h.known, h.fresh, h.numbers, h.freed,
      h.waiting, hinOrder, hown⟩, hcurrent.connection, hreceived⟩
    exact (not_le.1 hmore).le

theorem Queued.doRead (h : Queued s q) (hcurrent : Current s q) (size : Nat) :
    ∃ q', Queued (s.doRead size outside) q' ∧
      ((s.doRead size outside).pcb ≠ none → Current (s.doRead size outside) q') ∧
      ∃ data, (s.doRead size outside).caller = .idle (some (.read data)) := by
  unfold TcpStream.doRead
  split
  · next hqueued =>
    cases q with
    | nil =>
      rw [h.holds.count] at hqueued
      exact absurd hqueued (lt_irrefl 0)
    | cons p q =>
      obtain ⟨q', hread, hleft⟩ := h.drainHeadBytes hcurrent size
      have hacked := hread.emit (.recved (s.drainHeadBytes size).2.pcb
        (toUint16 (s.drainHeadBytes size).1.length)) rfl
      exact ⟨q', hacked.frame rfl, fun _ => ⟨hleft.connection, hleft.unread⟩, _, rfl⟩
  · obtain ⟨hclosed, hnone⟩ := @Queued.closePcb _ _ outside _ _ h
    exact ⟨[], hclosed.frame rfl, fun hsome => absurd hnone hsome, _, rfl⟩

theorem Queued.sendOrCloseOnFailure (h : Queued s q) (hcurrent : s.pcb ≠ none → Current s q)
    (data : Bytes) : ∃ q', Queued (s.sendOrCloseOnFailure data outside).2 q' ∧
      ((s.sendOrCloseOnFailure data outside).2.pcb ≠ none →
        Current (s.sendOrCloseOnFailure data outside).2 q') := by
  unfold TcpStream.sendOrCloseOnFailure
  have hwritten := h.emit (.write s.pcb (data.take (toUint16 data.length)) outside.write) rfl
  dsimp only
  split
  · have hnudged := hwritten.emit (.output s.pcb outside.output) rfl
    split
    · refine ⟨q, hnudged, fun hsome => ?_⟩
      have hsame := hcurrent hsome
      exact ⟨hsame.connection, hsame.unread⟩
    · obtain ⟨hclosed, hnone⟩ := @Queued.closePcb _ _ outside _ _ hnudged
      exact ⟨[], hclosed, fun hsome => absurd hnone hsome⟩
  · obtain ⟨hclosed, hnone⟩ := @Queued.closePcb _ _ outside _ _ hwritten
    exact ⟨[], hclosed, fun hsome => absurd hnone hsome⟩

/-! ## Moves -/

/-- What holds between any two moves. -/
def BytesSound (s : TcpStream n) : Prop :=
  ∃ q, Queued s q ∧ Mode s q

theorem BytesSound.faithful (h : BytesSound s) : Faithful s := by
  obtain ⟨q, hqueued, hmode⟩ := h
  have hfreed := hqueued.freed
  refine ⟨hqueued.inOrder, hqueued.ownBytes, ?_, ?_, ⟨_, hfreed⟩, ?_⟩
  · rw [hqueued.holds.count]
    exact hqueued.holds.room
  · rw [hqueued.numbers]
    exact List.nodup_range
  · intro hclosed
    unfold Mode at hmode
    rw [hclosed] at hmode
    obtain ⟨-, rfl⟩ := hmode
    simpa using hfreed

/-- A call ends that is not a `Close`. -/
theorem Queued.answer (h : Queued s q) (hcurrent : s.pcb ≠ none → Current s q) {a : TcpAnswer}
    (ha : a ≠ .closed) : BytesSound (s.answer a) := by
  refine ⟨q, h.frame rfl, ?_⟩
  have hsame : (s.answer a).pcb ≠ none → Current (s.answer a) q :=
    fun hsome => ⟨(hcurrent hsome).connection, (hcurrent hsome).unread⟩
  cases a with
  | closed => exact absurd rfl ha
  | opened ok => exact hsame
  | sent ok => exact hsame
  | read data => exact hsame

/-- A call ends with no pcb left. -/
theorem Queued.answerNone (h : Queued s q) (hnone : s.pcb = none) {a : TcpAnswer}
    (ha : a ≠ .closed) :
    BytesSound (s.answer a) :=
  h.answer (fun hsome => absurd hnone hsome) ha

theorem Queued.closed (h : Queued s []) (hnone : s.pcb = none) : BytesSound (s.answer .closed) :=
  ⟨[], h.frame rfl, hnone, rfl⟩

theorem Queued.goTo (h : Queued s q) {caller : TcpCaller}
    (hmode : Mode { s with caller := caller } q) :
    BytesSound { s with caller := caller } :=
  ⟨q, h.frame rfl, hmode⟩

/-- An `Open` that waited ends with what has come in on its connection. -/
theorem Queued.openSucceeds (h : Queued s q) (hoffset : s.rxHeadOffset = 0)
    (hall : q = s.acceptedOn s.attempt) : BytesSound s.openSucceeds := by
  refine ⟨q, ⟨h.holds, h.cursor, h.attached, h.attempt, h.known, h.fresh, h.numbers, h.freed,
    h.waiting, List.nil_prefix, h.ownBytes⟩, fun _ => ⟨rfl, ?_⟩⟩
  change [] ++ (payloads q).drop s.rxHeadOffset = payloads (s.acceptedOn s.attempt)
  rw [hoffset, ← hall]
  rfl

theorem BytesSound.goOn (h : BytesSound s) (hempty : SetsUpEmpty s (.goOn outside))
    (hmoved : s.goOn C outside = some s') : BytesSound s' := by
  obtain ⟨q, hqueued, hmode⟩ := h
  unfold Mode at hmode
  cases goOn_cases hmoved with
  | setUp stands created goes =>
    rw [stands] at hmode
    obtain rfl : q = [] := hqueued.holds.eq_nil_iff.2 (hempty stands created)
    obtain ⟨hset, hoffset, hfresh⟩ := hqueued.setUp hmode created
    rcases goes with hwaits | rfl
    · exact hset.goTo (mode_of_isWaiting hwaits ⟨hoffset, hfresh.symm⟩)
    · exact hset.goTo trivial
  | notSetUp stands failed =>
    rw [stands] at hmode
    obtain ⟨hkept, hnone⟩ := hqueued.notSetUp hmode failed
    exact hkept.answerNone hnone nofun
  | waits stands goes => exact hqueued.goTo (mode_of_isWaiting goes (waiting_of_mode stands hmode))
  | opens stands =>
    rw [stands] at hmode
    exact hqueued.openSucceeds hmode.1 hmode.2
  | givesUp stands => exact hqueued.goTo trivial
  | aborts stands =>
    obtain ⟨haborted, hnone⟩ := hqueued.doAbort
    exact haborted.answerNone hnone nofun
  | findsErrored stands =>
    rw [stands] at hmode
    exact hqueued.answer hmode nofun
  | findsWell stands well =>
    rw [stands] at hmode
    exact hqueued.goTo fun hsome => (hmode hsome).caller _
  | sends stands =>
    rw [stands] at hmode
    obtain ⟨q', hsent, hcurrent⟩ := hqueued.sendOrCloseOnFailure hmode _
    exact hsent.answer hcurrent nofun
  | looks stands goes =>
    have hcurrent : Current s q := by
      rcases stands with stands | stands
      · rwa [stands] at hmode
      · rwa [stands] at hmode
    rcases goes with rfl | rfl
    · exact hqueued.goTo (hcurrent.caller _)
    · exact hqueued.goTo (hcurrent.caller _)
  | readsNothing stands =>
    rw [stands] at hmode
    exact hqueued.answer (fun _ => hmode) nofun
  | reads stands =>
    rw [stands] at hmode
    obtain ⟨q', hread, hcurrent, data, hreturned⟩ := hqueued.doRead hmode _
    refine ⟨q', hread, ?_⟩
    unfold Mode
    rw [hreturned]
    exact hcurrent
  | findsQueued stands =>
    rw [stands] at hmode
    exact hqueued.goTo fun hsome => absurd hmode hsome
  | findsNothing stands empty =>
    rw [stands] at hmode
    obtain rfl : q = [] := hqueued.holds.eq_nil_iff.2 empty
    exact hqueued.closed hmode
  | closes stands =>
    obtain ⟨hclosed, hnone⟩ := hqueued.closePcb
    exact hclosed.closed hnone

/-! ## Callbacks -/

theorem BytesSound.connectedCallback (h : BytesSound s) {pcb : Nat} (hattached : pcb ∈ s.attached)
    (err : LwipErr) : BytesSound (s.connectedCallback err) := by
  obtain ⟨q, hqueued, hmode⟩ := h
  have hpcb := pcb_of_attached hqueued.attached hattached
  unfold TcpStream.connectedCallback
  split
  · exact ⟨q, hqueued.frame rfl, hmode.callback hpcb rfl id fun h => ⟨h.connection, h.unread⟩⟩
  · exact ⟨q, hqueued.frame rfl, hmode.callback hpcb rfl id fun h => ⟨h.connection, h.unread⟩⟩

theorem BytesSound.recvCallback (h : BytesSound s) {pcb : Nat} (hattached : pcb ∈ s.attached)
    (p : Option Chain) : BytesSound (s.recvCallback pcb p) := by
  have hsound := h
  obtain ⟨q, hqueued, hmode⟩ := h
  have hpcb := pcb_of_attached hqueued.attached hattached
  unfold TcpStream.recvCallback
  split
  · exact ⟨q, hqueued.frame rfl, hmode.callback hpcb rfl id fun h => ⟨h.connection, h.unread⟩⟩
  · next chain =>
    split
    · exact hsound
    · next hroom =>
      refine ⟨_, hqueued.accept hpcb (not_le.1 hroom) chain, hmode.callback hpcb rfl ?_ ?_⟩
      · rintro ⟨hoffset, hall⟩
        refine ⟨hoffset, ?_⟩
        change _ = { s with accepted := s.accepted ++ [(pcb, _)] }.acceptedOn s.attempt
        rw [acceptedOn_concat, hqueued.attempt pcb hpcb, if_pos rfl,
          ← hqueued.attempt pcb hpcb, hall]
      · exact fun hcurrent => hcurrent.accept hqueued hpcb _ _

theorem BytesSound.errCallback (h : BytesSound s) {pcb : Nat} (hattached : pcb ∈ s.attached) :
    BytesSound (s.errCallback pcb) := by
  obtain ⟨q, hqueued, hmode⟩ := h
  have hpcb := pcb_of_attached hqueued.attached hattached
  have hdropped := (hqueued.drop hpcb).emit (.err pcb) rfl
  refine ⟨q, hdropped.frame rfl, ?_⟩
  exact hmode.callback hpcb rfl id fun h => ⟨h.connection, h.unread⟩

theorem BytesSound.move {move : TcpMove} (h : BytesSound s)
    (hrule : Permitted s move ∧ SetsUpEmpty s move) (hmoved : s.move C move = some s') :
    BytesSound s' := by
  have hsound := h
  obtain ⟨q, hqueued, hmode⟩ := h
  cases move with
  | openStream =>
    obtain ⟨⟨last, hcaller⟩, ⟨⟨pcb, hpcb⟩, rfl⟩ | ⟨hnone, rfl⟩⟩ := start_cases hmoved
    · exact hqueued.answer (fun _ => hmode.current hcaller hpcb) nofun
    · exact hqueued.goTo hnone
  | send data =>
    obtain ⟨⟨last, hcaller⟩, ⟨⟨pcb, hpcb⟩, rfl⟩ | ⟨hnone, rfl⟩⟩ := start_cases hmoved
    · exact hqueued.goTo fun _ => (hmode.current hcaller hpcb).caller _
    · exact hqueued.answerNone hnone nofun
  | read size =>
    obtain ⟨⟨last, hcaller⟩, ⟨⟨pcb, hpcb⟩, rfl⟩ | ⟨hnone, rfl⟩⟩ := start_cases hmoved
    · exact hqueued.goTo ((hmode.current hcaller hpcb).caller _)
    · exact hqueued.answerNone hnone nofun
  | close =>
    obtain ⟨⟨last, hcaller⟩, ⟨⟨pcb, hpcb⟩, rfl⟩ | ⟨hnone, rfl⟩⟩ := start_cases hmoved
    · exact hqueued.goTo fun _ => (hmode.current hcaller hpcb).caller _
    · exact hqueued.goTo hnone
  | goOn outside => exact hsound.goOn hrule.2 hmoved
  | connectedCallback pcb err =>
    obtain ⟨hattached, rfl⟩ := called_cases hmoved
    exact hsound.connectedCallback hattached err
  | recvCallback pcb p =>
    obtain ⟨hattached, rfl⟩ := called_cases hmoved
    exact hsound.recvCallback hattached p
  | errCallback pcb =>
    obtain ⟨hattached, rfl⟩ := called_cases hmoved
    exact hsound.errCallback hattached

/-- Where every connection is set up with no pbuf queued, what is read is what came in on the
connection, and every pbuf accepted is freed once. -/
theorem reads_own_connection
    (h : Reached (move C) (fun s move => Permitted s move ∧ SetsUpEmpty s move)
    (initial : TcpStream n) s) : Faithful s :=
  (h.invariant (I := BytesSound) ⟨[], Queued.initial, fun hsome => absurd rfl hsome⟩
    BytesSound.move).faithful

/-! ## Runs -/

instance (s : TcpStream n) (move : TcpMove) : Decidable (Permitted s move) :=
  match move with
  | .openStream => inferInstanceAs (Decidable (s.takenOpen = false))
  | .send _ | .read _ | .close | .goOn _ | .connectedCallback .. | .recvCallback
      .. | .errCallback _ =>
    .isTrue trivial

instance (s : TcpStream n) (move : TcpMove) : Decidable (SetsUpEmpty s move) :=
  match move with
  | .goOn outside => inferInstanceAs (Decidable
    (s.caller = .openHop → outside.pcbCreated = true → s.rxQueue.count = 0))
  | .openStream | .send _ | .read _ | .close | .connectedCallback .. | .recvCallback .. |
    .errCallback _ => .isTrue trivial

/-- Two chains come in and the first is read; the peer resets the connection, the stream is closed
and opened again. -/
def closedBetween : List TcpMove :=
  connects 0 ++ [.recvCallback 0 (oneByte 1), .recvCallback 0 (oneByte 2), .read 4, .goOn allWell,
    .goOn allWell, .errCallback 0, .close, .goOn allWell, .goOn allWell] ++ connects 1 ++
    [.recvCallback 1 (oneByte 3), .read 4, .goOn allWell, .goOn allWell]

theorem closedBetween_faithful : ∃ s, runMoves (move onePollConnect)
    (fun s move => Permitted s move ∧ SetsUpEmpty s move) neverOpened closedBetween = some s ∧
      s.received = [3] ∧ s.freed = [0, 1, 2] ∧ Faithful s := by
  have hrun : ∃ s, runMoves (move onePollConnect)
      (fun s move => Permitted s move ∧ SetsUpEmpty s move) neverOpened closedBetween = some s ∧
      s.received = [3] ∧ s.freed = [0, 1, 2] :=
    ⟨_, rfl, rfl, rfl⟩
  obtain ⟨s, hs, hreceived, hfreed⟩ := hrun
  exact ⟨s, hs, hreceived, hfreed, reads_own_connection (Reached.of_runMoves hs)⟩

/-- A byte comes in, the peer resets the connection, a read fails, and the stream is opened
again. -/
def reopenedOnQueue : List TcpMove :=
  connects 0 ++ [.recvCallback 0 (oneByte 1), .errCallback 0, .read 4] ++ connects 1 ++
    [.recvCallback 1 (oneByte 2), .read 4, .goOn allWell, .goOn allWell]

/-- The byte of the first connection is read on the second. -/
theorem reopened_reads_earlier_byte : ¬ ∀ s : TcpStream 2,
    Reached (move onePollConnect) Permitted neverOpened s → Faithful s := by
  intro hall
  have hrun : ∃ s, runMoves (move onePollConnect) Permitted neverOpened reopenedOnQueue = some s ∧
      s.received = [1] ∧ payloads (s.acceptedOn s.connection) = [2] :=
    ⟨_, rfl, rfl, rfl⟩
  obtain ⟨s, hs, hreceived, haccepted⟩ := hrun
  have hinOrder := (hall s (Reached.of_runMoves hs)).inOrder
  rw [hreceived, haccepted] at hinOrder
  exact absurd hinOrder (by decide)

end TcpStream

end SolidSyslog.LwipRaw
