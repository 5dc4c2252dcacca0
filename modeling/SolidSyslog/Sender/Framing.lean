import SolidSyslog.Sender.StreamSender

/-!
# Every connection carries counted frames

On each connection of the stream the records whose `Send` returned true stand one after the other,
each behind its length; the frame of a stream send that fails ends its connection. A receiver that
counts octets reads back every such record.
-/

namespace SolidSyslog.Sender

open Format Lib Lib.OctetCounting

/-- The bytes of a connection are whole frames of the records delivered on it; behind a stream send
that failed it is closed, with part of one more frame. -/
def Framed (c : Connection) : Prop :=
  match c.torn with
  | none => c.out = c.delivered.flatMap frame
  | some record => c.isOpen = false ∧
    ∃ part, part <+: frame record ∧ c.out = c.delivered.flatMap frame ++ part

/-- The stream is opened when it is not open. Bytes go out on an open connection on which no stream
send has failed, of the versions its `Send` saw. A `Send` returns true when none of its stream sends
has failed and the connection is open. -/
def Admissible (before : List StreamEvent) (entry : StreamEvent) : Prop :=
  let w := Wire.of before
  match entry with
  | .opened _ => w.live = none
  | .sent asked put ok => put <+: asked ∧ (ok = true → put = asked) ∧
    ∃ c, w.live = some c ∧ c.torn = none ∧
      c.endpointVersion = w.endpointVersion ∧ c.streamVersion = w.streamVersion
  | .returned true => w.failed = false ∧ ∃ c, w.live = some c ∧ c.torn = none
  | _ => True

/-- A run of the sender keeps to the stream's contract, every connection is framed, and a receiver
reads back each record delivered on it, and at most one more: that of the stream send that
failed. -/
structure OctetCounted (s : StreamSender) : Prop where
  admissible : Always Admissible s.trace
  framed : ∀ c ∈ (Wire.of s.trace).connections, Framed c
  decoded : ∀ c ∈ (Wire.of s.trace).connections,
    decode c.out = c.delivered ∨ ∃ record, c.torn = some record ∧ decode c.out =
      c.delivered ++ [record]

/-- The records are short enough for their length to be counted. -/
def Counted (_ : StreamSender) : SenderCall → Prop
  | .send record _ => record.length < 4294967296
  | .disconnect => True

theorem Framed.decoded {c : Connection} (h : Framed c) :
    decode c.out = c.delivered ∨
      ∃ record, c.torn = some record ∧ decode c.out = c.delivered ++ [record] := by
  unfold Framed at h
  cases htorn : c.torn with
  | none =>
    rw [htorn] at h
    left
    have hempty : decode [] = [] := by rw [decode]; rfl
    rw [h, ← List.append_nil (c.delivered.flatMap frame), decode_frames, hempty, List.append_nil]
  | some record =>
    rw [htorn] at h
    obtain ⟨-, part, hpart, hout⟩ := h
    rw [hout, decode_frames_part hpart]
    split
    · exact .inr ⟨record, rfl, rfl⟩
    · exact .inl (List.append_nil _)

theorem Framed.close {c : Connection} (h : Framed c) : Framed { c with isOpen := false } := by
  unfold Framed at h ⊢
  cases htorn : c.torn with
  | none => simpa [htorn] using h
  | some record =>
    rw [htorn] at h
    exact ⟨rfl, h.2⟩

namespace StreamSender

variable {s s' : StreamSender} {record : Bytes} {answers : SendAnswers}

/-! ## The length -/

/-- A record goes out behind its length. -/
theorem formatOctetCountingPrefix_eq (h : record.length < 4294967296) :
    (formatOctetCountingPrefix record.length).asFormattedBuffer.bytes ++ record = frame record := by
  have hsize := uint32Bytes_length h
  have hlength : formatOctetCountingPrefix record.length =
      ⟨octetCountingCapacity, decimal record.length ++ [0x20]⟩ := by
    unfold formatOctetCountingPrefix toUint32
    rw [Nat.mod_eq_of_lt h, ← uint32Bytes_eq h, Formatter.uint32, Formatter.writeBytes_of_fits]
    · have hroom : Formatter.hasCapacity
        ⟨octetCountingCapacity, uint32Bytes record.length⟩ = true := by
        rw [Formatter.hasCapacity, Bool.and_eq_true, decide_eq_true_eq, decide_eq_true_eq]
        change 0 < 12 ∧ (uint32Bytes record.length).length < 12 - 1
        omega
      change Formatter.writeChar ⟨octetCountingCapacity, uint32Bytes record.length⟩ 0x20 = _
      rw [Formatter.writeChar, if_pos hroom]
    · change 0 + (uint32Bytes record.length).length < 12
      omega
  have hascii : ∀ b ∈ (formatOctetCountingPrefix record.length).bytes, b < 0x80 := by
    rw [hlength]
    intro b hb
    rcases List.mem_append.1 hb with hdigit | hspace
    · have hrange := (isDigit_iff b).1 (isDigit_decimal _ b hdigit)
      rw [UInt8.lt_iff_toNat_lt]
      have h128 : (0x80 : UInt8).toNat = 128 := rfl
      omega
    · rw [List.mem_singleton.1 hspace]
      decide
  rw [Formatter.asFormattedBuffer_of_ascii hascii, hlength]
  simp [frame]

/-! ## Between two stream calls -/

/-- What holds of the trace whenever no frame is half out. -/
structure Rest (s : StreamSender) : Prop where
  admissible : Always Admissible s.trace
  ended : ∀ c ∈ (Wire.of s.trace).ended, Framed c
  last : ∀ c ∈ (Wire.of s.trace).connection, Framed c
  closed : s.connected = false → (Wire.of s.trace).live = none
  live : s.connected = true → ∃ c, (Wire.of s.trace).live = some c ∧ c.torn = none ∧
    c.endpointVersion = s.lastEndpointVersion ∧ c.streamVersion = s.lastStreamVersion

theorem live_eq_some {w : Wire} {c : Connection} :
    w.live = some c ↔ w.connection = some c ∧ c.isOpen = true := by
  simp [Wire.live, Option.filter_eq_some_iff]

theorem live_eq_none {w : Wire} : w.live = none ↔ ∀ c ∈ w.connection, c.isOpen = false := by
  simp [Wire.live, Option.filter_eq_none_iff]

theorem Rest.initial : Rest initial :=
  ⟨Always.nil, nofun, nofun, fun _ => rfl, nofun⟩

theorem Rest.octetCounted (h : Rest s) : OctetCounted s := by
  have hframed : ∀ c ∈ (Wire.of s.trace).connections, Framed c := by
    intro c hc
    rcases List.mem_append.1 hc with hc | hc
    · exact h.ended c hc
    · exact h.last c (Option.mem_toList.1 hc)
  exact ⟨h.admissible, hframed, fun c hc => (hframed c hc).decoded⟩

/-- An entry that puts nothing out. -/
theorem Rest.emit (h : Rest s) (event : StreamEvent) (hadmissible : Admissible s.trace event)
    (hsame : ((Wire.of s.trace).observe event).connection = (Wire.of s.trace).connection ∧
      ((Wire.of s.trace).observe event).ended = (Wire.of s.trace).ended) : Rest (s.emit event) := by
  obtain ⟨hconnection, hended⟩ := hsame
  have hwire : Wire.of (s.emit event).trace = (Wire.of s.trace).observe event := Wire.of_concat _ _
  have hlive : ((Wire.of s.trace).observe event).live = (Wire.of s.trace).live := by
    unfold Wire.live
    rw [hconnection]
  refine ⟨h.admissible.concat hadmissible, ?_, ?_, ?_, ?_⟩
  · rw [hwire, hended]
    exact h.ended
  · rw [hwire, hconnection]
    exact h.last
  · rw [hwire, hlive]
    exact h.closed
  · rw [hwire, hlive]
    exact h.live

theorem Rest.disconnect (h : Rest s) : Rest s.disconnect ∧
    (s.disconnect.connected = false) ∧
    (Wire.of s.disconnect.trace).record = (Wire.of s.trace).record ∧
    (Wire.of s.disconnect.trace).failed = (Wire.of s.trace).failed ∧
    (Wire.of s.disconnect.trace).endpointVersion = (Wire.of s.trace).endpointVersion ∧
    (Wire.of s.disconnect.trace).streamVersion = (Wire.of s.trace).streamVersion := by
  unfold StreamSender.disconnect
  split
  · have hwire : Wire.of s.closeStream.trace = (Wire.of s.trace).observe .closed :=
      Wire.of_concat _ _
    refine ⟨⟨h.admissible.concat trivial, ?_, ?_, ?_, nofun⟩, rfl, ?_⟩
    · rw [hwire]
      exact h.ended
    · rw [hwire]
      intro c hc
      obtain ⟨c', hc', rfl⟩ := Option.map_eq_some_iff.1 hc
      exact (h.last c' hc').close
    · intro _
      rw [hwire, live_eq_none]
      intro c hc
      obtain ⟨c', hc', rfl⟩ := Option.map_eq_some_iff.1 hc
      rfl
    · rw [hwire]
      exact ⟨rfl, rfl, rfl, rfl⟩
  · next hclosed => exact ⟨h, by simpa using hclosed, rfl, rfl, rfl, rfl⟩

/-! ## A send -/

/-- A `Send` has seen the versions the sender now goes by, and none of its stream sends has
failed. -/
structure Seen (s : StreamSender) (record : Bytes) : Prop where
  rest : Rest s
  record : (Wire.of s.trace).record = record
  failed : (Wire.of s.trace).failed = false
  endpointVersion : (Wire.of s.trace).endpointVersion = s.lastEndpointVersion
  streamVersion : (Wire.of s.trace).streamVersion = s.lastStreamVersion

theorem seen_disconnectIfStale (h : Rest s) (record : Bytes) (answers : SendAnswers) :
    Seen ((s.emit (.called record)).disconnectIfStale answers) record := by
  have hcalled := h.emit (.called record) trivial ⟨rfl, rfl⟩
  have hpolled := hcalled.emit (.versions answers.endpointVersion answers.streamVersion) trivial
    ⟨rfl, rfl⟩
  have hwire : Wire.of ((s.emit (.called record)).emit
      (.versions answers.endpointVersion answers.streamVersion)).trace =
      ((Wire.of s.trace).observe (.called record)).observe
        (.versions answers.endpointVersion answers.streamVersion) := by
    simp only [StreamSender.emit, Wire.of_concat]
  unfold StreamSender.disconnectIfStale
  dsimp only
  split
  · obtain ⟨hrest, hclosed, hrecord, hfailed, hendpoint, hstream⟩ := hpolled.disconnect
    rw [hwire] at hrecord hfailed hendpoint hstream
    refine ⟨⟨hrest.admissible, hrest.ended, hrest.last, hrest.closed, fun hconnected => ?_⟩,
      hrecord, hfailed, hendpoint, hstream⟩
    exact absurd (hclosed.symm.trans hconnected) nofun
  · next hsame =>
    simp only [configurationMoved, Bool.or_eq_true, decide_eq_true_eq, not_or, not_not] at hsame
    refine ⟨hpolled, ?_, ?_, ?_, ?_⟩
    · rw [hwire]; rfl
    · rw [hwire]; rfl
    · rw [hwire]; exact hsame.1
    · rw [hwire]; exact hsame.2

theorem Seen.connect (h : Seen s record) (hconnected : s.connected = false) :
    Seen (s.connect answers).2 record ∧ (s.connect answers).1 =
      (s.connect answers).2.connected := by
  have hnone := h.rest.closed hconnected
  unfold StreamSender.connect
  split
  · refine ⟨?_, rfl⟩
    cases answers.opened with
    | false =>
      have hrefused := h.rest.emit (.opened false) hnone ⟨rfl, rfl⟩
      have hwire : Wire.of (s.emit (.opened false)).trace = Wire.of s.trace := Wire.of_concat _ _
      have hclosed : (Wire.of (s.emit (.opened false)).trace).live = none := by
        rw [hwire]; exact hnone
      refine ⟨⟨hrefused.admissible, hrefused.ended, hrefused.last, fun _ => hclosed, nofun⟩, ?_, ?_,
        ?_, ?_⟩
      · exact (congrArg Wire.record hwire).trans h.record
      · exact (congrArg Wire.failed hwire).trans h.failed
      · exact (congrArg Wire.endpointVersion hwire).trans h.endpointVersion
      · exact (congrArg Wire.streamVersion hwire).trans h.streamVersion
    | true =>
      have hwire : Wire.of (s.emit (.opened true)).trace =
        (Wire.of s.trace).observe (.opened true) :=
        Wire.of_concat _ _
      have hended : ∀ c ∈ (Wire.of s.trace).connections, Framed c := h.rest.octetCounted.framed
      refine ⟨⟨h.rest.admissible.concat hnone, ?_, ?_, nofun, fun _ => ?_⟩, ?_, ?_, ?_, ?_⟩
      · exact hwire ▸ hended
      · change ∀ c ∈ (Wire.of (s.emit (.opened true)).trace).connection, Framed c
        rw [hwire]
        intro c hc
        obtain rfl := Option.some.inj hc
        rfl
      · change ∃ c, (Wire.of (s.emit (.opened true)).trace).live = some c ∧ _
        rw [hwire]
        exact ⟨_, rfl, rfl, h.endpointVersion, h.streamVersion⟩
      · exact (congrArg Wire.record hwire).trans h.record
      · exact (congrArg Wire.failed hwire).trans h.failed
      · exact (congrArg Wire.endpointVersion hwire).trans h.endpointVersion
      · exact (congrArg Wire.streamVersion hwire).trans h.streamVersion
  · exact ⟨h, rfl⟩

/-- After its checks a `Send` is connected or fails. -/
theorem seen_reconcile (h : Rest s) (record : Bytes) (answers : SendAnswers) :
    Seen ((s.emit (.called record)).reconcile answers).2 record ∧
      ((s.emit (.called record)).reconcile answers).1 =
        ((s.emit (.called record)).reconcile answers).2.connected := by
  have hseen := seen_disconnectIfStale h record answers
  unfold StreamSender.reconcile StreamSender.ensureConnected
  split
  · next hconnected => exact ⟨hseen, hconnected.symm⟩
  · next hconnected => exact hseen.connect (by simpa using hconnected)

/-- Some first bytes of a frame are out, on a connection that is otherwise framed. -/
structure Half (s : StreamSender) (record sofar : Bytes) : Prop where
  admissible : Always Admissible s.trace
  ended : ∀ c ∈ (Wire.of s.trace).ended, Framed c
  connected : s.connected = true
  record : (Wire.of s.trace).record = record
  failed : (Wire.of s.trace).failed = false
  endpointVersion : (Wire.of s.trace).endpointVersion = s.lastEndpointVersion
  streamVersion : (Wire.of s.trace).streamVersion = s.lastStreamVersion
  live : ∃ c, (Wire.of s.trace).live = some c ∧ c.torn = none ∧
    c.endpointVersion = s.lastEndpointVersion ∧ c.streamVersion = s.lastStreamVersion ∧
    c.out = c.delivered.flatMap frame ++ sofar

theorem Seen.half (h : Seen s record) (hconnected : s.connected = true) : Half s record [] := by
  obtain ⟨c, hlive, htorn, hendpoint, hstream⟩ := h.rest.live hconnected
  have hframed := h.rest.last c (live_eq_some.1 hlive).1
  rw [Framed, htorn] at hframed
  refine ⟨h.rest.admissible, h.rest.ended, hconnected, h.record, h.failed, h.endpointVersion,
    h.streamVersion, c, hlive, htorn, hendpoint, hstream, ?_⟩
  rw [List.append_nil]
  exact hframed

theorem Half.admits {sofar : Bytes} (h : Half s record sofar) (asked put : Bytes) (ok : Bool)
    (hput : put <+: asked) (hok : ok = true → put = asked) :
      Admissible s.trace (.sent asked put ok) := by
  obtain ⟨c, hlive, htorn, hendpoint, hstream, -⟩ := h.live
  exact ⟨hput, hok, c, hlive, htorn, hendpoint.trans h.endpointVersion.symm,
    hstream.trans h.streamVersion.symm⟩

/-- More of the frame goes out. -/
theorem Half.sent {sofar : Bytes} (h : Half s record sofar) (data : Bytes) :
    Half (s.emit (.sent data data true)) record (sofar ++ data) := by
  have hadmits := h.admits data data true List.prefix_rfl fun _ => rfl
  have hwire : Wire.of (s.emit (.sent data data true)).trace =
      (Wire.of s.trace).observe (.sent data data true) := Wire.of_concat _ _
  obtain ⟨c, hlive, htorn, hendpoint, hstream, hout⟩ := h.live
  obtain ⟨hconnection, hopen⟩ := live_eq_some.1 hlive
  refine ⟨h.admissible.concat hadmits, ?_, h.connected, ?_, ?_, ?_, ?_,
    { c with out := c.out ++ data }, ?_, htorn, hendpoint, hstream, ?_⟩
  · rw [hwire]
    exact h.ended
  · rw [hwire]
    exact h.record
  · rw [hwire]
    exact h.failed
  · rw [hwire]
    exact h.endpointVersion
  · rw [hwire]
    exact h.streamVersion
  · rw [hwire, live_eq_some]
    refine ⟨?_, hopen⟩
    change (Wire.of s.trace).connection.map _ = _
    rw [hconnection]
    rfl
  · change c.out ++ data = c.delivered.flatMap frame ++ (sofar ++ data)
    rw [hout, List.append_assoc]

/-- A stream send of part of the frame fails, and the connection is closed on it. -/
theorem Half.fails {sofar : Bytes} (h : Half s record sofar) (data : Bytes)
    (hpart : sofar ++ data <+: frame record) (put : Nat) :
    Rest ((s.emit (.sent data (data.take put) false)).closeStream) := by
  have hadmits := h.admits data (data.take put) false (List.take_prefix put data) nofun
  have hwire : Wire.of ((s.emit (.sent data (data.take put) false)).closeStream).trace =
      ((Wire.of s.trace).observe (.sent data (data.take put) false)).observe .closed := by
    simp only [StreamSender.closeStream, StreamSender.emit, Wire.of_concat]
  obtain ⟨c, hlive, htorn, hendpoint, hstream, hout⟩ := h.live
  obtain ⟨hconnection, -⟩ := live_eq_some.1 hlive
  have hlast : (((Wire.of s.trace).observe (.sent data (data.take put) false)).observe
      .closed).connection = some { c with
        out := c.out ++ data.take put, torn := some record, isOpen := false } := by
    change ((Wire.of s.trace).connection.map _).map _ = _
    rw [hconnection, ← h.record]
    rfl
  refine ⟨(h.admissible.concat hadmits).concat trivial, ?_, ?_, ?_, nofun⟩
  · rw [hwire]
    exact h.ended
  · rw [hwire, hlast]
    intro c' hc'
    obtain rfl := Option.some.inj hc'
    refine ⟨rfl, sofar ++ data.take put, ?_, ?_⟩
    · exact ((List.prefix_append_right_inj sofar).2 (List.take_prefix put data)).trans hpart
    · change c.out ++ data.take put = c.delivered.flatMap frame ++ (sofar ++ data.take put)
      rw [hout, List.append_assoc]
  · intro _
    rw [hwire, live_eq_none, hlast]
    intro c' hc'
    obtain rfl := Option.some.inj hc'
    rfl

/-- The whole frame is out, and the `Send` returns true. -/
theorem Half.done (h : Half s record (frame record)) : Rest (s.emit (.returned true)) := by
  have hwire : Wire.of (s.emit (.returned true)).trace =
      (Wire.of s.trace).observe (.returned true) := Wire.of_concat _ _
  obtain ⟨c, hlive, htorn, hendpoint, hstream, hout⟩ := h.live
  obtain ⟨hconnection, hopen⟩ := live_eq_some.1 hlive
  have hlast : ((Wire.of s.trace).observe (.returned true)).connection =
      some { c with delivered := c.delivered ++ [record] } := by
    change (Wire.of s.trace).connection.map _ = _
    rw [hconnection, ← h.record]
    rfl
  refine ⟨h.admissible.concat ⟨h.failed, c, hlive, htorn⟩, ?_, ?_, ?_, fun _ => ?_⟩
  · rw [hwire]
    exact h.ended
  · rw [hwire, hlast]
    intro c' hc'
    obtain rfl := Option.some.inj hc'
    unfold Framed
    rw [htorn]
    change c.out = (c.delivered ++ [record]).flatMap frame
    rw [List.flatMap_append, hout, List.flatMap_singleton]
  · intro hclosed
    exact absurd (h.connected.symm.trans hclosed) nofun
  · refine ⟨{ c with delivered := c.delivered ++ [record] }, ?_, htorn, hendpoint, hstream⟩
    rw [hwire, live_eq_some]
    exact ⟨hlast, hopen⟩

/-- A record is sent on the connection the sender has. -/
theorem Half.transmitFramed (h : Half s record []) (hcounted : record.length < 4294967296) :
    Rest ((s.transmitFramed record answers).2.emit
      (.returned (s.transmitFramed record answers).1)) := by
  have hframe := formatOctetCountingPrefix_eq hcounted
  unfold StreamSender.transmitFramed StreamSender.sendBytes
  dsimp only
  generalize (formatOctetCountingPrefix record.length).asFormattedBuffer.bytes = length at hframe
  cases answers.lengthFails with
  | some put =>
    have hfailed := h.fails length ⟨record, hframe⟩ put
    exact hfailed.emit (.returned false) trivial ⟨rfl, rfl⟩
  | none =>
    have hlength := h.sent length
    cases answers.recordFails with
    | some put =>
      have hfailed := hlength.fails record (by rw [List.nil_append, hframe]) put
      exact hfailed.emit (.returned false) trivial ⟨rfl, rfl⟩
    | none =>
      have hrecord := hlength.sent record
      rw [List.nil_append, hframe] at hrecord
      exact hrecord.done

/-- The health of the delivery is of no matter to the stream. -/
theorem Rest.updateDeliveryHealth {delivered : Bool} {event : StreamEvent}
    (h : Rest (s.emit event)) :
    Rest ((s.updateDeliveryHealth delivered).emit event) := by
  unfold StreamSender.updateDeliveryHealth
  split
  · exact ⟨h.admissible, h.ended, h.last, h.closed, h.live⟩
  · exact h

theorem Rest.send (h : Rest s) (hcounted : record.length < 4294967296) :
    Rest (s.send record answers).2 := by
  obtain ⟨hseen, hconnected⟩ := seen_reconcile h record answers
  unfold StreamSender.send
  dsimp only
  cases hreconciled : (s.emit (.called record)).reconcile answers with
  | mk ok s₁ =>
    rw [hreconciled] at hseen hconnected
    cases ok with
    | true =>
      have hhalf := hseen.half hconnected.symm
      exact (hhalf.transmitFramed hcounted).updateDeliveryHealth
    | false => exact (hseen.rest.emit (.returned false) trivial ⟨rfl, rfl⟩).updateDeliveryHealth

theorem Rest.call {call : SenderCall} (h : Rest s) (hcounted : Counted s call)
    (hcalled : s.call call = some s') : Rest s' := by
  cases call with
  | send record answers =>
    cases hcalled
    exact h.send hcounted
  | disconnect =>
    cases hcalled
    exact h.disconnect.1

/-- Every run of the sender puts out counted frames, from which a receiver reads back each record
whose `Send` returned true. -/
theorem sends_counted_frames (h : Reached call Counted initial s) : OctetCounted s :=
  (h.invariant Rest.initial Rest.call).octetCounted

/-! ## Runs -/

instance (s : StreamSender) (call : SenderCall) : Decidable (Counted s call) :=
  match call with
  | .send record _ => inferInstanceAs (Decidable (record.length < 4294967296))
  | .disconnect => .isTrue trivial

/-- The resolver and the stream do as they are asked. -/
def allWell : SendAnswers :=
  ⟨1, 1, true, true, none, none⟩

/-- Two records are delivered, a third fails behind its length and two bytes; the stream's version
moves, and the third is delivered on a new connection. -/
def delivered : List SenderCall :=
  [.send [104, 105] allWell, .send [] allWell,
    .send [98, 121, 101] { allWell with recordFails := some 2 },
    .send [98, 121, 101] { allWell with streamVersion := 2 }, .disconnect]

theorem delivered_octet_counted : ∃ s, runMoves call Counted initial delivered = some s ∧
    ((Wire.of s.trace).connections.map (·.delivered)) = [[[104, 105], []], [[98, 121, 101]]] ∧
    OctetCounted s := by
  have hrun : ∃ s, runMoves call Counted initial delivered = some s ∧
      ((Wire.of s.trace).connections.map (·.delivered)) = [[[104, 105], []], [[98, 121, 101]]] :=
    ⟨_, rfl, by decide +kernel⟩
  obtain ⟨s, hs, hdelivered⟩ := hrun
  exact ⟨s, hs, hdelivered, sends_counted_frames (Reached.of_runMoves hs)⟩

end StreamSender

end SolidSyslog.Sender
