import SolidSyslog.Sender.UdpSender

/-!
# Delivery over datagrams

What each `Send` of a UDP sender does with its record, and what the reports of a run say of it.
-/

namespace SolidSyslog.Sender

open Format Lib

/-! ## The exchange of a record -/

/-- What is offered of a record after it was too large. -/
def clip (record : Bytes) (limit : Nat) : Bytes :=
  record.take (trimToCodepointBoundary record
    (if record.length < limit then record.length else limit))

/-- A record is found to be too large. -/
inductive TooLarge (record : Bytes) : List UdpEvent → Prop
  | refused : TooLarge record [.sentTo record .oversize]
  | failed {known : Nat} : 0 < known → known < record.length →
      TooLarge record [.sentTo record .failed, .maxPayload known]

/-- What a discard reports. -/
def discardReport (reported : Bool) : List UdpEvent :=
  if reported then [] else [.reported UdpSender.recordTooLarge]

/-- The entries of a record that is offered, what comes of it, and whether a run of records too
large is reported after it. -/
inductive Exchange (record : Bytes) (reported : Bool) : List UdpEvent → DatagramResult → Bool → Prop
  | sent : Exchange record reported [.sentTo record .sent] .sent false
  | kept {known : Nat} : ¬ (0 < known ∧ known < record.length) →
      Exchange record reported [.sentTo record .failed, .maxPayload known] .failed reported
  | trimmedSent {first : List UdpEvent} {limit : Nat} : TooLarge record first →
      clip record limit ≠ [] →
      Exchange record reported (first ++ [.maxPayload limit, .sentTo (clip record limit) .sent])
        .sent false
  | trimmedKept {first : List UdpEvent} {limit : Nat} : TooLarge record first →
      clip record limit ≠ [] →
      Exchange record reported (first ++ [.maxPayload limit, .sentTo (clip record limit) .failed])
        .failed reported
  | trimmedRefused {first : List UdpEvent} {limit : Nat} : TooLarge record first →
      clip record limit ≠ [] →
      Exchange record reported
        (first ++ [.maxPayload limit, .sentTo (clip record limit) .oversize] ++
          discardReport reported)
        .oversize true
  | nothingLeft {first : List UdpEvent} {limit : Nat} : TooLarge record first →
      clip record limit = [] →
      Exchange record reported (first ++ [.maxPayload limit] ++ discardReport reported) .oversize
        true

/-- An entry that neither sends nor asks a limit nor says anything of the records. -/
def Quiet (e : UdpEvent) : Prop :=
  e.transmission = none ∧ e.limit = none ∧ e.observation = none ∧ e.health = none

/-- What a send reports of the delivery. -/
def healthEntries (healthy : Bool) (outcome : DatagramResult) : List UdpEvent :=
  if outcome = .oversize ∨ decide (outcome = .sent) = healthy then []
  else [.reported (if outcome = .sent then UdpSender.deliveryRestored
    else UdpSender.deliveryFailed)]

variable {s : UdpSender} {record : Bytes} {answers : DatagramAnswers}
  {entries first : List UdpEvent}
  {outcome : DatagramResult} {reported reported' : Bool}

namespace UdpSender

/-- A sender with more in its trace and the latch of the records too large as given. -/
def extend (s : UdpSender) (entries : List UdpEvent) (reported : Bool) : UdpSender :=
  { s with trace := s.trace ++ entries, recordTooLargeReported := reported }

@[simp] theorem extend_extend (s : UdpSender) (entries entries' : List UdpEvent)
    (reported reported' : Bool) : (s.extend entries reported).extend entries' reported' =
      s.extend (entries ++ entries') reported' := by
  simp [extend]

theorem extend_emit (s : UdpSender) (entries : List UdpEvent) (reported : Bool) (e : UdpEvent) :
    (s.extend entries reported).emit e = s.extend (entries ++ [e]) reported := by
  simp [extend, emit]

theorem sendTo_eq (s : UdpSender) (datagram : Bytes) (result : DatagramResult) :
    s.sendTo datagram result =
      s.extend [.sentTo datagram result] (result ≠ .sent && s.recordTooLargeReported) := by
  unfold sendTo
  split
  · next hsent => simp [hsent, extend, emit]
  · next hnot => simp [hnot, extend, emit]

theorem reportRecordTooLarge_eq (s : UdpSender) :
    s.reportRecordTooLarge = s.extend (discardReport s.recordTooLargeReported) true := by
  unfold reportRecordTooLarge discardReport
  cases h : s.recordTooLargeReported <;> simp [extend, emit, ← h]

theorem clip_eq_nil_iff {limit : Nat} : clip record limit = [] ↔
    ¬ 0 < trimToCodepointBoundary record
      (if record.length < limit then record.length else limit) := by
  rw [clip, List.take_eq_nil_iff]
  constructor
  · rintro (hzero | rfl)
    · omega
    · have hcut : (if ([] : Bytes).length < limit then ([] : Bytes).length else limit) = 0 := by
        rw [List.length_nil]
        split <;> omega
      rw [hcut]
      exact lt_irrefl 0
  · intro hnone
    exact .inl (by omega)

/-- Offering what is left of a record that was too large. -/
theorem retryAfterOversize_exchange (s : UdpSender) (record : Bytes) (answers : DatagramAnswers)
    (hfirst : TooLarge record first) : ∃ entries reported,
      (s.retryAfterOversize record answers).2 = s.extend entries reported ∧
      Exchange record s.recordTooLargeReported (first ++ entries)
        (s.retryAfterOversize record answers).1 reported := by
  have hemit : s.emit (.maxPayload answers.trimPayload) =
      s.extend [.maxPayload answers.trimPayload] s.recordTooLargeReported := rfl
  by_cases hnone : clip record answers.trimPayload = []
  · rw [retryAfterOversize, hemit]
    dsimp only
    rw [if_neg (clip_eq_nil_iff.1 hnone)]
    dsimp only
    rw [if_pos rfl, reportRecordTooLarge_eq, extend_extend]
    refine ⟨_, _, rfl, ?_⟩
    rw [← List.append_assoc]
    exact .nothingLeft hfirst hnone
  · rw [retryAfterOversize, hemit]
    dsimp only
    rw [if_pos (not_not.1 (mt clip_eq_nil_iff.2 hnone)), sendTo_eq, extend_extend]
    dsimp only
    cases htrimmed : answers.trimmed with
    | sent => exact ⟨_, _, rfl, .trimmedSent hfirst hnone⟩
    | failed => exact ⟨_, _, rfl, .trimmedKept hfirst hnone⟩
    | oversize =>
      rw [if_pos rfl, reportRecordTooLarge_eq, extend_extend]
      refine ⟨_, _, rfl, ?_⟩
      rw [← List.append_assoc]
      exact .trimmedRefused hfirst hnone

/-- Offering a record. -/
theorem transmitDatagram_exchange (s : UdpSender) (record : Bytes) (answers : DatagramAnswers) :
    ∃ entries reported, (s.transmitDatagram record answers).2 = s.extend entries reported ∧
      Exchange record s.recordTooLargeReported entries (s.transmitDatagram record answers).1
        reported := by
  rw [transmitDatagram, sendTo_eq]
  cases hwhole : answers.whole with
  | sent => exact ⟨_, _, rfl, .sent⟩
  | oversize =>
    obtain ⟨entries, reported, hstate, hexchange⟩ := retryAfterOversize_exchange
      (s.extend [.sentTo record .oversize] s.recordTooLargeReported) record answers .refused
    exact ⟨_, reported, hstate.trans (extend_extend _ _ _ _ _), hexchange⟩
  | failed =>
    rw [if_pos rfl, failureWasOversize, extend_emit]
    dsimp only
    by_cases hlarge : 0 < answers.failedPayload ∧ answers.failedPayload < record.length
    · have hwas : (decide (0 < answers.failedPayload) &&
          decide (answers.failedPayload < record.length)) = true := by
        simpa using hlarge
      obtain ⟨entries, reported, hstate, hexchange⟩ := retryAfterOversize_exchange
        (s.extend [.sentTo record .failed, .maxPayload answers.failedPayload]
          s.recordTooLargeReported) record answers (.failed hlarge.1 hlarge.2)
      rw [if_pos hwas, if_pos rfl]
      exact ⟨_, reported, hstate.trans (extend_extend _ _ _ _ _), hexchange⟩
    · have hwas : ¬ (decide (0 < answers.failedPayload) &&
          decide (answers.failedPayload < record.length)) = true := by
        simpa using hlarge
      rw [if_neg hwas, if_neg nofun]
      exact ⟨_, _, rfl, .kept hlarge⟩

/-! ## One send -/

theorem quiet_version (v : UInt32) : Quiet (.version v) :=
  ⟨rfl, rfl, rfl, rfl⟩

theorem quiet_opened (ok : Bool) : Quiet (.opened ok) :=
  ⟨rfl, rfl, rfl, rfl⟩

theorem quiet_resolved (ok : Bool) : Quiet (.resolved ok) :=
  ⟨rfl, rfl, rfl, rfl⟩

theorem quiet_closed : Quiet .closed :=
  ⟨rfl, rfl, rfl, rfl⟩

/-- One sender has done nothing of note after another: it has made quiet calls only. -/
def Still (s s' : UdpSender) : Prop :=
  (∃ quiet, (∀ e ∈ quiet, Quiet e) ∧ s'.trace = s.trace ++ quiet) ∧
    s'.deliveryHealthy = s.deliveryHealthy ∧ s'.recordTooLargeReported = s.recordTooLargeReported

theorem Still.refl (s : UdpSender) : Still s s :=
  ⟨⟨[], List.forall_mem_nil _, by simp⟩, rfl, rfl⟩

theorem Still.trans {s s' s'' : UdpSender} (h : Still s s') (h' : Still s' s'') : Still s s'' := by
  obtain ⟨⟨quiet, hquiet, htrace⟩, hhealth, hreported⟩ := h
  obtain ⟨⟨quiet', hquiet', htrace'⟩, hhealth', hreported'⟩ := h'
  refine ⟨⟨quiet ++ quiet', ?_, by rw [htrace', htrace, List.append_assoc]⟩,
    hhealth'.trans hhealth, hreported'.trans hreported⟩
  intro e he
  exact (List.mem_append.1 he).elim (hquiet e) (hquiet' e)

theorem Still.emit {e : UdpEvent} (h : Quiet e) : Still s (s.emit e) :=
  ⟨⟨[e], by simpa using h, rfl⟩, rfl, rfl⟩

theorem still_closeSocket (s : UdpSender) : Still s s.closeSocket :=
  ⟨⟨[.closed], by simpa using quiet_closed, rfl⟩, rfl, rfl⟩

theorem still_disconnect (s : UdpSender) : Still s s.disconnect := by
  unfold disconnect
  split
  · exact still_closeSocket s
  · exact .refl s

theorem still_disconnectIfStale (s : UdpSender) (answers : DatagramAnswers) :
    Still s (s.disconnectIfStale answers) := by
  have hversion : Still s (s.emit (.version answers.endpointVersion)) :=
    .emit (quiet_version _)
  unfold disconnectIfStale
  dsimp only
  split
  · exact hversion.trans (still_disconnect _)
  · exact hversion

theorem still_connect (s : UdpSender) (answers : DatagramAnswers) :
    Still s (s.connect answers) := by
  have hopened : Still s (s.emit (.opened answers.opened)) := .emit (quiet_opened _)
  unfold connect
  dsimp only
  split
  · have hresolved := hopened.trans (.emit (quiet_resolved answers.resolved))
    split
    · exact hresolved
    · exact hresolved.trans (still_closeSocket _)
  · exact hopened.trans (still_closeSocket _)

theorem still_reconcile (s : UdpSender) (answers : DatagramAnswers) :
    Still s (s.reconcile answers) := by
  have hstale := still_disconnectIfStale s answers
  unfold reconcile
  dsimp only
  split
  · exact hstale
  · exact hstale.trans (still_connect _ _)

/-- The entries of a send: the connection, the exchange of the record over it and the report of the
delivery. -/
structure Sends (s : UdpSender) (record : Bytes) (sent : Bool × UdpSender)
    (quiet exchange : List UdpEvent) (outcome : DatagramResult) : Prop where
  still : ∀ e ∈ quiet, Quiet e
  trace : sent.2.trace = s.trace ++ (quiet ++ exchange ++ healthEntries s.deliveryHealthy outcome)
  ok : sent.1 = decide (outcome ≠ .failed)
  healthy : sent.2.deliveryHealthy =
    if outcome = .oversize then s.deliveryHealthy else decide (outcome = .sent)
  exchanged : sent.2.connected = true ∧
      Exchange record s.recordTooLargeReported exchange outcome sent.2.recordTooLargeReported ∨
    sent.2.connected = false ∧ exchange = [] ∧ outcome = .failed ∧
      sent.2.recordTooLargeReported = s.recordTooLargeReported

theorem deliver_sends (s : UdpSender) (record : Bytes) (answers : DatagramAnswers) :
    ∃ quiet exchange, (∀ e ∈ quiet, Quiet e) ∧
      (s.deliver record answers).2.trace = s.trace ++ (quiet ++ exchange) ∧
      (s.deliver record answers).2.deliveryHealthy = s.deliveryHealthy ∧
      ((s.deliver record answers).2.connected = true ∧
          Exchange record s.recordTooLargeReported exchange (s.deliver record answers).1
            (s.deliver record answers).2.recordTooLargeReported ∨
        (s.deliver record answers).2.connected = false ∧ exchange = [] ∧
          (s.deliver record answers).1 = .failed ∧
          (s.deliver record answers).2.recordTooLargeReported = s.recordTooLargeReported) := by
  obtain ⟨⟨quiet, hquiet, htrace⟩, hhealth, hreported⟩ := still_reconcile s answers
  unfold deliver
  dsimp only
  by_cases hconnected : (s.reconcile answers).connected = true
  · obtain ⟨entries, reported, hstate, hexchange⟩ :=
      transmitDatagram_exchange (s.reconcile answers) record answers
    rw [if_pos hconnected, hstate]
    refine ⟨quiet, entries, hquiet, ?_, hhealth, .inl ⟨hconnected, ?_⟩⟩
    · rw [extend, htrace, List.append_assoc]
    · rwa [hreported] at hexchange
  · rw [if_neg hconnected]
    refine ⟨quiet, [], hquiet, ?_, hhealth, .inr ⟨by simpa using hconnected, rfl, rfl, hreported⟩⟩
    rw [List.append_nil, htrace]

theorem updateDeliveryHealth_trace (s : UdpSender) (h : outcome ≠ .oversize) :
    (s.updateDeliveryHealth (outcome = .sent)).trace =
      s.trace ++ healthEntries s.deliveryHealthy outcome := by
  unfold updateDeliveryHealth healthEntries
  by_cases hsame : decide (outcome = .sent) = s.deliveryHealthy
  · rw [if_neg (not_not_intro hsame), if_pos (.inr hsame), List.append_nil]
  · rw [if_pos hsame, if_neg (not_or.2 ⟨h, hsame⟩)]
    simp [emit]

theorem updateDeliveryHealth_eq (s : UdpSender) (delivered : Bool) :
    (s.updateDeliveryHealth delivered).deliveryHealthy = delivered ∧
      (s.updateDeliveryHealth delivered).connected = s.connected ∧
      (s.updateDeliveryHealth delivered).recordTooLargeReported = s.recordTooLargeReported := by
  unfold updateDeliveryHealth
  split
  · exact ⟨rfl, rfl, rfl⟩
  · next hsame => exact ⟨(not_not.1 hsame).symm, rfl, rfl⟩

theorem send_sends (s : UdpSender) (record : Bytes) (answers : DatagramAnswers) :
    ∃ quiet exchange outcome, Sends s record (s.send (some record) answers) quiet
      exchange outcome := by
  obtain ⟨quiet, exchange, hquiet, htrace, hhealth, hexchanged⟩ := deliver_sends s record answers
  refine ⟨quiet, exchange, (s.deliver record answers).1, ?_⟩
  unfold send
  dsimp only
  by_cases hdiscarded : (s.deliver record answers).1 = .oversize
  · rw [if_pos hdiscarded]
    refine ⟨hquiet, ?_, rfl, ?_, hexchanged⟩
    · rw [healthEntries, if_pos (.inl hdiscarded), List.append_nil]
      exact htrace
    · rw [if_pos hdiscarded]
      exact hhealth
  · rw [if_neg hdiscarded]
    obtain ⟨hafter, hconnected, hreported⟩ := updateDeliveryHealth_eq
      (s.deliver record answers).2 (decide ((s.deliver record answers).1 = .sent))
    refine ⟨hquiet, ?_, rfl, ?_, ?_⟩
    · rw [updateDeliveryHealth_trace _ hdiscarded, hhealth, htrace, List.append_assoc]
    · rw [if_neg hdiscarded]
      exact hafter
    · rw [hconnected, hreported]
      exact hexchanged

end UdpSender

/-! ## What the entries show -/

theorem filterMap_quiet {α : Type} {quiet : List UdpEvent} {f : UdpEvent → Option α}
    (h : ∀ e ∈ quiet, f e = none) (entries : List UdpEvent) :
    (quiet ++ entries).filterMap f = entries.filterMap f := by
  rw [List.filterMap_append, List.filterMap_eq_nil_iff.2 h, List.nil_append]

theorem healthEntries_cases (healthy : Bool) (outcome : DatagramResult) :
    (healthEntries healthy outcome).filterMap UdpEvent.transmission = [] ∧
      (healthEntries healthy outcome).filterMap UdpEvent.limit = [] ∧
      (healthEntries healthy outcome).filterMap UdpEvent.observation = [] ∧
      (healthEntries healthy outcome).filterMap UdpEvent.health =
        if outcome = .oversize ∨ decide (outcome = .sent) = healthy then []
        else [decide (outcome = .sent)] := by
  cases healthy <;> cases outcome <;> decide

/-- A first answer, and the limit asked after it if it was a failure, that mean the record is too
large. -/
def TakenFor (record : Bytes) (answer : DatagramResult) (known : List Nat) : Prop :=
  answer = .oversize ∧ known = [] ∨
    answer = .failed ∧ ∃ limit, known = [limit] ∧ 0 < limit ∧ limit < record.length

/-- What a discard adds to the observations. -/
def reportObservations (reported : Bool) : List Observation :=
  if reported then [] else [.report]

theorem discardReport_seen (reported : Bool) :
    (discardReport reported).filterMap UdpEvent.transmission = [] ∧
      (discardReport reported).filterMap UdpEvent.limit = [] ∧
      (discardReport reported).filterMap UdpEvent.observation = reportObservations reported ∧
      (discardReport reported).filterMap UdpEvent.health = [] := by
  cases reported <;> decide

theorem TooLarge.seen (h : TooLarge record first) : ∃ answer known,
    first.filterMap UdpEvent.transmission = [(record, answer)] ∧
      first.filterMap UdpEvent.limit = known ∧ TakenFor record answer known ∧
      first.filterMap UdpEvent.observation = [] ∧ first.filterMap UdpEvent.health = [] := by
  cases h with
  | refused => exact ⟨_, _, rfl, rfl, .inl ⟨rfl, rfl⟩, rfl, rfl⟩
  | failed hpos hlt => exact ⟨_, _, rfl, rfl, .inr ⟨rfl, _, rfl, hpos, hlt⟩, rfl, rfl⟩

/-- What is seen of an exchange: the calls of `SendTo` and `MaxPayload`, and what it says of the run
of records too large. -/
theorem Exchange.seen (h : Exchange record reported entries outcome reported') :
    entries.filterMap UdpEvent.health = [] ∧
      ((entries.filterMap UdpEvent.transmission = [(record, .sent)] ∧
          entries.filterMap UdpEvent.limit = [] ∧
          entries.filterMap UdpEvent.observation = [.clear] ∧
          outcome = .sent ∧ reported' = false) ∨
        (∃ known, ¬ (0 < known ∧ known < record.length) ∧
          entries.filterMap UdpEvent.transmission = [(record, .failed)] ∧
          entries.filterMap UdpEvent.limit = [known] ∧
          entries.filterMap UdpEvent.observation = [] ∧
          outcome = .failed ∧ reported' = reported) ∨
        (∃ answer known limit, TakenFor record answer known ∧ clip record limit ≠ [] ∧
          entries.filterMap UdpEvent.transmission =
            [(record, answer), (clip record limit, outcome)] ∧
          entries.filterMap UdpEvent.limit = known ++ [limit] ∧
          (outcome = .sent ∧ entries.filterMap UdpEvent.observation = [.clear] ∧
              reported' = false ∨
            outcome = .failed ∧ entries.filterMap UdpEvent.observation = [] ∧
              reported' = reported ∨
            outcome = .oversize ∧
              entries.filterMap UdpEvent.observation = reportObservations reported ∧
              reported' = true)) ∨
        (∃ answer known limit, TakenFor record answer known ∧ clip record limit = [] ∧
          entries.filterMap UdpEvent.transmission = [(record, answer)] ∧
          entries.filterMap UdpEvent.limit = known ++ [limit] ∧
          entries.filterMap UdpEvent.observation = reportObservations reported ∧
          outcome = .oversize ∧ reported' = true)) := by
  cases h with
  | sent => exact ⟨rfl, .inl ⟨rfl, rfl, rfl, rfl, rfl⟩⟩
  | kept hlimit => exact ⟨rfl, .inr (.inl ⟨_, hlimit, rfl, rfl, rfl, rfl, rfl⟩)⟩
  | trimmedSent hfirst hsome =>
    obtain ⟨answer, known, hsend, hlimit, htaken, hobserved, hhealth⟩ := hfirst.seen
    refine ⟨?_, .inr (.inr (.inl ⟨answer, known, _, htaken, hsome, ?_, ?_, .inl ⟨rfl, ?_, rfl⟩⟩))⟩
    all_goals
      simp only [List.filterMap_append, hsend, hlimit, hobserved, hhealth]
      rfl
  | trimmedKept hfirst hsome =>
    obtain ⟨answer, known, hsend, hlimit, htaken, hobserved, hhealth⟩ := hfirst.seen
    refine ⟨?_, .inr (.inr (.inl ⟨answer, known, _, htaken, hsome, ?_, ?_,
      .inr (.inl ⟨rfl, ?_, rfl⟩)⟩))⟩
    all_goals
      simp only [List.filterMap_append, hsend, hlimit, hobserved, hhealth]
      rfl
  | trimmedRefused hfirst hsome =>
    obtain ⟨answer, known, hsend, hlimit, htaken, hobserved, hhealth⟩ := hfirst.seen
    obtain ⟨hsend', hlimit', hobserved', hhealth'⟩ := discardReport_seen reported
    refine ⟨?_, .inr (.inr (.inl ⟨answer, known, _, htaken, hsome, ?_, ?_,
      .inr (.inr ⟨rfl, ?_, rfl⟩)⟩))⟩
    all_goals
      simp only [List.filterMap_append, hsend, hlimit, hobserved, hhealth, hsend', hlimit',
        hobserved', hhealth', List.append_nil]
      rfl
  | nothingLeft hfirst hnone =>
    obtain ⟨answer, known, hsend, hlimit, htaken, hobserved, hhealth⟩ := hfirst.seen
    obtain ⟨hsend', hlimit', hobserved', hhealth'⟩ := discardReport_seen reported
    refine ⟨?_, .inr (.inr (.inr ⟨answer, known, _, htaken, hnone, ?_, ?_, ?_, rfl, rfl⟩))⟩
    all_goals
      simp only [List.filterMap_append, hsend, hlimit, hobserved, hhealth, hsend', hlimit',
        hobserved', hhealth', List.append_nil]
      rfl

/-! ## What a send is -/

/-- A send over datagrams, of well-formed text. -/
structure Consistent (record : Bytes) (sent : UdpSend) : Prop where
  atMostTwo : sent.transmissions.length ≤ 2
  unconnected : sent.after.connected = false ↔ sent.transmissions = []
  whole : ∀ first rest, sent.transmissions = first :: rest → first.1 = record
  retried : ∀ first second, sent.transmissions = [first, second] → ∃ known limit,
    sent.limits = known ++ [limit] ∧ TakenFor record first.2 known ∧
      second.1 ≠ [] ∧ second.1 <+: record ∧ Utf8.WellFormed second.1 ∧
      second.1.length ≤ record.length ∧ second.1.length ≤ limit
  failed : sent.ok = false ↔ sent.after.connected = false ∨
    (∃ datagram, sent.transmissions.getLast? = some (datagram, .failed)) ∧ sent.discarded = false
  discarded : sent.discarded = true →
    sent.ok = true ∧ sent.after.deliveryHealthy = sent.before.deliveryHealthy

/-- What is offered again is the whole characters that fit. -/
theorem clip_spec (h : Utf8.WellFormed record) (limit : Nat) :
    clip record limit <+: record ∧ Utf8.WellFormed (clip record limit) ∧
      (clip record limit).length ≤ record.length ∧ (clip record limit).length ≤ limit := by
  have hcutLe : (if record.length < limit then record.length else limit) ≤ record.length ∧
      (if record.length < limit then record.length else limit) ≤ limit := by
    split <;> omega
  obtain ⟨hle, hlimit⟩ := hcutLe
  unfold clip
  generalize (if record.length < limit then record.length else limit) = cut at *
  obtain ⟨whole, part, hcut⟩ := h.cutAt cut
  have hpre : whole <+: record :=
    (List.prefix_append whole part).trans (hcut.taken ▸ List.take_prefix _ _)
  have hshort := congrArg List.length hcut.taken
  rw [List.length_take_of_le hle, List.length_append] at hshort
  rw [trimToCodepointBoundary_eq hle hcut, ← List.prefix_iff_eq_take.1 hpre]
  exact ⟨hpre, hcut.wellFormed, hpre.length_le, by omega⟩

/-- What a send has done, as its entries show it. -/
structure Showed (s : UdpSender) (record : Bytes) (sent : UdpSend) (outcome : DatagramResult) :
    Prop where
  buffer : sent.buffer = some record
  before : sent.before = s
  ok : sent.ok = decide (outcome ≠ .failed)
  healthy : sent.after.deliveryHealthy =
    if outcome = .oversize then s.deliveryHealthy else decide (outcome = .sent)
  health : sent.healthEvents =
    if outcome = .oversize ∨ decide (outcome = .sent) = s.deliveryHealthy then []
    else [decide (outcome = .sent)]
  exchanged : (∃ exchange, sent.after.connected = true ∧
      Exchange record s.recordTooLargeReported exchange outcome sent.after.recordTooLargeReported ∧
      sent.transmissions = exchange.filterMap UdpEvent.transmission ∧
      sent.limits = exchange.filterMap UdpEvent.limit ∧
      sent.entries.filterMap UdpEvent.observation = exchange.filterMap UdpEvent.observation) ∨
    sent.after.connected = false ∧ outcome = .failed ∧
      sent.after.recordTooLargeReported = s.recordTooLargeReported ∧
      sent.transmissions = [] ∧ sent.limits = [] ∧
      sent.entries.filterMap UdpEvent.observation = []

theorem showed (s : UdpSender) (record : Bytes) (answers : DatagramAnswers) :
    ∃ outcome, Showed s record
      ⟨some record, (s.send (some record) answers).2.trace.drop s.trace.length,
        (s.send (some record) answers).1, s, (s.send (some record) answers).2⟩ outcome := by
  obtain ⟨quiet, exchange, outcome, hstill, htrace, hok, hhealthy, hexchanged⟩ :=
    s.send_sends record answers
  obtain ⟨hsends, hlimits, hobserved, hhealth⟩ := healthEntries_cases s.deliveryHealthy outcome
  have hentries : (s.send (some record) answers).2.trace.drop s.trace.length =
      quiet ++ (exchange ++ healthEntries s.deliveryHealthy outcome) := by
    rw [htrace, List.drop_left, List.append_assoc]
  have hexchange : exchange.filterMap UdpEvent.health = [] := by
    rcases hexchanged with ⟨-, hexchange⟩ | ⟨-, rfl, -⟩
    · exact hexchange.seen.1
    · rfl
  refine ⟨outcome, rfl, rfl, hok, hhealthy, ?_, ?_⟩
  · rw [UdpSend.healthEvents, hentries, filterMap_quiet fun e he => (hstill e he).2.2.2,
      List.filterMap_append, hexchange, hhealth, List.nil_append]
  · rw [UdpSend.transmissions, UdpSend.limits, hentries,
      filterMap_quiet fun e he => (hstill e he).1, filterMap_quiet fun e he => (hstill e he).2.1,
      filterMap_quiet fun e he => (hstill e he).2.2.1, List.filterMap_append, List.filterMap_append,
      List.filterMap_append, hsends, hlimits, hobserved, List.append_nil, List.append_nil,
      List.append_nil]
    rcases hexchanged with ⟨hconnected, hexchange⟩ | ⟨hconnected, rfl, houtcome, hreported⟩
    · exact .inl ⟨exchange, hconnected, hexchange, rfl, rfl, rfl⟩
    · exact .inr ⟨hconnected, houtcome, hreported, rfl, rfl, rfl⟩

theorem takenForTooLarge_of {sent : UdpSend} {answer : DatagramResult} {known more : List Nat}
    {rest : List (Bytes × DatagramResult)} (h : TakenFor record answer known)
    (hsends : sent.transmissions = (record, answer) :: rest)
    (hlimits : sent.limits = known ++ more) :
    sent.takenForTooLarge record = true := by
  rcases h with ⟨rfl, rfl⟩ | ⟨rfl, limit, rfl, hpos, hlt⟩
  · simp [UdpSend.takenForTooLarge, hsends]
  · simp [UdpSend.takenForTooLarge, hsends, hlimits, hpos, hlt]

/-- The discards are the records that are given up as too large. -/
theorem Showed.discarded_iff {sent : UdpSend} (h : Showed s record sent outcome) :
    sent.discarded = decide (outcome = .oversize) := by
  obtain ⟨hbuffer, -, -, -, -, hexchanged⟩ := h
  simp only [UdpSend.discarded, hbuffer]
  rcases hexchanged with ⟨exchange, -, hexchange, hsends, hlimits, -⟩ | ⟨-, rfl, -, hsends, -⟩
  · obtain ⟨-, h | ⟨known, hknown, h⟩ | ⟨answer, known, limit, htaken, -, h⟩ |
      ⟨answer, known, limit, htaken, -, h⟩⟩ := hexchange.seen
    · rw [h.1] at hsends
      simp [UdpSend.takenForTooLarge, hsends, h.2.2.2.1]
    · rw [h.1] at hsends
      rw [h.2.1] at hlimits
      have hnot : (decide (0 < known) && decide (known < record.length)) = false := by
        simpa using hknown
      simp [UdpSend.takenForTooLarge, hsends, hlimits, h.2.2.2.1, hnot]
    · rw [h.1] at hsends
      rw [h.2.1] at hlimits
      rw [takenForTooLarge_of htaken hsends hlimits, hsends]
      simp
    · rw [h.1] at hsends
      rw [h.2.1] at hlimits
      rw [takenForTooLarge_of htaken hsends hlimits, hsends, h.2.2.2.1]
      simp
  · simp [UdpSend.takenForTooLarge, hsends]

theorem Showed.consistent {sent : UdpSend} (h : Showed s record sent outcome)
    (hrecord : Utf8.WellFormed record) : Consistent record sent := by
  have hdiscarded := h.discarded_iff
  obtain ⟨hbuffer, hbefore, hok, hhealthy, -, hexchanged⟩ := h
  have hcounts : sent.discarded = true →
      sent.ok = true ∧ sent.after.deliveryHealthy = sent.before.deliveryHealthy := by
    intro hyes
    rw [hdiscarded, decide_eq_true_eq] at hyes
    rw [hok, hhealthy, hbefore, hyes]
    exact ⟨rfl, rfl⟩
  rcases hexchanged with ⟨exchange, hconnected, hexchange, hsends, hlimits, -⟩ |
    ⟨hconnected, rfl, -, hsends, -⟩
  · obtain ⟨-, h | ⟨known, -, h⟩ | ⟨answer, known, limit, htaken, hsome, h⟩ |
      ⟨answer, known, limit, htaken, -, h⟩⟩ := hexchange.seen
    · rw [h.1] at hsends
      refine ⟨by simp [hsends], by simp [hsends, hconnected], by simp [hsends], by simp [hsends],
        ?_, hcounts⟩
      simp [hok, hsends, hconnected, h.2.2.2.1]
    · rw [h.1] at hsends
      refine ⟨by simp [hsends], by simp [hsends, hconnected], by simp [hsends], by simp [hsends],
        ?_, hcounts⟩
      simp [hok, hsends, hdiscarded, h.2.2.2.1]
    · rw [h.1] at hsends
      rw [h.2.1] at hlimits
      refine ⟨by simp [hsends], by simp [hsends, hconnected], by simp [hsends], ?_, ?_, hcounts⟩
      · intro first second htwo
        obtain ⟨hpre, hwell, hle, hlimit⟩ := clip_spec hrecord limit
        rw [hsends] at htwo
        obtain ⟨rfl, hrest⟩ := List.cons.inj htwo
        obtain ⟨rfl, -⟩ := List.cons.inj hrest
        exact ⟨known, limit, hlimits, htaken, hsome, hpre, hwell, hle, hlimit⟩
      · cases outcome <;> simp [hok, hsends, hconnected, hdiscarded]
    · rw [h.1] at hsends
      refine ⟨by simp [hsends], by simp [hsends, hconnected], by simp [hsends], by simp [hsends],
        ?_, hcounts⟩
      simp [hok, hconnected, hdiscarded, h.2.2.2.1]
  · refine ⟨by simp [hsends], by simp [hsends, hconnected], by simp [hsends], by simp [hsends],
      ?_, hcounts⟩
    simp [hok, hconnected]

/-- A send reports a discard just where it begins a run. -/
theorem Showed.observed {sent : UdpSend} (h : Showed s record sent outcome) :
    RunsReported s.recordTooLargeReported sent.observations ∧
      inRun s.recordTooLargeReported sent.observations = sent.after.recordTooLargeReported := by
  have hdiscarded := h.discarded_iff
  obtain ⟨-, -, -, -, -, hexchanged⟩ := h
  rw [UdpSend.observations, hdiscarded]
  rcases hexchanged with ⟨exchange, -, hexchange, -, -, hseen⟩ | ⟨-, rfl, hreported, -, -, hseen⟩
  · rw [hseen]
    generalize s.recordTooLargeReported = reported at *
    generalize sent.after.recordTooLargeReported = reported' at *
    have hdiscard : RunsReported reported ([.fault] ++ reportObservations reported) ∧
        inRun reported ([.fault] ++ reportObservations reported) = true := by
      cases reported
      · exact ⟨trivial, rfl⟩
      · exact ⟨trivial, rfl⟩
    have hclear : RunsReported reported [.clear] ∧ inRun reported [.clear] = false := by
      cases reported
      · exact ⟨trivial, rfl⟩
      · exact ⟨trivial, rfl⟩
    have hnothing : RunsReported reported [] ∧ inRun reported [] = reported := by
      cases reported
      · exact ⟨trivial, rfl⟩
      · exact ⟨trivial, rfl⟩
    obtain ⟨-, ⟨-, -, hobserved, rfl, rfl⟩ | ⟨-, -, -, -, hobserved, rfl, rfl⟩ |
      ⟨-, -, -, -, -, -, -, hobserved⟩ | ⟨-, -, -, -, -, -, -, hobserved, rfl, rfl⟩⟩ :=
        hexchange.seen
    · rw [hobserved]
      exact hclear
    · rw [hobserved]
      exact hnothing
    · rcases hobserved with ⟨rfl, hobserved, rfl⟩ | ⟨rfl, hobserved, rfl⟩ | ⟨rfl, hobserved, rfl⟩
      · rw [hobserved]
        exact hclear
      · rw [hobserved]
        exact hnothing
      · rw [hobserved]
        exact hdiscard
    · rw [hobserved]
      exact hdiscard
  · rw [hseen, hreported]
    cases s.recordTooLargeReported
    · exact ⟨trivial, rfl⟩
    · exact ⟨trivial, rfl⟩

/-! ## A run -/

/-- A send without a record reports that and does nothing else. -/
theorem sendNull_shows (s : UdpSender) (answers : DatagramAnswers) :
    let sent : UdpSend := ⟨none, (s.send none answers).2.trace.drop s.trace.length,
      (s.send none answers).1, s, (s.send none answers).2⟩
    sent.observations = [] ∧ sent.healthEvents = [] := by
  have hentries : (s.send none answers).2.trace.drop s.trace.length =
      [.reported UdpSender.sendNullBuffer] := by
    change (s.trace ++ [UdpEvent.reported UdpSender.sendNullBuffer]).drop s.trace.length = _
    rw [List.drop_left]
  intro sent
  refine ⟨?_, ?_⟩
  · simp only [UdpSend.observations, sent, hentries]
    rfl
  · simp only [UdpSend.healthEvents, sent, hentries]
    rfl

/-- The discards of a run are reported run by run. -/
theorem runsReported_sends (s : UdpSender) (calls : List UdpCall) :
    RunsReported s.recordTooLargeReported ((s.sends calls).flatMap UdpSend.observations) := by
  induction calls generalizing s with
  | nil =>
    cases s.recordTooLargeReported
    · exact trivial
    · exact trivial
  | cons call calls ih =>
    cases call with
    | disconnect =>
      rw [UdpSender.sends, ← (UdpSender.still_disconnect s).2.2]
      exact ih s.disconnect
    | send buffer answers =>
      rw [UdpSender.sends, List.flatMap_cons]
      cases buffer with
      | none =>
        rw [(sendNull_shows s answers).1, List.nil_append]
        exact ih (s.send none answers).2
      | some record =>
        obtain ⟨outcome, hshowed⟩ := showed s record answers
        obtain ⟨hreported, hafter⟩ := hshowed.observed
        apply hreported.append
        rw [hafter]
        exact ih (s.send (some record) answers).2

/-- The events of the delivery tell of changes only. -/
theorem isChain_health (s : UdpSender) (calls : List UdpCall) :
    (s.deliveryHealthy :: (s.sends calls).flatMap UdpSend.healthEvents).IsChain (· ≠ ·) := by
  induction calls generalizing s with
  | nil => exact .singleton _
  | cons call calls ih =>
    cases call with
    | disconnect =>
      rw [UdpSender.sends, ← (UdpSender.still_disconnect s).2.1]
      exact ih s.disconnect
    | send buffer answers =>
      rw [UdpSender.sends, List.flatMap_cons]
      cases buffer with
      | none =>
        rw [(sendNull_shows s answers).2, List.nil_append]
        exact ih (s.send none answers).2
      | some record =>
        obtain ⟨outcome, hshowed⟩ := showed s record answers
        have hnext := ih (s.send (some record) answers).2
        have hhealthy := hshowed.healthy
        dsimp only at hhealthy hnext
        rw [hshowed.health]
        rw [hhealthy] at hnext
        by_cases hdiscarded : outcome = .oversize
        · rw [if_pos (.inl hdiscarded), List.nil_append]
          rwa [if_pos hdiscarded] at hnext
        · rw [if_neg hdiscarded] at hnext
          by_cases hsame : decide (outcome = .sent) = s.deliveryHealthy
          · rw [if_pos (.inr hsame), List.nil_append, ← hsame]
            exact hnext
          · rw [if_neg (not_or.2 ⟨hdiscarded, hsame⟩)]
            exact .cons_cons (Ne.symm hsame) hnext

/-- Every send of a run over datagrams is consistent, its discards are reported run by run, and the
events of its delivery alternate, the first a failure. -/
theorem udpSender_consistent (calls : List UdpCall) :
    let sends := UdpSender.initial.sends calls
    (∀ sent ∈ sends, ∀ record, sent.buffer = some record → Utf8.WellFormed record →
        Consistent record sent) ∧
      RunsReported false (sends.flatMap UdpSend.observations) ∧
      (true :: sends.flatMap UdpSend.healthEvents).IsChain (· ≠ ·) := by
  refine ⟨?_, runsReported_sends .initial calls, isChain_health .initial calls⟩
  generalize UdpSender.initial = s
  induction calls generalizing s with
  | nil => exact List.forall_mem_nil _
  | cons call calls ih =>
    cases call with
    | disconnect => exact ih s.disconnect
    | send buffer answers =>
      intro sent hsent record hbuffer hrecord
      rcases List.mem_cons.1 hsent with rfl | hsent
      · obtain rfl : buffer = some record := hbuffer
        obtain ⟨outcome, hshowed⟩ := showed s record answers
        exact hshowed.consistent hrecord
      · exact ih _ sent hsent record hbuffer hrecord

/-- A failure that is taken for a refusal, of a record that no whole character of fits, loses the
record: the last answer was a failure, and the send returns true. -/
theorem failure_discarded :
    ¬ ∀ (calls : List UdpCall), ∀ sent ∈ UdpSender.initial.sends calls, ∀ record,
      sent.buffer = some record → Utf8.WellFormed record →
        (sent.ok = false ↔ sent.after.connected = false ∨
          ∃ datagram, sent.transmissions.getLast? = some (datagram, .failed)) := by
  intro h
  have hfalse := (h [.send (some [0xC3, 0xA9]) ⟨0, true, true, .failed, 1, 1, .sent⟩] _
    List.mem_cons_self [0xC3, 0xA9] rfl (by decide +kernel)).2
      (.inr ⟨[0xC3, 0xA9], by decide +kernel⟩)
  revert hfalse
  decide +kernel

end SolidSyslog.Sender
