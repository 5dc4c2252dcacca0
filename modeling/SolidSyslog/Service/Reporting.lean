import SolidSyslog.Service.Reports

/-!
# No report is lost

Each part of a pass keeps the account of events and reports: the table holds what waits, only what
waits is taken, and every report made is done or is the one in the slot (`ReportAccount`).
-/

namespace SolidSyslog.Service

open Lib

variable {ε ρ : Type} {S : Surroundings ε ρ} {s s' : State (ε × List Happening) ρ}
  {held held' : Option ρ}

/-! ## The account -/

/-- The account of events and reports, with the report that is held. -/
structure ReportAccount (held : Option ρ) (s : State (ε × List Happening) ρ) : Prop where
  table : TableHolds s.env.2 s.pending
  taken : Always TakesWaiting s.env.2
  made : takenIn s.env.2 = (ledgerOf s.trace).made.map Prod.fst
  held : (ledgerOf s.trace).held.map Prod.snd = held
  leaves : Always LeavesReport s.trace

/-- The report in the slot. -/
def Logger.report (l : Logger ρ) : Option ρ :=
  if l.holdsRecord && l.heldRecordIsReport then some l.record else none

theorem ledgerOf_concat (trace : List (Entry ρ)) (entry : Entry ρ) :
    ledgerOf (trace ++ [entry]) = (ledgerOf trace).next entry := by
  simp [ledgerOf]

theorem Ledger.made_settle (ledger : Ledger ρ) : ledger.settle.made = ledger.made := by
  simp [settle, made]

/-- A change to the logger's own fields. -/
theorem ReportAccount.other (h : ReportAccount held s) (henv : s'.env = s.env)
    (hpending : s'.pending = s.pending) (htrace : s'.trace = s.trace) : ReportAccount held s' := by
  obtain ⟨h₁, h₂, h₃, h₄, h₅⟩ := h
  exact ⟨by rwa [henv, hpending], by rwa [henv], by rwa [henv, htrace], by rwa [htrace],
    by rwa [htrace]⟩

/-- A call that takes no event. -/
theorem ReportAccount.asked (h : ReportAccount held s) {request : Request ρ}
    (hplain : ∀ raised, happenings request raised = raised.map .raised)
    (hleaves : LeavesReport s.trace
      (.call request (S.parts.answer request s.env s.pending).1))
    (hmade : ((ledgerOf s.trace).next
      (.call request (S.parts.answer request s.env s.pending).1)).made = (ledgerOf s.trace).made)
    (hheld : ((ledgerOf s.trace).next
      (.call request (S.parts.answer request s.env s.pending).1)).held.map Prod.snd = held') :
    ReportAccount held' (s.asked S.parts request) := by
  have hlog : (s.asked S.parts request).env.2 =
      s.env.2 ++ (S.answer request s.env.1 s.pending).2.2.map .raised := by
    change s.env.2 ++ happenings request _ = _
    rw [hplain]
  refine ⟨?_, ?_, ?_, ?_, ?_⟩
  · rw [hlog]
    exact h.table.foldl_raised _
  · rw [hlog]
    exact takesWaiting_map_raised h.taken _
  · rw [hlog, takenIn_append, takenIn_raised, List.append_nil, State.asked_trace, ledgerOf_concat,
      hmade, h.made]
  · rw [State.asked_trace, ledgerOf_concat, hheld]
  · exact h.leaves.concat hleaves

/-- A call that has nothing to do with the slot. -/
def Request.leavesSlot : Request ρ → Bool
  | .bufferIsFull | .storeMarkSent | .storeHasUnsent | .storeIsTransient | .getDiscardPolicy
  | .isEventReportingOn | .onHalt => true
  | _ => false

theorem ReportAccount.asked_other (h : ReportAccount held s) {request : Request ρ}
    (hother : request.leavesSlot = true) : ReportAccount held (s.asked S.parts request) := by
  apply h.asked
  · cases request <;> first | exact fun _ => rfl | cases hother
  · intro report _
    cases request <;> trivial
  · cases request <;> first | rfl | cases hother
  · cases request <;> first | exact h.held | cases hother

/-- A call that reads into the slot, which holds no report. -/
def Request.readsSlot : Request ρ → Bool
  | .bufferRead _ | .storeReadNextUnsent _ => true
  | _ => false

theorem ReportAccount.asked_read (h : ReportAccount none s) {request : Request ρ}
    (hreads : request.readsSlot = true) : ReportAccount none (s.asked S.parts request) := by
  have hnone : (ledgerOf s.trace).held = none := by simpa using h.held
  apply h.asked
  · cases request <;> first | exact fun _ => rfl | cases hreads
  · intro report hreport
    exact absurd (hnone.symm.trans hreport) nofun
  · cases request <;> first | rfl | cases hreads
  · cases request <;> first | exact h.held | cases hreads

/-- What is offered to the store is the report, if one is held. -/
theorem ReportAccount.asked_storeWrite (h : ReportAccount held s) {record : ρ}
    (hrecord : held = none ∨ held = some record) :
    ReportAccount (if (S.parts.answer (.storeWrite record) s.env s.pending).1 = .kept then none
      else held) (s.asked S.parts (.storeWrite record)) := by
  apply h.asked
  · exact fun _ => rfl
  · intro report hreport
    have hheld := h.held
    rw [hreport] at hheld
    rcases hrecord with rfl | rfl
    · cases hheld
    · exact (Option.some.inj hheld).symm
  · rw [Ledger.next]
    split
    · exact Ledger.made_settle _
    · rfl
  · rw [Ledger.next]
    split
    · rfl
    · exact h.held

theorem ReportAccount.asked_senderSend (h : ReportAccount held s) {record : ρ}
    (hrecord : held = none ∨ held = some record) :
    ReportAccount (if (S.parts.answer (.senderSend record) s.env s.pending).1 then none
      else held) (s.asked S.parts (.senderSend record)) := by
  apply h.asked
  · exact fun _ => rfl
  · intro report hreport
    have hheld := h.held
    rw [hreport] at hheld
    rcases hrecord with rfl | rfl
    · cases hheld
    · exact (Option.some.inj hheld).symm
  · rw [Ledger.next]
    split
    · exact Ledger.made_settle _
    · rfl
  · rw [Ledger.next]
    split
    · rfl
    · exact h.held

/-- An event the pass raises. -/
theorem report_balanced (h : ReportAccount held s) (severity : Severity) (category : Category)
    (error : LoggerError) :
    Ensures (report S.parts severity category error)
      (fun _ s' => ReportAccount held s' ∧ s'.logger = s.logger) s := by
  rw [ensures_report]
  refine ⟨?_, rfl⟩
  generalize hevent : (⟨severity, category, false, "SolidSyslog", error.code, 0⟩ : ErrorEvent) =
    event
  have hlog : (s.asked S.parts (.errorHandler event)).env.2 =
      s.env.2 ++ (S.answer (.errorHandler event) s.env.1 s.pending).2.2.map .raised ++
        [.raised event] :=
    (List.append_assoc ..).symm
  refine ⟨?_, ?_, ?_, ?_, ?_⟩
  · rw [hlog]
    exact (h.table.foldl_raised _).raised event
  · rw [hlog]
    exact (takesWaiting_map_raised h.taken _).concat trivial
  · rw [hlog, takenIn_append, takenIn_append, takenIn_raised, List.append_nil]
    rw [State.asked_trace, ledgerOf_concat]
    exact (List.append_nil _).trans h.made
  · rw [State.asked_trace, ledgerOf_concat]
    exact h.held
  · apply h.leaves.concat
    intro report _
    trivial

/-! ## Halting -/

/-- The parts of the logger that say what is in the slot. -/
structure SlotKept (s s' : State (ε × List Happening) ρ) : Prop where
  record : s'.logger.record = s.logger.record
  holdsRecord : s'.logger.holdsRecord = s.logger.holdsRecord
  heldRecordIsReport : s'.logger.heldRecordIsReport = s.logger.heldRecordIsReport

theorem SlotKept.of_logger (h : s'.logger = s.logger) : SlotKept s s' := by
  constructor <;> rw [h]

theorem SlotKept.trans {s'' : State (ε × List Happening) ρ} (h : SlotKept s s')
    (h' : SlotKept s' s'') : SlotKept s s'' :=
  ⟨h'.record.trans h.record, h'.holdsRecord.trans h.holdsRecord,
    h'.heldRecordIsReport.trans h.heldRecordIsReport⟩

theorem SlotKept.report (h : SlotKept s s') : s'.logger.report = s.logger.report := by
  simp only [Logger.report, h.record, h.holdsRecord, h.heldRecordIsReport]

theorem halt_balanced (h : ReportAccount held s) (haltedAt : LoggerError) :
    Ensures (halt S.parts haltedAt) (fun _ s' => ReportAccount held s' ∧ SlotKept s s') s := by
  unfold halt
  rw [ensures_bind, ensures_setLogger]
  have hset : ReportAccount held { s with logger := { s.logger with halted := true } } :=
    h.other rfl rfl rfl
  apply Ensures.bind (report_balanced hset .error .loggerHalted haltedAt)
  rintro _ s₁ ⟨h₁, hlogger⟩
  have hslot : SlotKept s s₁ := by constructor <;> rw [hlogger]
  rw [ensures_bind, ensures_ask .onHalt]
  exact ⟨h₁.asked_other rfl, hslot.trans (.of_logger rfl)⟩

theorem haltIfPolicyHalts_balanced (h : ReportAccount held s) :
    Ensures (haltIfPolicyHalts S.parts) (fun _ s' => ReportAccount held s' ∧ SlotKept s s') s := by
  unfold haltIfPolicyHalts policyHalts
  simp only [ensures_bind, ensures_ask .getDiscardPolicy, ensures_pure]
  have hasked : ReportAccount held (s.asked S.parts .getDiscardPolicy) := h.asked_other rfl
  apply Ensures.ite
  · intro _
    apply (halt_balanced hasked .haltedStoreRefused).mono
    rintro _ s₁ ⟨h₁, hslot⟩
    have hsame : SlotKept s (s.asked S.parts .getDiscardPolicy) := .of_logger rfl
    exact ⟨h₁, hsame.trans hslot⟩
  · intro _
    exact ⟨hasked, .of_logger rfl⟩

theorem resumeIfPolicyChanged_balanced (h : ReportAccount held s) :
    Ensures (resumeIfPolicyChanged S.parts) (fun _ s' => ReportAccount held s' ∧
      SlotKept s s') s := by
  unfold resumeIfPolicyChanged policyHalts
  rw [ensures_bind, ensures_logger]
  apply Ensures.ite
  · intro _
    simp only [ensures_bind, ensures_ask .getDiscardPolicy, ensures_pure, ensures_setLogger]
    have hasked : ReportAccount held (s.asked S.parts .getDiscardPolicy) := h.asked_other rfl
    exact ⟨hasked.other rfl rfl rfl, rfl, rfl, rfl⟩
  · intro _
    exact ⟨h, .of_logger rfl⟩

/-! ## The held record -/

/-- The slot is as the account says. -/
def Balanced (s : State (ε × List Happening) ρ) : Prop :=
  ReportAccount s.logger.report s

/-- Only a record of the buffer is dropped. -/
theorem dropHeldRecord_balanced (h : ReportAccount none s) :
    Ensures (dropHeldRecord S.parts) (fun _ s' => Balanced s') s := by
  have hnone : (ledgerOf s.trace).held = none := by simpa using h.held
  unfold dropHeldRecord
  simp only [ensures_bind, ensures_logger, ensures_modify, ensures_setLogger]
  have hdropped : ReportAccount none { s with
      trace := s.trace ++ [.dropped s.logger.record]
      logger := { s.logger with holdsRecord := false, heldRecordLossReported := true } } := by
    refine ⟨h.table, h.taken, ?_, ?_, ?_⟩
    · rw [ledgerOf_concat]
      exact h.made
    · rw [ledgerOf_concat]
      exact h.held
    · apply h.leaves.concat
      intro report hreport
      exact absurd (hnone.symm.trans hreport) nofun
  apply Ensures.ite
  · intro _
    apply (report_balanced hdropped .warning .bufferRecordsLost .heldRecordDropped).mono
    rintro _ s₁ ⟨h₁, hlogger⟩
    unfold Balanced
    rw [hlogger]
    exact h₁
  · intro _
    exact hdropped

theorem applyPolicyToHeldRecordIfBufferFull_balanced (h : Balanced s) :
    Ensures (applyPolicyToHeldRecordIfBufferFull S.parts) (fun _ s' => Balanced s') s := by
  unfold applyPolicyToHeldRecordIfBufferFull
  rw [ensures_bind, ensures_logger]
  apply Ensures.ite
  · intro hholds
    simp only [ensures_bind, ensures_ask .bufferIsFull]
    have hasked : Balanced (s.asked S.parts .bufferIsFull) := h.asked_other rfl
    apply Ensures.ite
    · intro _
      simp only [ensures_bind, ensures_ask .getDiscardPolicy, ensures_logger]
      have hanswered : Balanced ((s.asked S.parts .bufferIsFull).asked S.parts .getDiscardPolicy) :=
        hasked.asked_other rfl
      apply Ensures.ite
      · intro hdrops
        rw [Bool.and_eq_true, Bool.not_eq_true'] at hdrops
        apply dropHeldRecord_balanced
        have hnot : ((s.asked S.parts .bufferIsFull).asked S.parts
            .getDiscardPolicy).logger.report = none := by
          rw [Logger.report, hdrops.2, Bool.and_false]
          rfl
        unfold Balanced at hanswered
        rwa [hnot] at hanswered
      · intro _
        apply Ensures.ite
        · intro _
          apply (halt_balanced hanswered .haltedBufferFull).mono
          rintro _ s₁ ⟨h₁, hslot⟩
          unfold Balanced
          rwa [hslot.report]
        · intro _
          exact hanswered
    · intro _
      exact hasked
  · intro _
    exact h

theorem holdNextRecord_balanced (h : ReportAccount none s) :
    Ensures (holdNextRecord S.parts) (fun _ s' => Balanced s') s := by
  unfold holdNextRecord
  simp only [ensures_bind, ensures_logger, ensures_ask (.bufferRead _), ensures_setLogger,
    ensures_pure]
  have hasked : ReportAccount none (s.asked S.parts (.bufferRead s.logger.recordCapacity)) :=
    h.asked_read rfl
  unfold Balanced Logger.report
  rw [Bool.and_false]
  exact hasked.other rfl rfl rfl

/-- A record of the buffer that is not kept is no report. -/
theorem ReportAccount.dealt {l : Logger ρ} (h : ReportAccount l.report s) (notKept : Bool) :
    ReportAccount (if notKept && !l.heldRecordIsReport then none else l.report) s := by
  cases hreport : l.heldRecordIsReport with
  | true =>
    rw [Bool.not_true, Bool.and_false]
    exact h
  | false =>
    have hnone : l.report = none := by
      rw [Logger.report, hreport, Bool.and_false]
      rfl
    rw [hnone, ite_self]
    rwa [hnone] at h

/-- The store has dealt with a report only by keeping it. -/
theorem storeDealsWithHeldRecord_balanced (h : Balanced s) :
    Ensures (storeDealsWithHeldRecord S.parts) (fun dealt s' =>
      ReportAccount (if dealt then none else s.logger.report) s' ∧ SlotKept s s') s := by
  unfold storeDealsWithHeldRecord
  simp only [ensures_bind, ensures_logger, ensures_ask (.storeWrite _)]
  have hrecord : s.logger.report = none ∨ s.logger.report = some s.logger.record := by
    unfold Logger.report
    split
    · exact .inr rfl
    · exact .inl rfl
  have hasked := ReportAccount.asked_storeWrite (S := S) h hrecord
  have hslot : SlotKept s (s.asked S.parts (.storeWrite s.logger.record)) := .of_logger rfl
  generalize s.asked S.parts (.storeWrite s.logger.record) = s₁ at hasked hslot ⊢
  generalize (S.parts.answer (.storeWrite s.logger.record) s.env s.pending).1 = result at hasked ⊢
  cases result with
  | kept =>
    rw [if_pos rfl] at hasked
    exact ⟨hasked, hslot⟩
  | lost =>
    rw [if_neg nofun] at hasked
    have hdealt := hasked.dealt true
    rw [← hslot.heldRecordIsReport] at hdealt
    exact ⟨hdealt, hslot⟩
  | notRetained =>
    rw [if_neg nofun] at hasked
    simp only [beq_self_eq_true, if_true, ensures_bind, ensures_ask .storeIsTransient, ensures_pure]
    have hjudged : ReportAccount s.logger.report (s₁.asked S.parts .storeIsTransient) :=
      hasked.asked_other rfl
    have hslot' : SlotKept s (s₁.asked S.parts .storeIsTransient) := hslot.trans (.of_logger rfl)
    cases (S.parts.answer .storeIsTransient s₁.env s₁.pending).1 with
    | true => exact ⟨hjudged, hslot'⟩
    | false =>
      apply (haltIfPolicyHalts_balanced hjudged).bind
      rintro _ s₂ ⟨h₂, hslot₂⟩
      have hdealt := h₂.dealt true
      rw [← (hslot'.trans hslot₂).heldRecordIsReport] at hdealt
      exact ⟨hdealt, hslot'.trans hslot₂⟩

theorem storeOrSenderTakesHeldRecord_balanced (h : Balanced s) :
    Ensures (storeOrSenderTakesHeldRecord S.parts) (fun taken s' =>
      ReportAccount (if taken then none else s.logger.report) s' ∧ SlotKept s s') s := by
  unfold storeOrSenderTakesHeldRecord
  apply (storeDealsWithHeldRecord_balanced h).bind
  rintro dealt s₁ ⟨h₁, hslot⟩
  apply Ensures.ite
  · rintro rfl
    exact ⟨h₁, hslot⟩
  · intro hdealt
    rw [if_neg hdealt] at h₁
    rw [ensures_bind, ensures_logger]
    apply Ensures.ite
    · intro _
      exact ⟨h₁, hslot⟩
    · intro _
      rw [ensures_bind, ensures_logger, ensures_ask (.senderSend _)]
      have hrecord : s.logger.report = none ∨ s.logger.report = some s₁.logger.record := by
        unfold Logger.report
        rw [hslot.record]
        split
        · exact .inr rfl
        · exact .inl rfl
      exact ⟨h₁.asked_senderSend hrecord, hslot.trans (.of_logger rfl)⟩

theorem dealWithHeldRecord_balanced (h : Balanced s) :
    Ensures (dealWithHeldRecord S.parts) (fun dealtWith s' =>
      Balanced s' ∧ (dealtWith = true ↔ s'.logger.holdsRecord = false)) s := by
  unfold dealWithHeldRecord
  rw [ensures_bind, ensures_logger]
  apply Ensures.ite
  · intro hholds
    apply (storeOrSenderTakesHeldRecord_balanced h).bind
    rintro taken s₁ ⟨h₁, hslot⟩
    simp only [ensures_bind, ensures_setLogger, ensures_logger, ensures_pure]
    refine ⟨?_, by simp⟩
    have hreport : Logger.report { s₁.logger with holdsRecord := !taken } =
        if taken then none else s.logger.report := by
      cases taken with
      | true => rfl
      | false =>
        have hholds₁ : s₁.logger.holdsRecord = true := hslot.holdsRecord.trans hholds
        simp only [Logger.report, hslot.record, hslot.heldRecordIsReport, hholds]
        rfl
    rw [← hreport] at h₁
    exact h₁.other rfl rfl rfl
  · intro _
    simp only [ensures_bind, ensures_logger, ensures_pure]
    exact ⟨h, by simp⟩

/-! ## Reports -/

theorem Balanced.free (h : Balanced s) (hfree : s.logger.holdsRecord = false) :
    ReportAccount none s := by
  have hnone : s.logger.report = none := by
    rw [Logger.report, hfree]
    rfl
  unfold Balanced at h
  rwa [hnone] at h

/-- The event of a slot is taken into the report that is now held. -/
theorem holdPendingReport_balanced (h : ReportAccount none s) {index : Fin PendingEvents.kindCount}
    (hpending : PendingEvents.isPending s.pending index = true) :
    Ensures (holdPendingReport S.parts index) (fun _ s' => Balanced s') s := by
  have hnone : (ledgerOf s.trace).held = none := by simpa using h.held
  have hdone : (ledgerOf s.trace).made = (ledgerOf s.trace).done := by
    rw [Ledger.made, hnone]
    exact List.append_nil _
  have hwaits := h.table index
  rw [if_pos hpending] at hwaits
  have hindex : PendingEvents.indexOf (PendingEvents.take s.pending index).2.1.category =
      some index :=
    PendingEvents.indexOf_kindAt index
  have htaken : (PendingEvents.take s.pending index).1 = true := hpending
  have htable := h.table.taken index
  unfold holdPendingReport
  simp only [ensures_bind, ensures_get, ensures_modify, ensures_setLogger, ensures_logger,
    ensures_ask (.formatReport _ _)]
  generalize (PendingEvents.take s.pending index).2.1 = event at hwaits hindex htable ⊢
  generalize (PendingEvents.take s.pending index).2.2 = pending at htable ⊢
  rw [htaken]
  have hlog (raised : List ErrorEvent) :
      s.env.2 ++ happenings (.formatReport s.logger.recordCapacity event : Request ρ) raised =
        s.env.2 ++ [.taken event] ++ raised.map .raised := by
    simp [happenings]
  have horderly : Always TakesWaiting (s.env.2 ++ [.taken event]) :=
    h.taken.concat ⟨index, hindex, hwaits⟩
  unfold Balanced
  refine ⟨?_, ?_, ?_, ?_, ?_⟩
  · change TableHolds (s.env.2 ++ happenings _ _) _
    rw [hlog]
    exact htable.foldl_raised _
  · change Always TakesWaiting (s.env.2 ++ happenings _ _)
    rw [hlog]
    exact takesWaiting_map_raised horderly _
  · change takenIn (s.env.2 ++ happenings _ _) = (ledgerOf (s.trace ++ [_])).made.map Prod.fst
    rw [hlog, takenIn_append, takenIn_append, takenIn_raised, List.append_nil, h.made, hdone,
      ledgerOf_concat]
    simp [Ledger.next, Ledger.made, takenIn]
  · change (ledgerOf (s.trace ++ [_])).held.map Prod.snd = _
    rw [ledgerOf_concat]
    rfl
  · apply h.leaves.concat
    intro report hreport
    exact absurd (hnone.symm.trans hreport) (by rintro ⟨⟩)

theorem reportIfPending_balanced (h : Balanced s) (hfree : s.logger.holdsRecord = false)
    (index : Fin PendingEvents.kindCount) :
    Ensures (reportIfPending S.parts index) (fun goesOn s' =>
      Balanced s' ∧ (goesOn = true → s'.logger.holdsRecord = false)) s := by
  unfold reportIfPending
  rw [ensures_bind, ensures_get]
  apply Ensures.ite
  · intro hpending
    simp only [ensures_bind, ensures_ask .isEventReportingOn, ensures_setLogger]
    have hasked : Balanced (s.asked S.parts .isEventReportingOn) := h.asked_other rfl
    have hstill : PendingEvents.isPending (s.asked S.parts .isEventReportingOn).pending index =
        true :=
      isPending_foldl_record hpending _
    apply Ensures.ite
    · intro _
      have hnone := hasked.free hfree
      have hset : ReportAccount none { s.asked S.parts .isEventReportingOn with
          logger := { s.logger with reportTurnedDown :=
            !(S.parts.answer .isEventReportingOn s.env s.pending).1 } } := hnone.other rfl rfl rfl
      apply Ensures.bind (holdPendingReport_balanced hset hstill)
      intro _ s₁ h₁
      apply (dealWithHeldRecord_balanced h₁).bind
      rintro dealtWith s₂ ⟨h₂, hdealt⟩
      rw [ensures_bind, ensures_logger, ensures_pure]
      refine ⟨h₂, fun hgoes => ?_⟩
      rw [Bool.and_eq_true] at hgoes
      exact hdealt.1 hgoes.1
    · intro _
      rw [ensures_pure]
      exact ⟨ReportAccount.other hasked rfl rfl rfl, nofun⟩
  · intro _
    exact ⟨h, fun _ => hfree⟩

theorem walk_balanced (h : Balanced s) (hfree : s.logger.holdsRecord = false)
    (indices : List (Fin PendingEvents.kindCount)) :
    Ensures (walk S.parts indices) (fun _ s' => Balanced s') s := by
  induction indices generalizing s with
  | nil => exact h
  | cons index rest ih =>
    unfold walk
    apply (reportIfPending_balanced h hfree index).bind
    rintro goesOn s₁ ⟨h₁, hfree₁⟩
    apply Ensures.ite
    · intro hgoes
      exact ih h₁ (hfree₁ hgoes)
    · intro _
      exact h₁

theorem reportPendingEvents_balanced (h : Balanced s) (hfree : s.logger.holdsRecord = false) :
    Ensures (reportPendingEvents S.parts) (fun dealtWith s' =>
      Balanced s' ∧ (dealtWith = true ↔ s'.logger.holdsRecord = false)) s := by
  unfold reportPendingEvents
  rw [ensures_bind, ensures_logger]
  apply Ensures.ite
  · intro _
    apply (walk_balanced h hfree _).bind
    intro _ s₁ h₁
    rw [ensures_bind, ensures_logger, ensures_pure]
    exact ⟨h₁, by simp⟩
  · intro _
    rw [ensures_bind, ensures_logger, ensures_pure]
    exact ⟨h, by simp⟩

/-! ## The pass -/

theorem drainLoop_balanced (h : Balanced s) (drained : Bool) {dealtWith : Bool}
    (hdealt : dealtWith = true → s.logger.holdsRecord = false) (fuel : Nat) :
    Ensures (drainLoop S.parts drained dealtWith fuel) (fun _ s' => Balanced s') s := by
  induction fuel generalizing s drained dealtWith with
  | zero =>
    unfold drainLoop
    rw [ensures_bind, ensures_logger]
    apply Ensures.ite
    · intro _
      exact h
    · intro _
      exact h
  | succ fuel ih =>
    unfold drainLoop
    rw [ensures_bind, ensures_logger]
    apply Ensures.ite
    · intro hgoes
      rw [Bool.and_eq_true] at hgoes
      apply (holdNextRecord_balanced (h.free (hdealt hgoes.1))).bind
      intro found s₁ h₁
      apply Ensures.ite
      · intro _
        apply (dealWithHeldRecord_balanced h₁).bind
        rintro dealtWith' s₂ ⟨h₂, hdealt₂⟩
        exact ih h₂ true hdealt₂.1
      · intro _
        exact h₁
    · intro _
      exact h

theorem drainBufferIntoStore_balanced (h : Balanced s) (fuel : Nat) :
    Ensures (drainBufferIntoStore S.parts fuel) (fun _ s' => Balanced s') s := by
  unfold drainBufferIntoStore
  apply (applyPolicyToHeldRecordIfBufferFull_balanced h).bind
  intro _ s₁ h₁
  rw [ensures_bind, ensures_logger]
  have hdealt : Ensures (if s₁.logger.halted then pure false else dealWithHeldRecord S.parts)
      (fun dealtWith s' => Balanced s' ∧ (dealtWith = true → s'.logger.holdsRecord = false))
        s₁ := by
    apply Ensures.ite
    · intro _
      exact ⟨h₁, nofun⟩
    · intro _
      apply (dealWithHeldRecord_balanced h₁).mono
      rintro dealtWith s' ⟨h', hdealt'⟩
      exact ⟨h', hdealt'.1⟩
  apply Ensures.bind hdealt
  rintro dealtWith s₂ ⟨h₂, hfree₂⟩
  rw [ensures_bind, ensures_logger]
  have hreported : Ensures
      (if dealtWith && !s₂.logger.halted then reportPendingEvents S.parts else pure dealtWith)
      (fun dealtWith s' => Balanced s' ∧ (dealtWith = true → s'.logger.holdsRecord = false))
        s₂ := by
    apply Ensures.ite
    · intro hgoes
      rw [Bool.and_eq_true] at hgoes
      apply (reportPendingEvents_balanced h₂ (hfree₂ hgoes.1)).mono
      rintro dealtWith' s' ⟨h', hdealt'⟩
      exact ⟨h', hdealt'.1⟩
    · intro _
      exact ⟨h₂, hfree₂⟩
  apply Ensures.bind hreported
  rintro dealtWith' s₃ ⟨h₃, hfree₃⟩
  exact drainLoop_balanced h₃ false hfree₃ fuel

theorem sendOneFromStore_balanced (h : Balanced s) :
    Ensures (sendOneFromStore S.parts) (fun _ s' => Balanced s') s := by
  have htake : Ensures (takeNextFromStore S.parts) (fun taken s' =>
      Balanced s' ∧ (taken = true → s'.logger.holdsRecord = false)) s := by
    unfold takeNextFromStore
    rw [ensures_bind, ensures_logger]
    apply Ensures.ite
    · intro _
      exact ⟨h, nofun⟩
    · intro hfree
      rw [Bool.not_eq_true] at hfree
      simp only [ensures_bind, ensures_logger, ensures_ask (.storeReadNextUnsent _),
        ensures_setLogger, ensures_pure]
      refine ⟨?_, fun _ => hfree⟩
      have hasked : ReportAccount none
          (s.asked S.parts (.storeReadNextUnsent s.logger.recordCapacity)) :=
        (h.free hfree).asked_read rfl
      unfold Balanced Logger.report
      simp only [State.asked_logger, hfree, Bool.false_and]
      exact hasked.other rfl rfl rfl
  unfold sendOneFromStore
  apply htake.bind
  rintro taken s₁ ⟨h₁, hfree₁⟩
  apply Ensures.ite
  · intro htaken
    simp only [ensures_bind, ensures_logger, ensures_ask (.senderSend _)]
    have hfree : s₁.logger.holdsRecord = false := hfree₁ htaken
    have hsent : Balanced (s₁.asked S.parts (.senderSend s₁.logger.record)) := by
      have hrecord : (none : Option ρ) = none ∨ none = some s₁.logger.record := .inl rfl
      have hasked := (h₁.free hfree).asked_senderSend (S := S) hrecord
      rw [ite_self] at hasked
      unfold Balanced Logger.report
      simp only [State.asked_logger, hfree, Bool.false_and]
      exact hasked
    apply Ensures.ite
    · intro _
      exact hsent.asked_other rfl
    · intro _
      exact hsent
  · intro _
    rw [ensures_ask .storeHasUnsent]
    exact h₁.asked_other rfl

theorem statusOf_balanced (h : Balanced s) (storeBlocked drained : Bool) :
    Ensures (statusOf S.parts storeBlocked drained) (fun _ s' => Balanced s') s := by
  unfold statusOf
  rw [ensures_bind, ensures_logger]
  apply Ensures.ite
  · intro _
    exact h
  · intro _
    rw [ensures_bind, ensures_logger]
    apply Ensures.ite
    · intro _
      exact h
    · intro _
      apply Ensures.ite
      · intro _
        exact h
      · intro _
        simp only [ensures_bind, ensures_ask .storeHasUnsent]
        have hasked : Balanced (s.asked S.parts .storeHasUnsent) := h.asked_other rfl
        unfold isReportWaiting
        rw [ensures_bind, ensures_get, ensures_pure]
        apply Ensures.ite
        · intro _
          exact hasked
        · intro _
          exact hasked

/-- A pass keeps the account. -/
theorem service_balanced (h : Balanced s) (fuel : Nat) :
    Ensures (service S.parts fuel) (fun _ s' => Balanced s') s := by
  unfold service
  apply (resumeIfPolicyChanged_balanced h).bind
  rintro _ s₁ ⟨h₁, hslot⟩
  have hrest : Balanced s₁ := by
    unfold Balanced
    rwa [hslot.report]
  rw [ensures_bind, ensures_logger]
  apply Ensures.ite
  · intro _
    exact hrest
  · intro _
    unfold processMessages
    rw [ensures_bind, ensures_setLogger]
    have hstart : Balanced { s₁ with logger := { s₁.logger with reportTurnedDown := false } } :=
      ReportAccount.other hrest rfl rfl rfl
    apply Ensures.bind (drainBufferIntoStore_balanced hstart fuel)
    intro outcome s₂ h₂
    cases outcome with
    | none => exact h₂
    | some drained =>
      simp only [ensures_bind, ensures_logger]
      have hsent : Ensures (if s₂.logger.halted then pure false else sendOneFromStore S.parts)
          (fun _ s' => Balanced s') s₂ := by
        apply Ensures.ite
        · intro _
          exact h₂
        · intro _
          exact sendOneFromStore_balanced h₂
      apply hsent.mono
      intro storeBlocked s₃ h₃
      apply (statusOf_balanced h₃ storeBlocked drained).mono
      intro _ s₄ h₄
      exact h₄

end SolidSyslog.Service
