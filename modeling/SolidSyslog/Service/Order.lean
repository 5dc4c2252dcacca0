import SolidSyslog.Service.Account
import SolidSyslog.Service.Rules
import SolidSyslog.Lib.Run

/-!
# Order and loss from the buffer to the sender

Every function of the pass keeps the account. The slot is accounted for by what the logger says it
holds, so each specification says which record is in the slot when the function is called and which
when it returns. From one pass the account goes to every run of passes and buffer writes.
-/

namespace SolidSyslog.Service

open Lib

/-- What the logger says is in the slot. -/
def Logger.held (l : Logger Item) : List Item :=
  if l.holdsRecord then [l.record] else []

variable {ε : Type} {P : Parts ε Item} {view : ε → Pipeline} {throughout latched : Bool}
  {held : List Item} {s : State ε Item}

/-- The account of a whole state, with `held` in the slot. -/
def Holds (view : ε → Pipeline) (throughout : Bool) (held : List Item) (latched : Bool)
    (s : State ε Item) : Prop :=
  Accounted throughout (view s.env) s.trace held latched

/-- The fields that say what is in the slot. -/
def SameSlot (l l' : Logger Item) : Prop :=
  l'.record = l.record ∧ l'.holdsRecord = l.holdsRecord ∧
    l'.heldRecordIsReport = l.heldRecordIsReport ∧
    l'.heldRecordLossReported = l.heldRecordLossReported

/-- The slot holds what the logger says, and a held record is a report exactly when it did not come
from the buffer. -/
structure Slotted (view : ε → Pipeline) (throughout : Bool) (s : State ε Item) : Prop where
  holds : Holds view throughout s.logger.held s.logger.heldRecordLossReported s
  report : s.logger.holdsRecord = true →
    (s.logger.heldRecordIsReport = true ↔ s.logger.record.arrival = none)

/-- Between the steps of a pass a record of the buffer stays in the slot only past a store that is
transient. -/
structure AtRest (view : ε → Pipeline) (throughout : Bool) (s : State ε Item) : Prop
    extends Slotted view throughout s where
  parked : s.logger.holdsRecord = true →
    (view s.env).isTransient = true ∨ s.logger.record.arrival = none

/-- A store that is transient stays so. -/
def StaysTransient (view : ε → Pipeline) (s s' : State ε Item) : Prop :=
  (view s.env).isTransient = true → (view s'.env).isTransient = true

theorem SameSlot.refl (l : Logger Item) : SameSlot l l :=
  ⟨rfl, rfl, rfl, rfl⟩

theorem SameSlot.of_eq {l l' : Logger Item} (h : l' = l) : SameSlot l l' := by
  rw [h]
  exact .refl l

/-- A change to fields that have nothing to do with the slot. -/
theorem AtRest.congr {s' : State ε Item} (h : AtRest view throughout s)
    (hholds : Holds view throughout s.logger.held s.logger.heldRecordLossReported s')
    (hslot : SameSlot s.logger s'.logger) (ht : StaysTransient view s s') :
    AtRest view throughout s' := by
  obtain ⟨hrecord, hholdsRecord, hreport, hloss⟩ := hslot
  refine ⟨⟨?_, ?_⟩, ?_⟩
  · have hheld : s'.logger.held = s.logger.held := by
      unfold Logger.held
      rw [hrecord, hholdsRecord]
    rw [hheld, hloss]
    exact hholds
  · rw [hholdsRecord, hreport, hrecord]
    exact h.report
  · rw [hholdsRecord, hrecord]
    exact fun hheld => (h.parked hheld).imp_left ht

theorem Logger.held_of_free {l : Logger Item} (hfree : l.holdsRecord = false) : l.held = [] := by
  simp [Logger.held, hfree]

/-- With the slot free there is nothing to say about it. -/
theorem AtRest.of_free (hfree : s.logger.holdsRecord = false)
    (h : Holds view throughout [] s.logger.heldRecordLossReported s) :
      AtRest view throughout s := by
  refine ⟨⟨?_, fun hheld => ?_⟩, fun hheld => ?_⟩
  · rw [Logger.held_of_free hfree]
    exact h
  · simp [hfree] at hheld
  · simp [hfree] at hheld

theorem AtRest.free (h : AtRest view throughout s) (hfree : s.logger.holdsRecord = false) :
    Holds view throughout [] s.logger.heldRecordLossReported s := by
  have hholds := h.holds
  rw [Logger.held_of_free hfree] at hholds
  exact hholds

section Calls

variable (hP : IsPipeline P view)
include hP

theorem ask_spec (request : Request Item) :
    Ensures (ask P request) (fun answer s' => Step (view s.env) request answer (view s'.env) ∧
      s'.logger = s.logger ∧ s'.trace = s.trace ++ [.call request answer]) s :=
  ⟨hP.step request s.env s.pending, rfl, rfl⟩

theorem ask_quiet (request : Request Item) (hquiet : Accounted.quiet request)
    (h : Holds view throughout held latched s) :
    Ensures (ask P request)
      (fun _ s' => Holds view throughout held latched s' ∧ s'.logger = s.logger ∧
        StaysTransient view s s') s :=
  (ask_spec hP request).mono fun answer s' ⟨hstep, hlogger, htrace⟩ => by
    refine ⟨?_, hlogger, Accounted.stays_transient hstep⟩
    unfold Holds
    rw [htrace]
    exact Accounted.ofQuiet h hquiet hstep

theorem report_spec {severity : Severity} {category : Category} {error : LoggerError}
    (herror : error ≠ .heldRecordDropped) (h : Holds view throughout held latched s) :
    Ensures (report P severity category error)
      (fun _ s' => Holds view throughout held latched s' ∧ s'.logger = s.logger ∧
        StaysTransient view s s') s := by
  have hquiet : (⟨severity, category, false, "SolidSyslog", error.code, 0⟩ : ErrorEvent) ≠
      heldRecordDroppedEvent := by
    intro heq
    have := congrArg ErrorEvent.detail heq
    cases error <;> simp_all [LoggerError.code, heldRecordDroppedEvent]
  unfold report
  simp only [ensures_bind, ensures_modify]
  exact ask_quiet hP (.errorHandler _) hquiet h

theorem policyHalts_spec (h : Holds view throughout held latched s) :
    Ensures (policyHalts P)
      (fun _ s' => Holds view throughout held latched s' ∧ s'.logger = s.logger ∧
        StaysTransient view s s') s := by
  unfold policyHalts
  simp only [ensures_bind, ensures_pure]
  exact ask_quiet hP .getDiscardPolicy trivial h

theorem halt_spec {haltedAt : LoggerError} (hat : haltedAt ≠ .heldRecordDropped)
    (h : Holds view throughout held latched s) :
    Ensures (halt P haltedAt) (fun _ s' => Holds view throughout held latched s' ∧
      SameSlot s.logger s'.logger ∧ StaysTransient view s s') s := by
  unfold halt
  simp only [ensures_bind, ensures_setLogger, ensures_pure]
  have hset : Holds view throughout held latched { s with
      logger := { s.logger with halted := true } } := h
  refine (report_spec hP hat hset).mono fun _ s₁ ⟨h₁, hl₁, ht₁⟩ => ?_
  refine (ask_quiet hP .onHalt trivial h₁).mono fun _ s₂ ⟨h₂, hl₂, ht₂⟩ => ?_
  refine ⟨h₂, ?_, fun ht => ht₂ (ht₁ ht)⟩
  rw [hl₂, hl₁]
  exact ⟨rfl, rfl, rfl, rfl⟩

theorem haltIfPolicyHalts_spec (h : Holds view throughout held latched s) :
    Ensures (haltIfPolicyHalts P) (fun _ s' => Holds view throughout held latched s' ∧
      SameSlot s.logger s'.logger) s := by
  unfold haltIfPolicyHalts
  simp only [ensures_bind]
  refine (policyHalts_spec hP h).mono fun halts s₁ ⟨h₁, hl₁, _⟩ => ?_
  rw [← hl₁]
  refine Ensures.ite (fun _ => ?_) (fun _ => ⟨h₁, .refl _⟩)
  exact (halt_spec hP (by decide) h₁).mono fun _ s₂ ⟨h₂, hslot, _⟩ => ⟨h₂, hslot⟩

/-! ## The held record -/

theorem resumeIfPolicyChanged_spec (h : AtRest view throughout s) :
    Ensures (resumeIfPolicyChanged P) (fun _ s' => AtRest view throughout s') s := by
  unfold resumeIfPolicyChanged
  simp only [ensures_bind, ensures_logger]
  refine Ensures.ite (fun _ => ?_) (fun _ => h)
  simp only [ensures_bind, ensures_setLogger]
  refine (policyHalts_spec hP h.holds).mono fun halts s₁ ⟨h₁, hl₁, ht₁⟩ => ?_
  refine h.congr h₁ ?_ ht₁
  rw [hl₁]
  exact ⟨rfl, rfl, rfl, rfl⟩

theorem dropHeldRecord_spec (h : AtRest view throughout s) (hheld : s.logger.holdsRecord = true)
    (hpolicy : .oldest ∈ (view s.env).policies) (ht : (view s.env).isTransient = true)
    (hallowed : Allowed s.trace (.dropped s.logger.record)) :
    Ensures (dropHeldRecord P) (fun _ s' => AtRest view throughout s') s := by
  have hslot : s.logger.held = [s.logger.record] := if_pos hheld
  have hholds := h.holds
  rw [hslot] at hholds
  unfold dropHeldRecord
  simp only [ensures_bind, ensures_logger, ensures_modify, ensures_setLogger]
  refine Ensures.ite (fun hstarts => ?_) (fun hruns => ?_)
  · have hlatch : s.logger.heldRecordLossReported = false := by simpa using hstarts
    rw [hlatch] at hholds
    unfold report
    simp only [ensures_bind, ensures_modify]
    refine (ask_spec hP (.errorHandler heldRecordDroppedEvent)).mono ?_
    intro answer s₁ ⟨hstep, hl₁, htrace⟩
    refine AtRest.of_free (by rw [hl₁]) ?_
    have := Accounted.dropStartsRun hholds hpolicy ht hallowed hstep
    simp only [Holds, htrace, hl₁]
    exact this
  · have hlatch : s.logger.heldRecordLossReported = true := by simpa using hruns
    rw [hlatch] at hholds
    exact AtRest.of_free rfl (Accounted.dropInRun hholds hpolicy ht hallowed)

theorem applyPolicyToHeldRecordIfBufferFull_spec (h : AtRest view throughout s) :
    Ensures (applyPolicyToHeldRecordIfBufferFull P) (fun _ s' => AtRest view throughout s') s := by
  unfold applyPolicyToHeldRecordIfBufferFull
  simp only [ensures_bind, ensures_logger]
  refine Ensures.ite (fun hheld => ?_) (fun _ => h)
  simp only [ensures_bind]
  refine ((ask_quiet hP .bufferIsFull trivial h.holds).and (ask_spec hP .bufferIsFull)).mono ?_
  rintro isFull s₁ ⟨⟨h₁, hl₁, ht₁⟩, -, -, htrace₁⟩
  have hrest₁ : AtRest view throughout s₁ := h.congr h₁ (.of_eq hl₁) ht₁
  refine Ensures.ite (fun hfull => ?_) (fun _ => hrest₁)
  simp only [ensures_bind, ensures_logger]
  refine ((ask_quiet hP .getDiscardPolicy trivial hrest₁.holds).and
    (ask_spec hP .getDiscardPolicy)).mono ?_
  rintro policy s₂ ⟨⟨h₂, hl₂, ht₂⟩, hstep, -, htrace₂⟩
  have hrest₂ : AtRest view throughout s₂ := hrest₁.congr h₂ (.of_eq hl₂) ht₂
  refine Ensures.ite (fun hdrop => ?_) (fun _ => Ensures.ite (fun _ => ?_) (fun _ => hrest₂))
  · obtain ⟨holdest, hbuffer⟩ : policy = .oldest ∧ s₂.logger.heldRecordIsReport = false := by
      simpa using hdrop
    have hheld₂ : s₂.logger.holdsRecord = true := by rw [hl₂, hl₁, hheld]
    refine dropHeldRecord_spec hP hrest₂ hheld₂ ?_ ?_ ⟨s.trace, ?_⟩
    · rw [← holdest]
      exact Accounted.getDiscardPolicy_mem hstep
    · refine (hrest₂.parked hheld₂).resolve_right fun hnone => ?_
      rw [← hrest₂.report hheld₂, hbuffer] at hnone
      cases hnone
    · rw [htrace₂, htrace₁, hfull, holdest, List.append_assoc]
      rfl
  · exact (halt_spec hP (by decide) hrest₂.holds).mono
      fun _ s₃ ⟨h₃, hslot, ht₃⟩ => hrest₂.congr h₃ hslot ht₃

theorem holdNextRecord_spec (h : AtRest view throughout s) (hfree : s.logger.holdsRecord = false) :
    Ensures (holdNextRecord P) (fun took s' => Slotted view throughout s' ∧
      s'.logger.holdsRecord = took) s := by
  have hholds := h.free hfree
  unfold holdNextRecord
  simp only [ensures_bind, ensures_logger, ensures_setLogger, ensures_pure]
  refine (ask_spec hP _).mono fun next s₁ ⟨hstep, hl₁, htrace⟩ => ?_
  obtain ⟨hnext, harrival⟩ := Accounted.bufferRead hholds hstep
  rw [← htrace] at hnext
  refine ⟨?_, trivial⟩
  cases next with
  | none =>
    refine ⟨?_, fun hh => by cases hh⟩
    rw [hl₁]
    exact hnext
  | some r =>
    refine ⟨?_, fun _ => ?_⟩
    · rw [hl₁]
      exact hnext
    · have hr := harrival r rfl
      simp [Option.isSome_iff_ne_none] at hr
      simpa using hr

/-- After the store's verdict the slot still holds the record, or the store has dealt with it. A
record still held may go to the sender directly: the store is transient, or it is a report. -/
structure StoreVerdict (view : ε → Pipeline) (throughout latched : Bool) (s : State ε Item)
    (dealt : Bool) (s' : State ε Item) : Prop where
  slot : SameSlot s.logger s'.logger
  dealtWith : dealt = true → throughout = false ∧ Holds view throughout [] latched s'
  stillHeld : dealt = false → Holds view throughout [s.logger.record] latched s' ∧
    ((view s'.env).isTransient = true ∧ (∃ earlier, s'.trace = earlier ++
        [.call (.storeWrite s.logger.record) .notRetained, .call .storeIsTransient true]) ∨
      s.logger.record.arrival = none)

omit hP in
/-- A record the store did not keep is dealt with, unless it is a report. -/
theorem StoreVerdict.notKept {s' : State ε Item} (hslot : SameSlot s.logger s'.logger)
    (hreport : s.logger.heldRecordIsReport = true ↔ s.logger.record.arrival = none)
    (ht : throughout = false) (h : Holds view throughout [] latched s') :
    StoreVerdict view throughout latched s (!s'.logger.heldRecordIsReport) s' := by
  refine ⟨hslot, fun _ => ⟨ht, h⟩, fun hdealt => ?_⟩
  have hr : s.logger.record.arrival = none := by
    rw [← hreport, ← hslot.2.2.1]
    simpa using hdealt
  exact ⟨⟨(Conserved.report hr).2 h.conserved, h.allowed, h.transient, h.runs⟩, .inr hr⟩

theorem storeDealsWithHeldRecord_spec
    (h : Holds view throughout [s.logger.record] latched s)
    (hreport : s.logger.heldRecordIsReport = true ↔ s.logger.record.arrival = none) :
    Ensures (storeDealsWithHeldRecord P) (StoreVerdict view throughout latched s) s := by
  unfold storeDealsWithHeldRecord
  simp only [ensures_bind, ensures_logger]
  refine (ask_spec hP _).mono fun result s₁ ⟨hstep, hl₁, htrace₁⟩ => ?_
  obtain ⟨haway, htaken⟩ := Accounted.storeWrite h hstep
  rw [← htrace₁] at haway htaken
  have hslot₁ : SameSlot s.logger s₁.logger := by
    rw [hl₁]
    exact ⟨rfl, rfl, rfl, rfl⟩
  cases result with
  | kept =>
    have h₁ := htaken (by decide)
    exact ⟨hslot₁, fun _ => h₁, fun hdealt => by cases hdealt⟩
  | lost =>
    obtain ⟨ht, h₁⟩ := htaken (by decide)
    exact StoreVerdict.notKept hslot₁ hreport ht h₁
  | notRetained =>
    obtain ⟨haway, h₁⟩ := haway rfl
    refine Ensures.ite (fun _ => ?_) (fun hne => absurd rfl hne)
    simp only [ensures_bind, ensures_pure]
    refine (ask_spec hP .storeIsTransient).mono fun isTransient s₂ ⟨hstep₂, hl₂, htrace₂⟩ => ?_
    obtain ⟨htransient, hrefused⟩ := Accounted.storeIsTransient h₁ haway hstep₂
    rw [← htrace₂] at htransient hrefused
    have hslot₂ : SameSlot s.logger s₂.logger := by
      rw [hl₂]
      exact hslot₁
    cases isTransient with
    | true =>
      obtain ⟨ht, h₂⟩ := htransient rfl
      have hverdict : StoreVerdict view throughout latched s false s₂ := by
        refine ⟨hslot₂, fun hdealt => (by cases hdealt), fun _ => ⟨h₂, .inl ⟨ht, s.trace, ?_⟩⟩⟩
        rw [htrace₂, htrace₁, List.append_assoc]
        rfl
      exact hverdict
    | false =>
      obtain ⟨ht, h₂⟩ := hrefused rfl
      refine Ensures.ite (fun _ => ?_) (fun hne => absurd rfl hne)
      simp only [ensures_bind, ensures_logger, ensures_pure]
      refine (haltIfPolicyHalts_spec hP h₂).mono fun _ s₃ ⟨h₃, hslot₃⟩ => ?_
      refine StoreVerdict.notKept ?_ hreport ht h₃
      rw [hl₂, hl₁] at hslot₃
      exact hslot₃

theorem storeOrSenderTakesHeldRecord_spec
    (h : Holds view throughout [s.logger.record] latched s)
    (hreport : s.logger.heldRecordIsReport = true ↔ s.logger.record.arrival = none) :
    Ensures (storeOrSenderTakesHeldRecord P) (fun taken s' => SameSlot s.logger s'.logger ∧
      Holds view throughout (if taken then [] else [s.logger.record])
        (latched && !(taken && s.logger.record.arrival.isSome)) s' ∧
      (taken = false → (view s'.env).isTransient = true ∨ s.logger.record.arrival = none)) s := by
  unfold storeOrSenderTakesHeldRecord
  simp only [ensures_bind]
  refine (storeDealsWithHeldRecord_spec hP h hreport).mono fun dealt s₁ hverdict => ?_
  cases dealt with
  | true =>
    obtain ⟨ht, h₁⟩ := hverdict.dealtWith rfl
    exact ⟨hverdict.slot, Accounted.relatch h₁ ht _, fun hf => by cases hf⟩
  | false =>
    obtain ⟨h₁, hdirect⟩ := hverdict.stillHeld rfl
    refine Ensures.ite (fun hd => by cases hd) (fun _ => ?_)
    simp only [ensures_bind, ensures_logger]
    refine Ensures.ite (fun _ => ?_) (fun _ => ?_)
    · simp only [ensures_pure]
      exact ⟨hverdict.slot, by simpa using h₁, fun _ => hdirect.imp_left And.left⟩
    · simp only [ensures_bind, ensures_logger]
      rw [hverdict.slot.1]
      refine (ask_spec hP (.senderSend s.logger.record)).mono ?_
      rintro accepted s₂ ⟨hstep, hl₂, htrace₂⟩
      refine ⟨by rw [hl₂]; exact hverdict.slot, ?_,
        fun _ => hdirect.imp_left fun ⟨ht, _⟩ => Accounted.stays_transient hstep ht⟩
      unfold Holds
      rw [htrace₂]
      refine Accounted.senderSend h₁ (hdirect.imp_left And.left) ?_ hstep
      intro harrival
      rcases hdirect with ⟨-, earlier, htrace⟩ | hnone
      · exact .inr ⟨earlier, htrace⟩
      · simp [hnone] at harrival

theorem dealWithHeldRecord_spec (h : Slotted view throughout s) :
    Ensures (dealWithHeldRecord P) (fun dealt s' => AtRest view throughout s' ∧
      s'.logger.holdsRecord = !dealt) s := by
  unfold dealWithHeldRecord
  simp only [ensures_bind, ensures_logger]
  refine Ensures.ite (fun hheld => ?_)
    (fun hfree => ⟨⟨h, fun hheld => absurd hheld hfree⟩, (Bool.not_not _).symm⟩)
  simp only [ensures_bind, ensures_setLogger, ensures_logger, ensures_pure]
  have hslot : s.logger.held = [s.logger.record] := if_pos hheld
  have hholds := h.holds
  rw [hslot] at hholds
  have hreport := h.report hheld
  refine (storeOrSenderTakesHeldRecord_spec hP hholds hreport).mono ?_
  rintro taken s₁ ⟨⟨hrecord, -, hisReport, hloss⟩, h₁, hparked⟩
  refine ⟨⟨⟨?_, fun _ => ?_⟩, fun hheld₁ => ?_⟩, by simp⟩
  · have hclear : (s₁.logger.heldRecordLossReported &&
      !(!(!taken) && !s₁.logger.heldRecordIsReport)) =
        (s.logger.heldRecordLossReported && !(taken && s.logger.record.arrival.isSome)) := by
      have harrival : s.logger.record.arrival.isSome = !s.logger.heldRecordIsReport := by
        cases hr : s.logger.record.arrival <;> simp_all
      rw [hloss, hisReport, harrival, Bool.not_not]
    have hheld : (if taken then [] else [s.logger.record]) =
        (if !taken then [s₁.logger.record] else []) := by
      cases taken <;> simp [hrecord]
    rw [← hclear, hheld] at h₁
    exact h₁
  · rw [← hrecord, ← hisReport] at hreport
    exact hreport
  · rw [← hrecord] at hparked
    exact hparked (by simpa using hheld₁)

/-! ## Reports -/

theorem ask_formatReport (capacity : Nat) (event : ErrorEvent) :
    Ensures (ask P (.formatReport capacity event)) (fun r _ => r.arrival = none) s := by
  obtain ⟨p, -, heffect | ⟨hfreeze, -⟩⟩ := hP.step (.formatReport capacity event) s.env s.pending
  · generalize hr : (P.answer (.formatReport capacity event) s.env s.pending).1 = r at heffect
    have harrival : r.arrival = none := by
      cases heffect with
      | formatReport => assumption
    rw [← hr] at harrival
    exact harrival
  · cases hfreeze

/-- A report goes into the free slot, which the account does not see. -/
theorem holdPendingReport_spec {index : Fin PendingEvents.kindCount} (h : AtRest view throughout s)
    (hfree : s.logger.holdsRecord = false) :
    Ensures (holdPendingReport P index) (fun _ s' => AtRest view throughout s') s := by
  have hholds := h.free hfree
  unfold holdPendingReport
  simp only [ensures_bind, ensures_get, ensures_modify, ensures_setLogger, ensures_logger]
  refine ((ask_quiet hP (.formatReport _ _) trivial (by exact hholds)).and
    (ask_formatReport hP _ _)).mono ?_
  rintro r s₁ ⟨⟨h₁, hl₁, -⟩, hr⟩
  have hr' : r.arrival = none := hr
  refine ⟨⟨?_, fun hh => ?_⟩, fun _ => .inr hr'⟩
  · rw [hl₁]
    unfold Logger.held
    split
    · exact ⟨(Conserved.report hr').2 h₁.conserved, h₁.allowed, h₁.transient, h₁.runs⟩
    · exact h₁
  · rw [hl₁] at hh ⊢
    exact ⟨fun _ => hr', fun _ => hh⟩

theorem reportIfPending_spec {index : Fin PendingEvents.kindCount} (h : AtRest view throughout s)
    (hfree : s.logger.holdsRecord = false) :
    Ensures (reportIfPending P index) (fun goesOn s' => AtRest view throughout s' ∧
      (goesOn = true → s'.logger.holdsRecord = false)) s := by
  unfold reportIfPending
  simp only [ensures_bind, ensures_get]
  refine Ensures.ite (fun _ => ?_) (fun _ => ⟨h, fun _ => hfree⟩)
  simp only [ensures_bind, ensures_setLogger]
  refine (ask_quiet hP .isEventReportingOn trivial h.holds).mono fun isOn s₁ ⟨h₁, hl₁, ht₁⟩ => ?_
  have hrest₁ : AtRest view throughout
      { s₁ with logger := { s₁.logger with reportTurnedDown := !isOn } } := by
    refine h.congr h₁ ?_ ht₁
    rw [hl₁]
    exact ⟨rfl, rfl, rfl, rfl⟩
  refine Ensures.ite (fun _ => ?_) (fun _ => ⟨hrest₁, fun hgo => by cases hgo⟩)
  simp only [ensures_bind, ensures_logger, ensures_pure]
  refine (holdPendingReport_spec hP hrest₁ (by rw [hl₁]; exact hfree)).mono fun _ s₂ hrest₂ => ?_
  refine (dealWithHeldRecord_spec hP hrest₂.toSlotted).mono fun dealt s₃ ⟨hrest₃, hfree₃⟩ => ?_
  refine ⟨hrest₃, fun hgo => ?_⟩
  rw [hfree₃]
  simp_all

theorem walk_spec {slots : List (Fin PendingEvents.kindCount)} (h : AtRest view throughout s)
    (hfree : s.logger.holdsRecord = false) :
    Ensures (walk P slots) (fun _ s' => AtRest view throughout s') s := by
  induction slots generalizing s with
  | nil => exact h
  | cons index rest ih =>
    unfold walk
    simp only [ensures_bind]
    refine (reportIfPending_spec hP h hfree).mono fun goesOn s₁ ⟨h₁, hfree₁⟩ => ?_
    exact Ensures.ite (fun hgo => ih h₁ (hfree₁ hgo)) (fun _ => h₁)

theorem reportPendingEvents_spec (h : AtRest view throughout s)
    (hfree : s.logger.holdsRecord = false) :
    Ensures (reportPendingEvents P) (fun free s' => AtRest view throughout s' ∧
      s'.logger.holdsRecord = !free) s := by
  unfold reportPendingEvents
  simp only [ensures_bind, ensures_logger]
  refine Ensures.ite (fun _ => ?_) (fun _ => ⟨h, (Bool.not_not _).symm⟩)
  simp only [ensures_bind, ensures_logger, ensures_pure]
  exact (walk_spec hP h hfree).mono fun _ s₁ h₁ => ⟨h₁, (Bool.not_not _).symm⟩

/-! ## The pass -/

/-- The loop takes a record only into a free slot. The induction is on the turns left. -/
theorem drainLoop_spec {drained dealtWith : Bool} {fuel : Nat} (h : AtRest view throughout s)
    (hfree : dealtWith = true → s.logger.holdsRecord = false) :
    Ensures (drainLoop P drained dealtWith fuel) (fun _ s' => AtRest view throughout s') s := by
  induction fuel generalizing s drained dealtWith with
  | zero =>
    unfold drainLoop
    simp only [ensures_bind, ensures_logger]
    exact Ensures.ite (fun _ => h) (fun _ => h)
  | succ fuel ih =>
    unfold drainLoop
    simp only [ensures_bind, ensures_logger]
    refine Ensures.ite (fun hgo => ?_) (fun _ => h)
    simp only [ensures_bind]
    have hnone : s.logger.holdsRecord = false := hfree (by simp_all)
    refine (holdNextRecord_spec hP h hnone).mono fun took s₁ ⟨h₁, htook⟩ => ?_
    refine Ensures.ite (fun _ => ?_)
      (fun hempty => ⟨h₁, fun hheld => absurd (htook.symm.trans hheld) hempty⟩)
    simp only [ensures_bind]
    refine (dealWithHeldRecord_spec hP h₁).mono fun dealt s₂ ⟨h₂, hfree₂⟩ => ih h₂ fun hdealt => ?_
    rw [hfree₂, hdealt]
    rfl

theorem drainBufferIntoStore_spec {fuel : Nat} (h : AtRest view throughout s) :
    Ensures (drainBufferIntoStore P fuel) (fun _ s' => AtRest view throughout s') s := by
  unfold drainBufferIntoStore
  simp only [ensures_bind, ensures_logger]
  refine (applyPolicyToHeldRecordIfBufferFull_spec hP h).mono fun _ s₁ h₁ => ?_
  have hdeal : Ensures (if s₁.logger.halted then pure false else dealWithHeldRecord P)
      (fun dealt s' => AtRest view throughout s' ∧ (dealt = true → s'.logger.holdsRecord = false))
      s₁ := by
    refine Ensures.ite (fun _ => ⟨h₁, fun hdealt => by cases hdealt⟩) (fun _ => ?_)
    refine (dealWithHeldRecord_spec hP h₁.toSlotted).mono fun dealt s₂ ⟨h₂, hfree⟩ =>
      ⟨h₂, fun hdealt => ?_⟩
    rw [hfree, hdealt]
    rfl
  refine hdeal.mono fun dealt s₂ ⟨h₂, hfree⟩ => ?_
  have hreport : Ensures
      (if (dealt && !s₂.logger.halted) = true then reportPendingEvents P else pure dealt)
      (fun dealt s' => AtRest view throughout s' ∧ (dealt = true → s'.logger.holdsRecord = false))
      s₂ := by
    refine Ensures.ite (fun hgo => ?_) (fun _ => ⟨h₂, hfree⟩)
    have hslot := hfree (by simp_all)
    refine (reportPendingEvents_spec hP h₂ hslot).mono fun free s₃ ⟨h₃, hfree₃⟩ =>
      ⟨h₃, fun hf => ?_⟩
    rw [hfree₃, hf]
    rfl
  exact hreport.mono fun dealt s₃ ⟨h₃, hfree₃⟩ => drainLoop_spec hP h₃ hfree₃

/-- A quiet call at a point where the slot holds what the logger says. -/
theorem ask_atRest (request : Request Item) (hquiet : Accounted.quiet request)
    (h : AtRest view throughout s) :
    Ensures (ask P request) (fun _ s' => AtRest view throughout s' ∧ s'.logger = s.logger) s :=
  (ask_quiet hP request hquiet h.holds).mono
    fun _ _ ⟨h', hl, ht⟩ => ⟨h.congr h' (.of_eq hl) ht, hl⟩

theorem takeNextFromStore_spec (h : AtRest view throughout s) :
    Ensures (takeNextFromStore P) (fun took s' => AtRest view throughout s' ∧
      (took = true → s'.logger.holdsRecord = false ∧
        Conserved.Staged (view s'.env) s'.logger.record ∧
        (throughout = true → s'.logger.record.arrival = none) ∧
        ∃ earlier maxSize, s'.trace = earlier ++
          [.call (.storeReadNextUnsent maxSize) (some s'.logger.record)])) s := by
  unfold takeNextFromStore
  simp only [ensures_bind, ensures_logger]
  refine Ensures.ite (fun _ => ⟨h, fun htook => by cases htook⟩) (fun hheld => ?_)
  have hfree : s.logger.holdsRecord = false := Bool.eq_false_iff.2 hheld
  have hholds := h.free hfree
  simp only [ensures_bind, ensures_logger, ensures_setLogger, ensures_pure]
  refine (ask_spec hP (.storeReadNextUnsent _)).mono fun next s₁ ⟨hstep, hl₁, htrace₁⟩ => ?_
  obtain ⟨h₁, hstaged⟩ := Accounted.storeReadNextUnsent hholds hstep
  rw [← htrace₁] at h₁
  refine ⟨AtRest.of_free (by rw [hl₁]; exact hfree) (by rw [hl₁]; exact h₁), fun htook => ?_⟩
  obtain ⟨r, rfl⟩ := Option.isSome_iff_exists.1 htook
  obtain ⟨hstaged, hforeign⟩ := hstaged r rfl
  exact ⟨by rw [hl₁]; exact hfree, hstaged, hforeign, s.trace, _, htrace₁⟩

/-- A record sent from the store is marked before anything else is done. -/
theorem sendOneFromStore_spec (h : AtRest view throughout s) :
    Ensures (sendOneFromStore P) (fun _ s' => AtRest view throughout s') s := by
  unfold sendOneFromStore
  simp only [ensures_bind]
  refine (takeNextFromStore_spec hP h).mono fun took s₁ ⟨h₁, htaken⟩ => ?_
  refine Ensures.ite (fun htook => ?_) (fun _ => ?_)
  · obtain ⟨hfree, hstaged, hforeign, earlier, maxSize, htrace₁⟩ := htaken htook
    have hholds := h₁.free hfree
    simp only [ensures_bind, ensures_logger]
    refine (ask_spec hP (.senderSend _)).mono fun accepted s₂ ⟨hstep, hl₂, htrace₂⟩ => ?_
    have h₂ := Accounted.sendStaged hholds hstaged hforeign
      (fun _ => .inl ⟨earlier, maxSize, htrace₁⟩) hstep
    rw [← htrace₂] at h₂
    -- The slot is free before and after: what was staged in it stays the store's.
    have hrest : ∀ s₃ : State ε Item, s₃.logger = s₂.logger →
        Holds view throughout [] s₁.logger.heldRecordLossReported s₃ →
        AtRest view throughout s₃ := by
      intro s₃ hl₃ h₃
      exact AtRest.of_free (by rw [hl₃, hl₂, hfree]) (by rw [hl₃, hl₂]; exact h₃)
    cases accepted with
    | false => exact hrest s₂ rfl h₂
    | true =>
      refine Ensures.ite (fun _ => ?_) (fun hne => absurd rfl hne)
      simp only [ensures_bind, ensures_pure]
      refine (ask_spec hP .storeMarkSent).mono fun _ s₃ ⟨hstep₃, hl₃, htrace₃⟩ => hrest s₃ hl₃ ?_
      have hallowed : Allowed s₂.trace (.call .storeMarkSent ()) := by
        refine ⟨earlier, maxSize, s₁.logger.record, ?_⟩
        rw [htrace₂, htrace₁, List.append_assoc]
        rfl
      unfold Holds
      rw [htrace₃]
      exact Accounted.storeMarkSent h₂ hallowed hstep₃
  · exact (ask_atRest hP .storeHasUnsent trivial h₁).mono fun _ s₂ h₂ => h₂.1

theorem statusOf_spec {storeBlocked drained : Bool} (h : AtRest view throughout s) :
    Ensures (statusOf P storeBlocked drained) (fun _ s' => AtRest view throughout s') s := by
  unfold statusOf
  simp only [ensures_bind, ensures_logger]
  refine Ensures.ite (fun _ => h) (fun _ => ?_)
  simp only [ensures_bind, ensures_logger]
  refine Ensures.ite (fun _ => h) (fun _ => Ensures.ite (fun _ => h) (fun _ => ?_))
  simp only [isReportWaiting, ensures_bind, ensures_get, ensures_pure]
  refine (ask_atRest hP .storeHasUnsent trivial h).mono fun unsent s₁ ⟨h₁, _⟩ => ?_
  exact Ensures.ite (fun _ => h₁) (fun _ => h₁)

theorem processMessages_spec {fuel : Nat} (h : AtRest view throughout s) :
    Ensures (processMessages P fuel) (fun _ s' => AtRest view throughout s') s := by
  unfold processMessages
  simp only [ensures_bind, ensures_setLogger]
  have hreset : AtRest view throughout
      { s with logger := { s.logger with reportTurnedDown := false } } :=
    h.congr h.holds ⟨rfl, rfl, rfl, rfl⟩ id
  refine (drainBufferIntoStore_spec hP hreset).mono fun drained s₁ h₁ => ?_
  cases drained with
  | none => exact h₁
  | some drained =>
    simp only [ensures_bind, ensures_logger, ensures_pure]
    have hsend : Ensures (if s₁.logger.halted then pure false else sendOneFromStore P)
        (fun _ s' => AtRest view throughout s') s₁ :=
      Ensures.ite (fun _ => h₁) (fun _ => sendOneFromStore_spec hP h₁)
    exact hsend.mono fun _ s₂ h₂ => statusOf_spec hP h₂

/-- A pass keeps the account, however many records it drains. -/
theorem service_spec {fuel : Nat} (h : AtRest view throughout s) :
    Ensures (service P fuel) (fun _ s' => AtRest view throughout s') s := by
  unfold service
  simp only [ensures_bind, ensures_logger]
  refine (resumeIfPolicyChanged_spec hP h).mono fun _ s₁ h₁ => ?_
  exact Ensures.ite (fun _ => h₁) (fun _ => processMessages_spec hP h₁)

end Calls

end SolidSyslog.Service
