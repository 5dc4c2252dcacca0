import SolidSyslog.Lib.Coupling
import SolidSyslog.Service.Rules

/-!
# A pass does not look inside a record

Two systems whose records stand for one another, and which answer every call alike, see the same
pass: `service_coupled`. So a pass over plain bytes may be followed on records that also carry an
account of where they came from.
-/

namespace SolidSyslog.Service

open Lib

variable {ε ε' ρ ρ' : Type}

/-! ## Records that stand for records -/

section Map

variable (f : ρ' → ρ)

/-- The call, with `f` of its record. -/
@[reducible] def Request.map : Request ρ' → Request ρ
  | .bufferRead maxSize => .bufferRead maxSize
  | .bufferIsFull => .bufferIsFull
  | .storeWrite record => .storeWrite (f record)
  | .storeReadNextUnsent maxSize => .storeReadNextUnsent maxSize
  | .storeMarkSent => .storeMarkSent
  | .storeHasUnsent => .storeHasUnsent
  | .storeIsTransient => .storeIsTransient
  | .senderSend record => .senderSend (f record)
  | .getDiscardPolicy => .getDiscardPolicy
  | .isEventReportingOn => .isEventReportingOn
  | .onHalt => .onHalt
  | .errorHandler event => .errorHandler event
  | .formatReport capacity event => .formatReport capacity event

/-- Its answer, with `f` of a record there. -/
def Request.mapAnswer : (request : Request ρ') → request.Answer → (request.map f).Answer
  | .bufferRead _, answer => Option.map f answer
  | .bufferIsFull, answer => answer
  | .storeWrite _, answer => answer
  | .storeReadNextUnsent _, answer => Option.map f answer
  | .storeMarkSent, answer => answer
  | .storeHasUnsent, answer => answer
  | .storeIsTransient, answer => answer
  | .senderSend _, answer => answer
  | .getDiscardPolicy, answer => answer
  | .isEventReportingOn, answer => answer
  | .onHalt, answer => answer
  | .errorHandler _, answer => answer
  | .formatReport _ _, answer => f answer

def Entry.map : Entry ρ' → Entry ρ
  | .call request answer => .call (request.map f) (request.mapAnswer f answer)
  | .dropped record => .dropped (f record)

def Logger.map (l : Logger ρ') : Logger ρ :=
  { hasStorage := l.hasStorage
    recordCapacity := l.recordCapacity
    record := f l.record
    holdsRecord := l.holdsRecord
    heldRecordIsReport := l.heldRecordIsReport
    heldRecordLossReported := l.heldRecordLossReported
    reportTurnedDown := l.reportTurnedDown
    halted := l.halted }

end Map

/-- What a pass asks for: a record of the slot's capacity, or a record that fits the slot. -/
def Request.Asks (capacity : Nat) (Fits : ρ → Prop) : Request ρ → Prop
  | .bufferRead maxSize => maxSize = capacity
  | .storeReadNextUnsent maxSize => maxSize = capacity
  | .formatReport maxSize _ => maxSize = capacity
  | .storeWrite record => Fits record
  | .senderSend record => Fits record
  | _ => True

/-- A record in an answer fits the slot. -/
def Request.AnswerFits (Fits : ρ → Prop) : (request : Request ρ) → request.Answer → Prop
  | .bufferRead _, answer => ∀ record ∈ (answer : Option ρ), Fits record
  | .storeReadNextUnsent _, answer => ∀ record ∈ (answer : Option ρ), Fits record
  | .formatReport _ _, record => Fits record
  | _, _ => True

/-- Two systems answer alike, to the records in the slot's capacity, and stay in step. -/
structure AnswersAlike (P : Parts ε ρ) (P' : Parts ε' ρ') (f : ρ' → ρ) (capacity : Nat)
    (Fits : ρ' → Prop) (E : ε → ε' → Prop) : Prop where
  answer : ∀ request env env' table, request.Asks capacity Fits → E env env' →
    (P.answer (request.map f) env table).1 =
        request.mapAnswer f (P'.answer request env' table).1 ∧
      request.AnswerFits Fits (P'.answer request env' table).1 ∧
      E (P.answer (request.map f) env table).2.1 (P'.answer request env' table).2.1 ∧
      (P.answer (request.map f) env table).2.2 = (P'.answer request env' table).2.2

/-- The two loggers and the calls so far say the same. -/
structure InStep (f : ρ' → ρ) (capacity : Nat) (Fits : ρ' → Prop) (E : ε → ε' → Prop)
    (s : State ε ρ) (t : State ε' ρ') : Prop where
  logger : s.logger = t.logger.map f
  env : E s.env t.env
  pending : s.pending = t.pending
  trace : s.trace = t.trace.map (Entry.map f)
  capacity : t.logger.recordCapacity = capacity
  fits : Fits t.logger.record

/-- The loggers of two states in step. -/
structure LoggersAlike (f : ρ' → ρ) (capacity : Nat) (Fits : ρ' → Prop) (l : Logger ρ)
    (l' : Logger ρ') : Prop where
  eq : l = l'.map f
  capacity : l'.recordCapacity = capacity
  fits : Fits l'.record

variable {P : Parts ε ρ} {P' : Parts ε' ρ'} {f : ρ' → ρ} {capacity : Nat} {Fits : ρ' → Prop}
  {E : ε → ε' → Prop}

/-- What every answer of the one system keeps, the two keep in step. -/
theorem AnswersAlike.also {I : ε → Prop} (hP : AnswersAlike P P' f capacity Fits E)
    (hI : ∀ request env table, I env → I (P.answer request env table).2.1) :
    AnswersAlike P P' f capacity Fits (fun env env' => E env env' ∧ I env) where
  answer request env env' table hasks h := by
    obtain ⟨hanswer, hfits, henv, hpending⟩ := hP.answer request env env' table hasks h.1
    exact ⟨hanswer, hfits, ⟨henv, hI _ env table h.2⟩, hpending⟩

theorem InStep.also {I : ε → Prop} {s : State ε ρ} {t : State ε' ρ'}
    (h : InStep f capacity Fits E s t) (hI : I s.env) :
    InStep f capacity Fits (fun env env' => E env env' ∧ I env) s t :=
  ⟨h.logger, ⟨h.env, hI⟩, h.pending, h.trace, h.capacity, h.fits⟩

/-! ## The steps of a pass -/

theorem logger_coupled :
    Coupled (InStep f capacity Fits E) logger logger (LoggersAlike f capacity Fits) :=
  fun _ _ h => ⟨⟨h.logger, h.capacity, h.fits⟩, h⟩

/-- A change that keeps the record. -/
theorem setLogger_coupled {change : Logger ρ → Logger ρ} {change' : Logger ρ' → Logger ρ'}
    (hchange : ∀ l, change (l.map f) = (change' l).map f)
    (hcapacity : ∀ l, (change' l).recordCapacity = l.recordCapacity)
    (hrecord : ∀ l, Fits l.record → Fits (change' l).record) :
    Coupled (InStep f capacity Fits E) (setLogger change) (setLogger change')
      (fun _ _ => True) := by
  refine Coupled.modify fun s t h => ?_
  refine ⟨?_, h.env, h.pending, h.trace, (hcapacity _).trans h.capacity, hrecord _ h.fits⟩
  rw [h.logger]
  exact hchange t.logger

theorem ask_coupled (hP : AnswersAlike P P' f capacity Fits E) (request : Request ρ')
    (hasks : request.Asks capacity Fits) :
    Coupled (InStep f capacity Fits E) (ask P (request.map f)) (ask P' request)
      (fun a b => a = request.mapAnswer f b ∧ request.AnswerFits Fits b) := by
  intro s t h
  obtain ⟨hanswer, hfits, henv, hpending⟩ := hP.answer request s.env t.env s.pending hasks h.env
  have hasked : (ask P' request t).1 = (P'.answer request t.env s.pending).1 := by
    rw [h.pending]
    rfl
  have hstate : (ask P' request t).2 = { t with
      env := (P'.answer request t.env s.pending).2.1
      pending := (P'.answer request t.env s.pending).2.2
      trace := t.trace ++ [.call request (P'.answer request t.env s.pending).1] } := by
    rw [h.pending]
    rfl
  rw [hasked, hstate]
  refine ⟨⟨hanswer, hfits⟩, h.logger, henv, hpending, ?_, h.capacity, h.fits⟩
  change s.trace ++ [.call (request.map f) (P.answer (request.map f) s.env s.pending).1] = _
  rw [hanswer, h.trace, List.map_append]
  rfl

/-- A call whose answer is no record. -/
theorem ask_coupled_eq (hP : AnswersAlike P P' f capacity Fits E) (request : Request ρ')
    (hasks : request.Asks capacity Fits) :
    Coupled (InStep f capacity Fits E) (ask P (request.map f)) (ask P' request)
      (fun a b => a = request.mapAnswer f b) :=
  (ask_coupled hP request hasks).mono fun _ _ h => h.1

theorem report_coupled (hP : AnswersAlike P P' f capacity Fits E) (severity : Severity)
    (category : Category) (error : LoggerError) :
    Coupled (InStep f capacity Fits E) (report P severity category error)
      (report P' severity category error) (fun _ _ => True) := by
  refine (ask_coupled hP (.errorHandler _) trivial).bind fun _ _ _ => ?_
  refine Coupled.modify fun s t h => ?_
  exact ⟨h.logger, h.env, by rw [h.pending], h.trace, h.capacity, h.fits⟩

/-! ## Halting -/

theorem policyHalts_coupled (hP : AnswersAlike P P' f capacity Fits E) :
    Coupled (InStep f capacity Fits E) (policyHalts P) (policyHalts P') Eq := by
  refine (ask_coupled_eq hP .getDiscardPolicy trivial).bind ?_
  rintro policy _ rfl
  exact .pure rfl

theorem halt_coupled (hP : AnswersAlike P P' f capacity Fits E) (haltedAt : LoggerError) :
    Coupled (InStep f capacity Fits E) (halt P haltedAt) (halt P' haltedAt) (fun _ _ => True) := by
  refine Coupled.bind (setLogger_coupled (fun _ => rfl) (fun _ => rfl) fun _ h => h) fun _ _ _ => ?_
  refine (report_coupled hP _ _ _).bind fun _ _ _ => ?_
  exact (ask_coupled hP .onHalt trivial).bind fun _ _ _ => .pure trivial

theorem haltIfPolicyHalts_coupled (hP : AnswersAlike P P' f capacity Fits E) :
    Coupled (InStep f capacity Fits E) (haltIfPolicyHalts P) (haltIfPolicyHalts P')
      (fun _ _ => True) := by
  refine (policyHalts_coupled hP).bind ?_
  rintro halts _ rfl
  exact .ite Iff.rfl (halt_coupled hP _) (.pure trivial)

theorem resumeIfPolicyChanged_coupled (hP : AnswersAlike P P' f capacity Fits E) :
    Coupled (InStep f capacity Fits E) (resumeIfPolicyChanged P) (resumeIfPolicyChanged P')
      (fun _ _ => True) := by
  refine logger_coupled.bind ?_
  rintro l l' ⟨rfl, -, -⟩
  refine .ite Iff.rfl ?_ (.pure trivial)
  refine (policyHalts_coupled hP).bind ?_
  rintro halts _ rfl
  exact setLogger_coupled (fun _ => rfl) (fun _ => rfl) fun _ h => h

/-! ## The held record -/

theorem dropHeldRecord_coupled (hP : AnswersAlike P P' f capacity Fits E) :
    Coupled (InStep f capacity Fits E) (dropHeldRecord P) (dropHeldRecord P')
      (fun _ _ => True) := by
  refine logger_coupled.bind ?_
  rintro l l' ⟨rfl, -, -⟩
  refine (Coupled.modify fun s t h => ?_).bind fun _ _ _ => ?_
  · refine ⟨h.logger, h.env, h.pending, ?_, h.capacity, h.fits⟩
    rw [h.trace, h.logger, List.map_append]
    rfl
  · refine Coupled.bind (setLogger_coupled (fun _ => rfl) (fun _ => rfl) fun _ h => h)
      fun _ _ _ => ?_
    exact .ite Iff.rfl (report_coupled hP _ _ _) (.pure trivial)

theorem applyPolicyToHeldRecordIfBufferFull_coupled (hP : AnswersAlike P P' f capacity Fits E) :
    Coupled (InStep f capacity Fits E) (applyPolicyToHeldRecordIfBufferFull P)
      (applyPolicyToHeldRecordIfBufferFull P') (fun _ _ => True) := by
  refine logger_coupled.bind ?_
  rintro l l' ⟨rfl, -, -⟩
  refine .ite Iff.rfl ?_ (.pure trivial)
  refine (ask_coupled_eq hP .bufferIsFull trivial).bind ?_
  rintro isFull _ rfl
  refine .ite Iff.rfl ?_ (.pure trivial)
  refine (ask_coupled_eq hP .getDiscardPolicy trivial).bind ?_
  rintro policy _ rfl
  refine logger_coupled.bind ?_
  rintro l l' ⟨rfl, -, -⟩
  exact .ite Iff.rfl (dropHeldRecord_coupled hP)
    (.ite Iff.rfl (halt_coupled hP _) (.pure trivial))

theorem holdNextRecord_coupled (hP : AnswersAlike P P' f capacity Fits E) :
    Coupled (InStep f capacity Fits E) (holdNextRecord P) (holdNextRecord P') Eq := by
  refine logger_coupled.bind ?_
  rintro l l' ⟨rfl, hcapacity, -⟩
  refine (ask_coupled hP (.bufferRead l'.recordCapacity) hcapacity).bind ?_
  rintro next next' ⟨rfl, hfits⟩
  refine Coupled.bind (setLogger_coupled ?_ (fun _ => rfl) ?_) fun _ _ _ => .pure ?_
  · intro l
    cases next' <;> rfl
  · intro l hl
    cases next' with
    | none => exact hl
    | some record => exact hfits record rfl
  · cases next' <;> rfl

theorem storeDealsWithHeldRecord_coupled (hP : AnswersAlike P P' f capacity Fits E) :
    Coupled (InStep f capacity Fits E) (storeDealsWithHeldRecord P) (storeDealsWithHeldRecord P')
      Eq := by
  refine logger_coupled.bind ?_
  rintro l l' ⟨rfl, -, hfits⟩
  refine (ask_coupled_eq hP (.storeWrite l'.record) hfits).bind ?_
  rintro result _ rfl
  have hrefused : Coupled (InStep f capacity Fits E)
      (if result == .notRetained then do
        let isTransient : Bool ← ask P .storeIsTransient
        return !isTransient
      else return false)
      (if result == .notRetained then do
        let isTransient : Bool ← ask P' .storeIsTransient
        return !isTransient
      else return false) Eq := by
    refine .ite Iff.rfl ?_ (.pure rfl)
    refine (ask_coupled_eq hP .storeIsTransient trivial).bind ?_
    rintro isTransient _ rfl
    exact .pure rfl
  refine hrefused.bind ?_
  rintro refused _ rfl
  have hanswer : Coupled (InStep f capacity Fits E)
      (do return result == .kept || ((refused || result == .lost) &&
        !(← logger).heldRecordIsReport) : Action ε ρ Bool)
      (do return result == .kept || ((refused || result == .lost) &&
        !(← logger).heldRecordIsReport) : Action ε' ρ' Bool) Eq := by
    refine logger_coupled.bind ?_
    rintro l l' ⟨rfl, -, -⟩
    exact .pure rfl
  exact .ite Iff.rfl ((haltIfPolicyHalts_coupled hP).bind fun _ _ _ => hanswer) hanswer

theorem storeOrSenderTakesHeldRecord_coupled (hP : AnswersAlike P P' f capacity Fits E) :
    Coupled (InStep f capacity Fits E) (storeOrSenderTakesHeldRecord P)
      (storeOrSenderTakesHeldRecord P') Eq := by
  refine (storeDealsWithHeldRecord_coupled hP).bind ?_
  rintro dealtWith _ rfl
  refine .ite Iff.rfl (.pure rfl) ?_
  refine logger_coupled.bind ?_
  rintro l l' ⟨rfl, -, -⟩
  refine .ite Iff.rfl (.pure rfl) ?_
  refine logger_coupled.bind ?_
  rintro l l' ⟨rfl, -, hfits⟩
  exact ask_coupled_eq hP (.senderSend l'.record) hfits

/-- Whether the slot is free. -/
theorem free_coupled : Coupled (InStep f capacity Fits E)
    (do return !(← logger).holdsRecord : Action ε ρ Bool)
    (do return !(← logger).holdsRecord : Action ε' ρ' Bool) Eq := by
  refine logger_coupled.bind ?_
  rintro l l' ⟨rfl, -, -⟩
  exact .pure rfl

theorem dealWithHeldRecord_coupled (hP : AnswersAlike P P' f capacity Fits E) :
    Coupled (InStep f capacity Fits E) (dealWithHeldRecord P) (dealWithHeldRecord P') Eq := by
  refine logger_coupled.bind ?_
  rintro l l' ⟨rfl, -, -⟩
  refine .ite Iff.rfl ?_ free_coupled
  refine (storeOrSenderTakesHeldRecord_coupled hP).bind ?_
  rintro taken _ rfl
  refine Coupled.bind (setLogger_coupled (fun _ => rfl) (fun _ => rfl) fun _ h => h) fun _ _ _ => ?_
  refine Coupled.bind (setLogger_coupled (fun _ => rfl) (fun _ => rfl) fun _ h => h) fun _ _ _ => ?_
  exact free_coupled

/-! ## Reports -/

theorem holdPendingReport_coupled (hP : AnswersAlike P P' f capacity Fits E)
    (index : Fin PendingEvents.kindCount) :
    Coupled (InStep f capacity Fits E) (holdPendingReport P index) (holdPendingReport P' index)
      (fun _ _ => True) := by
  refine Coupled.get.bind fun s t h => ?_
  rw [h.pending]
  refine Coupled.bind (Q := fun _ _ => True) (.modify fun s t h => ?_) fun _ _ _ => ?_
  · exact ⟨h.logger, h.env, rfl, h.trace, h.capacity, h.fits⟩
  refine Coupled.bind (setLogger_coupled (fun _ => rfl) (fun _ => rfl) fun _ h => h) fun _ _ _ => ?_
  refine logger_coupled.bind ?_
  rintro l l' ⟨rfl, hcapacity, -⟩
  refine (ask_coupled hP (.formatReport l'.recordCapacity _) hcapacity).bind ?_
  rintro record record' ⟨rfl, hfits⟩
  exact setLogger_coupled (fun _ => rfl) (fun _ => rfl) fun _ _ => hfits

theorem reportIfPending_coupled (hP : AnswersAlike P P' f capacity Fits E)
    (index : Fin PendingEvents.kindCount) :
    Coupled (InStep f capacity Fits E) (reportIfPending P index) (reportIfPending P' index) Eq := by
  refine Coupled.get.bind fun s t h => ?_
  rw [h.pending]
  refine .ite Iff.rfl ?_ (.pure rfl)
  refine (ask_coupled_eq hP .isEventReportingOn trivial).bind ?_
  rintro isOn _ rfl
  refine Coupled.bind (setLogger_coupled (fun _ => rfl) (fun _ => rfl) fun _ h => h) fun _ _ _ => ?_
  refine .ite Iff.rfl ?_ (.pure rfl)
  refine (holdPendingReport_coupled hP index).bind fun _ _ _ => ?_
  refine (dealWithHeldRecord_coupled hP).bind ?_
  rintro dealtWith _ rfl
  refine logger_coupled.bind ?_
  rintro l l' ⟨rfl, -, -⟩
  exact .pure rfl

theorem walk_coupled (hP : AnswersAlike P P' f capacity Fits E)
    (indices : List (Fin PendingEvents.kindCount)) :
    Coupled (InStep f capacity Fits E) (walk P indices) (walk P' indices) (fun _ _ => True) := by
  induction indices with
  | nil => exact .pure trivial
  | cons index rest ih =>
    refine (reportIfPending_coupled hP index).bind ?_
    rintro goesOn _ rfl
    exact .ite Iff.rfl ih (.pure trivial)

theorem reportPendingEvents_coupled (hP : AnswersAlike P P' f capacity Fits E) :
    Coupled (InStep f capacity Fits E) (reportPendingEvents P) (reportPendingEvents P') Eq := by
  refine logger_coupled.bind ?_
  rintro l l' ⟨rfl, -, -⟩
  exact .ite Iff.rfl ((walk_coupled hP _).bind fun _ _ _ => free_coupled) free_coupled

/-! ## The pass -/

theorem drainLoop_coupled (hP : AnswersAlike P P' f capacity Fits E) (drained dealtWith : Bool)
    (fuel : Nat) :
    Coupled (InStep f capacity Fits E) (drainLoop P drained dealtWith fuel)
      (drainLoop P' drained dealtWith fuel) Eq := by
  induction fuel generalizing drained dealtWith with
  | zero =>
    refine logger_coupled.bind ?_
    rintro l l' ⟨rfl, -, -⟩
    exact .ite Iff.rfl (.pure rfl) (.pure rfl)
  | succ fuel ih =>
    refine logger_coupled.bind ?_
    rintro l l' ⟨rfl, -, -⟩
    refine .ite Iff.rfl ?_ (.pure rfl)
    refine (holdNextRecord_coupled hP).bind ?_
    rintro held _ rfl
    refine .ite Iff.rfl ?_ (.pure rfl)
    refine (dealWithHeldRecord_coupled hP).bind ?_
    rintro dealtWith _ rfl
    exact ih true dealtWith

theorem drainBufferIntoStore_coupled (hP : AnswersAlike P P' f capacity Fits E) (fuel : Nat) :
    Coupled (InStep f capacity Fits E) (drainBufferIntoStore P fuel) (drainBufferIntoStore P' fuel)
      Eq := by
  refine (applyPolicyToHeldRecordIfBufferFull_coupled hP).bind fun _ _ _ => ?_
  refine logger_coupled.bind ?_
  rintro l l' ⟨rfl, -, -⟩
  refine Coupled.bind (Q := Eq) (.ite Iff.rfl (.pure rfl) (dealWithHeldRecord_coupled hP)) ?_
  rintro dealtWith _ rfl
  refine logger_coupled.bind ?_
  rintro l l' ⟨rfl, -, -⟩
  refine Coupled.bind (Q := Eq) (.ite Iff.rfl (reportPendingEvents_coupled hP) (.pure rfl)) ?_
  rintro dealtWith _ rfl
  exact drainLoop_coupled hP false dealtWith fuel

theorem takeNextFromStore_coupled (hP : AnswersAlike P P' f capacity Fits E) :
    Coupled (InStep f capacity Fits E) (takeNextFromStore P) (takeNextFromStore P') Eq := by
  refine logger_coupled.bind ?_
  rintro l l' ⟨rfl, -, -⟩
  refine .ite Iff.rfl (.pure rfl) ?_
  refine logger_coupled.bind ?_
  rintro l l' ⟨rfl, hcapacity, -⟩
  refine (ask_coupled hP (.storeReadNextUnsent l'.recordCapacity) hcapacity).bind ?_
  rintro next next' ⟨rfl, hfits⟩
  refine Coupled.bind (setLogger_coupled ?_ (fun _ => rfl) ?_) fun _ _ _ => .pure ?_
  · intro l
    cases next' <;> rfl
  · intro l hl
    cases next' with
    | none => exact hl
    | some record => exact hfits record rfl
  · cases next' <;> rfl

theorem sendOneFromStore_coupled (hP : AnswersAlike P P' f capacity Fits E) :
    Coupled (InStep f capacity Fits E) (sendOneFromStore P) (sendOneFromStore P') Eq := by
  refine (takeNextFromStore_coupled hP).bind ?_
  rintro taken _ rfl
  refine .ite Iff.rfl ?_ (ask_coupled_eq hP .storeHasUnsent trivial)
  refine logger_coupled.bind ?_
  rintro l l' ⟨rfl, -, hfits⟩
  refine (ask_coupled_eq hP (.senderSend l'.record) hfits).bind ?_
  rintro accepted _ rfl
  refine .ite Iff.rfl ?_ (.pure rfl)
  exact (ask_coupled hP .storeMarkSent trivial).bind fun _ _ _ => .pure rfl

theorem isReportWaiting_coupled :
    Coupled (InStep f capacity Fits E) (isReportWaiting : Action ε ρ Bool)
      (isReportWaiting : Action ε' ρ' Bool) Eq := by
  refine Coupled.get.bind fun s t h => .pure ?_
  rw [h.logger, h.pending]
  rfl

theorem statusOf_coupled (hP : AnswersAlike P P' f capacity Fits E) (storeBlocked drained : Bool) :
    Coupled (InStep f capacity Fits E) (statusOf P storeBlocked drained)
      (statusOf P' storeBlocked drained) Eq := by
  refine logger_coupled.bind ?_
  rintro l l' ⟨rfl, -, -⟩
  refine .ite Iff.rfl (.pure rfl) ?_
  refine logger_coupled.bind ?_
  rintro l l' ⟨rfl, -, -⟩
  refine .ite Iff.rfl (.pure rfl) (.ite Iff.rfl (.pure rfl) ?_)
  refine (ask_coupled_eq hP .storeHasUnsent trivial).bind ?_
  rintro hasUnsent _ rfl
  refine isReportWaiting_coupled.bind ?_
  rintro waiting _ rfl
  exact .ite Iff.rfl (.pure rfl) (.pure rfl)

theorem processMessages_coupled (hP : AnswersAlike P P' f capacity Fits E) (fuel : Nat) :
    Coupled (InStep f capacity Fits E) (processMessages P fuel) (processMessages P' fuel) Eq := by
  refine Coupled.bind (setLogger_coupled (fun _ => rfl) (fun _ => rfl) fun _ h => h) fun _ _ _ => ?_
  refine (drainBufferIntoStore_coupled hP fuel).bind ?_
  rintro drained _ rfl
  cases drained with
  | none => exact .pure rfl
  | some drained =>
    refine logger_coupled.bind ?_
    rintro l l' ⟨rfl, -, -⟩
    refine Coupled.bind (Q := Eq) (.ite Iff.rfl (.pure rfl) (sendOneFromStore_coupled hP)) ?_
    rintro storeBlocked _ rfl
    refine (statusOf_coupled hP storeBlocked drained).bind ?_
    rintro status _ rfl
    exact .pure rfl

/-- **A pass does not look inside a record.** Over systems that answer alike it ends with one
status, and leaves the two loggers, and what they have called, saying the same. -/
theorem service_coupled (hP : AnswersAlike P P' f capacity Fits E) (fuel : Nat) :
    Coupled (InStep f capacity Fits E) (service P fuel) (service P' fuel) Eq := by
  refine (resumeIfPolicyChanged_coupled hP).bind fun _ _ _ => ?_
  refine logger_coupled.bind ?_
  rintro l l' ⟨rfl, -, -⟩
  exact .ite Iff.rfl (.pure rfl) (processMessages_coupled hP fuel)

end SolidSyslog.Service
