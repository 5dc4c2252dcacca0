import SolidSyslog.Event
import SolidSyslog.Lib.Ensures

/-!
# The service pass

`SolidSyslog_Service` and what it calls in `SolidSyslog.c`. A pass moves records from the buffer to
the store, sends one record the store hands out, and reports events that are waiting, all through
one slot that also holds a record no store will take until the sender takes it.

The buffer, the store, the sender and the integrator's callbacks are outside the pass: each call of
one is a `Request`, and a `Parts` says what it answers and what it does to the rest of the system,
which includes raising events and, from another task, writing the buffer. The pass never looks
inside a record, so the model leaves the type of records open. Each call is noted in a trace, as is
the drop of a held record.
-/

namespace SolidSyslog.Service

open Lib

/-- `enum SolidSyslogServiceStatus`. -/
inductive ServiceStatus where
  | idle
  | ready
  | blocked
  | halted
  deriving DecidableEq, Repr

/-- The codes of `enum SolidSyslogErrors` that `Service` raises. -/
inductive LoggerError where
  | heldRecordDropped
  | haltedStoreRefused
  | haltedBufferFull
  deriving DecidableEq, Repr

/-- The value of the code in its enumeration. -/
def LoggerError.code : LoggerError → Int
  | .heldRecordDropped => 11
  | .haltedStoreRefused => 12
  | .haltedBufferFull => 13

/-! ## What a pass calls -/

variable {ε ρ : Type}

/-- A call out of the pass. -/
inductive Request (ρ : Type) where
  | bufferRead (maxSize : Nat)
  | bufferIsFull
  | storeWrite (record : ρ)
  | storeReadNextUnsent (maxSize : Nat)
  | storeMarkSent
  | storeHasUnsent
  | storeIsTransient
  | senderSend (record : ρ)
  | getDiscardPolicy
  | isEventReportingOn
  | onHalt
  | errorHandler (event : ErrorEvent)
  | formatReport (capacity : Nat) (event : ErrorEvent)

/-- What a call answers. -/
@[reducible] def Request.Answer : Request ρ → Type
  | .bufferRead _ => Option ρ
  | .bufferIsFull => Bool
  | .storeWrite _ => StoreWriteResult
  | .storeReadNextUnsent _ => Option ρ
  | .storeMarkSent => Unit
  | .storeHasUnsent => Bool
  | .storeIsTransient => Bool
  | .senderSend _ => Bool
  | .getDiscardPolicy => DiscardPolicy
  | .isEventReportingOn => Bool
  | .onHalt => Unit
  | .errorHandler _ => Unit
  | .formatReport _ _ => ρ

/-- The rest of the system: the answer to each call, and what the call leaves behind in the rest of
the system and in the table of waiting events. -/
structure Parts (ε ρ : Type) where
  answer : (request : Request ρ) → ε → PendingEvents.Table →
    request.Answer × ε × PendingEvents.Table

/-- An entry of the trace: a call with its answer, or the drop of the record in the slot. -/
inductive Entry (ρ : Type) where
  | call (request : Request ρ) (answer : request.Answer)
  | dropped (record : ρ)

/-- The fields of `struct SolidSyslog` a pass reads and writes. `record` is what the slot's bytes
and `RecordLength` make up; it means something only while the slot is in use. -/
structure Logger (ρ : Type) where
  hasStorage : Bool
  recordCapacity : Nat
  record : ρ
  holdsRecord : Bool
  heldRecordIsReport : Bool
  heldRecordLossReported : Bool
  reportTurnedDown : Bool
  halted : Bool

/-- The logger, the rest of the system, and the calls made so far. -/
structure State (ε ρ : Type) where
  logger : Logger ρ
  env : ε
  pending : PendingEvents.Table
  trace : List (Entry ρ)

/-- The logger as `SolidSyslog_Initialise` leaves it. -/
def Logger.initial (recordCapacity : Nat) (record : ρ) : Logger ρ :=
  ⟨true, recordCapacity, record, false, false, false, false, false⟩

/-- A part of a pass. -/
abbrev Action (ε ρ : Type) := StateM (State ε ρ)

/-- A change to the logger's own fields. -/
def setLogger (change : Logger ρ → Logger ρ) : Action ε ρ Unit :=
  modify fun s => { s with logger := change s.logger }

/-- The logger's own fields. -/
def logger : Action ε ρ (Logger ρ) := do
  return (← get).logger

variable (P : Parts ε ρ)

/-- A call out of the pass. -/
def ask (request : Request ρ) : Action ε ρ request.Answer :=
  modifyGet fun s =>
    let outcome := P.answer request s.env s.pending
    (outcome.1, { s with
      env := outcome.2.1
      pending := outcome.2.2
      trace := s.trace ++ [.call request outcome.1] })

/-- `SolidSyslog_Report`: the handler hears of the event first, and it then waits in the table. -/
def report (severity : Severity) (category : Category) (error : LoggerError) : Action ε ρ Unit := do
  let event : ErrorEvent := ⟨severity, category, false, "SolidSyslog", error.code, 0⟩
  let _ ← ask P (.errorHandler event)
  modify fun s => { s with pending := PendingEvents.record s.pending event }

/-! ## Halting -/

/-- `SolidSyslog_PolicyHalts`. -/
def policyHalts : Action ε ρ Bool := do
  let policy : DiscardPolicy ← ask P .getDiscardPolicy
  return policy == .halt

/-- `SolidSyslog_Halt`. -/
def halt (haltedAt : LoggerError) : Action ε ρ Unit := do
  setLogger fun l => { l with halted := true }
  report P .error .loggerHalted haltedAt
  let _ ← ask P .onHalt

/-- `SolidSyslog_HaltIfPolicyHalts`. -/
def haltIfPolicyHalts : Action ε ρ Unit := do
  if ← policyHalts P then
    halt P .haltedStoreRefused

/-- `SolidSyslog_ResumeIfPolicyChanged`. -/
def resumeIfPolicyChanged : Action ε ρ Unit := do
  if (← logger).halted then
    let halts ← policyHalts P
    setLogger fun l => { l with halted := halts }

/-! ## The held record -/

/-- `SolidSyslog_DropHeldRecord`. -/
def dropHeldRecord : Action ε ρ Unit := do
  let runStarted := !(← logger).heldRecordLossReported
  modify fun s => { s with trace := s.trace ++ [.dropped s.logger.record] }
  setLogger fun l => { l with holdsRecord := false, heldRecordLossReported := true }
  if runStarted then
    report P .warning .bufferRecordsLost .heldRecordDropped

/-- `SolidSyslog_ApplyPolicyToHeldRecordIfBufferFull`. -/
def applyPolicyToHeldRecordIfBufferFull : Action ε ρ Unit := do
  if (← logger).holdsRecord then
    let isFull : Bool ← ask P .bufferIsFull
    if isFull then
      let policy : DiscardPolicy ← ask P .getDiscardPolicy
      if policy == .oldest && !(← logger).heldRecordIsReport then
        dropHeldRecord P
      else if policy == .halt then
        halt P .haltedBufferFull

/-- `SolidSyslog_HoldNextRecord`. -/
def holdNextRecord : Action ε ρ Bool := do
  let next : Option ρ ← ask P (.bufferRead (← logger).recordCapacity)
  setLogger fun l => { l with
    record := next.getD l.record, holdsRecord := next.isSome, heldRecordIsReport := false }
  return next.isSome

/-- `SolidSyslog_StoreDealsWithHeldRecord`. -/
def storeDealsWithHeldRecord : Action ε ρ Bool := do
  let result : StoreWriteResult ← ask P (.storeWrite (← logger).record)
  let refused ← (if result == .notRetained then do
      let isTransient : Bool ← ask P .storeIsTransient
      return !isTransient
    else return false)
  let notKept := refused || result == .lost
  if refused then
    haltIfPolicyHalts P
  return result == .kept || (notKept && !(← logger).heldRecordIsReport)

/-- `SolidSyslog_StoreOrSenderTakesHeldRecord`. -/
def storeOrSenderTakesHeldRecord : Action ε ρ Bool := do
  if ← storeDealsWithHeldRecord P then
    return true
  else if (← logger).halted then
    return false
  else
    ask P (.senderSend (← logger).record)

/-- `SolidSyslog_IsBufferRecordDealtWith`. -/
def Logger.isBufferRecordDealtWith (l : Logger ρ) : Bool :=
  !l.holdsRecord && !l.heldRecordIsReport

/-- `SolidSyslog_DealWithHeldRecord`. -/
def dealWithHeldRecord : Action ε ρ Bool := do
  if (← logger).holdsRecord then
    let taken ← storeOrSenderTakesHeldRecord P
    setLogger fun l => { l with holdsRecord := !taken }
    setLogger fun l => { l with
      heldRecordLossReported := l.heldRecordLossReported && !l.isBufferRecordDealtWith }
  return !(← logger).holdsRecord

/-! ## Reports -/

/-- `SolidSyslog_HoldPendingReport`. The slot is formatted into even when another logger took the
event first; it is then free. -/
def holdPendingReport (index : Fin PendingEvents.kindCount) : Action ε ρ Unit := do
  let taken := PendingEvents.take (← get).pending index
  modify fun s => { s with pending := taken.2.2 }
  setLogger fun l => { l with holdsRecord := taken.1, heldRecordIsReport := taken.1 }
  let record : ρ ← ask P (.formatReport (← logger).recordCapacity taken.2.1)
  setLogger fun l => { l with record := record }

/-- `SolidSyslog_ReportIfPending`. -/
def reportIfPending (index : Fin PendingEvents.kindCount) : Action ε ρ Bool := do
  if PendingEvents.isPending (← get).pending index then
    let isOn : Bool ← ask P .isEventReportingOn
    setLogger fun l => { l with reportTurnedDown := !isOn }
    if isOn then
      holdPendingReport P index
      let dealtWith ← dealWithHeldRecord P
      return dealtWith && !(← logger).halted
    else
      return false
  else
    return true

/-- The walk of `SolidSyslog_ReportPendingEvents` over the slots left. -/
def walk : List (Fin PendingEvents.kindCount) → Action ε ρ Unit
  | [] => return ()
  | index :: rest => do
    if ← reportIfPending P index then
      walk rest

/-- `SolidSyslog_ReportPendingEvents`. -/
def reportPendingEvents : Action ε ρ Bool := do
  if (← logger).hasStorage then
    walk P (List.finRange PendingEvents.kindCount)
  return !(← logger).holdsRecord

/-! ## The pass -/

/-- The loop of `SolidSyslog_DrainBufferIntoStore`, for at most `fuel` records; `none` when there
may be more. Other tasks can fill the buffer as fast as it is drained, so no number of turns is
enough for every system. -/
def drainLoop (drained dealtWith : Bool) (fuel : Nat) : Action ε ρ (Option Bool) := do
  if dealtWith && !(← logger).halted then
    match fuel with
    | 0 => return none
    | fuel + 1 =>
      if ← holdNextRecord P then
        let dealtWith ← dealWithHeldRecord P
        drainLoop true dealtWith fuel
      else
        return some drained
  else
    return some drained

/-- `SolidSyslog_DrainBufferIntoStore`. -/
def drainBufferIntoStore (fuel : Nat) : Action ε ρ (Option Bool) := do
  applyPolicyToHeldRecordIfBufferFull P
  let dealtWith ← (if (← logger).halted then return false else dealWithHeldRecord P)
  let dealtWith ← (if dealtWith && !(← logger).halted then reportPendingEvents P
    else return dealtWith)
  drainLoop P false dealtWith fuel

/-- `SolidSyslog_TakeNextFromStore`. -/
def takeNextFromStore : Action ε ρ Bool := do
  if (← logger).holdsRecord then
    return false
  else
    let next : Option ρ ← ask P (.storeReadNextUnsent (← logger).recordCapacity)
    setLogger fun l => { l with record := next.getD l.record }
    return next.isSome

/-- `SolidSyslog_SendOneFromStore`. -/
def sendOneFromStore : Action ε ρ Bool := do
  if ← takeNextFromStore P then
    let accepted : Bool ← ask P (.senderSend (← logger).record)
    if accepted then
      let _ ← ask P .storeMarkSent
      return false
    else
      return true
  else
    ask P .storeHasUnsent

/-- `SolidSyslog_IsReportWaiting`. -/
def isReportWaiting : Action ε ρ Bool := do
  let s ← get
  return s.logger.hasStorage && !s.logger.reportTurnedDown && PendingEvents.anyPending s.pending

/-- The status a pass that was not halted ends with: `SolidSyslog_IsBlocked` and what follows. -/
def statusOf (storeBlocked drained : Bool) : Action ε ρ ServiceStatus := do
  if (← logger).halted then
    return .halted
  else if (← logger).holdsRecord || (storeBlocked && !drained) then
    return .blocked
  else if drained then
    return .ready
  else
    let hasUnsent : Bool ← ask P .storeHasUnsent
    if hasUnsent || (← isReportWaiting) then
      return .ready
    else
      return .idle

/-- `SolidSyslog_ProcessMessages`; `none` when the fuel ran out while the buffer was drained. -/
def processMessages (fuel : Nat) : Action ε ρ (Option ServiceStatus) := do
  setLogger fun l => { l with reportTurnedDown := false }
  match ← drainBufferIntoStore P fuel with
  | none => return none
  | some drained =>
    let storeBlocked ← (if (← logger).halted then return false else sendOneFromStore P)
    return some (← statusOf P storeBlocked drained)

/-- `SolidSyslog_Service` on a logger that was created. -/
def service (fuel : Nat) : Action ε ρ (Option ServiceStatus) := do
  resumeIfPolicyChanged P
  if (← logger).halted then
    return some .halted
  else
    processMessages P fuel

end SolidSyslog.Service
