import SolidSyslog.Basic
import Mathlib.Data.List.FinRange

/-!
# Events and the table of events waiting to be reported

`SolidSyslogError.h` and `SolidSyslogPendingEvents.c`. Every fault the library meets is raised as
an event; the table keeps the last event of each reported kind until `Service` makes a report of
it. The kinds stand in the order they are reported in, causes ahead of what they cause.
-/

namespace SolidSyslog

/-- The portable categories an event is raised under. The constructors with a name are the reported
kinds; every other `uint16_t` is `unreported`. -/
inductive Category where
  | fileIoFailed
  | securityPolicyKeyUnavailable
  | securityPolicySealFailed
  | securityPolicyOpenFailed
  | tlsStreamHandshakeFailed
  | bufferBackendFailed
  | bufferRecordsLost
  | storeThresholdCrossed
  | storeRecordsLost
  | storeRecordDiscarded
  | storeWriteFailed
  | storeFrozen
  | senderRecordsLost
  | loggerHalted
  | senderDeliveryFailed
  | senderDeliveryRestored
  | unreported (category : UInt16)
  deriving DecidableEq, Repr

/-- `struct SolidSyslogErrorEvent`. The source is named by its tag. -/
structure ErrorEvent where
  severity : Severity
  category : Category
  hasNativeCode : Bool
  source : String
  detail : Int
  nativeCode : Int
  deriving DecidableEq, Repr

namespace PendingEvents

/-- `SOLIDSYSLOG_PENDING_EVENT_KIND_COUNT`. -/
def kindCount : Nat := 16

/-- A reported kind and the least severe severity it is raised at. -/
structure Kind where
  category : Category
  severity : Severity

/-- `PendingEvents_Kinds`, in slot order. -/
def kinds : List Kind :=
  [⟨.fileIoFailed, .error⟩, ⟨.securityPolicyKeyUnavailable, .error⟩,
    ⟨.securityPolicySealFailed, .error⟩, ⟨.securityPolicyOpenFailed, .error⟩,
    ⟨.tlsStreamHandshakeFailed, .warning⟩, ⟨.bufferBackendFailed, .error⟩,
    ⟨.bufferRecordsLost, .warning⟩, ⟨.storeThresholdCrossed, .warning⟩,
    ⟨.storeRecordsLost, .warning⟩, ⟨.storeRecordDiscarded, .error⟩, ⟨.storeWriteFailed, .error⟩,
    ⟨.storeFrozen, .error⟩, ⟨.senderRecordsLost, .error⟩, ⟨.loggerHalted, .error⟩,
    ⟨.senderDeliveryFailed, .warning⟩, ⟨.senderDeliveryRestored, .notice⟩]

/-- The kind of a slot. -/
def kindAt (index : Fin kindCount) : Kind :=
  kinds.get (index.cast (by rfl))

/-- `PendingEvents_Severities`. -/
def severities : List Severity :=
  [.emergency, .alert, .critical, .error, .warning, .notice, .informational, .debug]

/-- `struct PendingEventSlot`. Severity code zero stands for the kind's own severity. -/
structure Slot where
  source : String
  detail : Int
  nativeCode : Int
  severityCode : Nat
  hasNativeCode : Bool
  pending : Bool

/-- `PendingEvents_Slots`. -/
abbrev Table := Fin kindCount → Slot

/-- The table as the program starts with it. -/
def empty : Table := fun _ => ⟨"", 0, 0, 0, false, false⟩

/-- `PendingEvents_IndexOf`: the slot of a reported kind. -/
def indexOf (category : Category) : Option (Fin kindCount) :=
  (List.finRange kindCount).find? fun index => (kindAt index).category == category

/-- `PendingEvents_SeverityCode`. -/
def severityCode (severity : Severity) : Nat :=
  severities.zipIdx.foldl (fun code entry => if entry.1 = severity then entry.2 + 1 else code) 0

/-- `PendingEvents_SeverityOf`. -/
def severityOf (kind : Kind) (code : Nat) : Severity :=
  if 0 < code then severities.getD (code - 1) kind.severity else kind.severity

/-- `SolidSyslogPendingEvents_Record`. -/
def record (table : Table) (event : ErrorEvent) : Table :=
  match indexOf event.category with
  | some index =>
    Function.update table index
      ⟨event.source, event.detail, event.nativeCode, severityCode event.severity,
        event.hasNativeCode, true⟩
  | none => table

/-- `SolidSyslogPendingEvents_IsPending`. -/
def isPending (table : Table) (index : Fin kindCount) : Bool :=
  (table index).pending

/-- `SolidSyslogPendingEvents_AnyPending`. -/
def anyPending (table : Table) : Bool :=
  (List.finRange kindCount).any (isPending table)

/-- `SolidSyslogPendingEvents_Take`: whether the kind was pending, its event, and the slot
emptied. -/
def take (table : Table) (index : Fin kindCount) : Bool × ErrorEvent × Table :=
  let slot := table index
  let kind := kindAt index
  (slot.pending,
    ⟨severityOf kind slot.severityCode, kind.category, slot.hasNativeCode, slot.source,
      slot.detail, slot.nativeCode⟩,
    Function.update table index { slot with pending := false })

theorem severityOf_severityCode (kind : Kind) (severity : Severity) :
    severityOf kind (severityCode severity) = severity := by
  cases severity <;> rfl

theorem kindAt_of_indexOf {category : Category} {index : Fin kindCount}
    (h : indexOf category = some index) : (kindAt index).category = category := by
  have := List.find?_some h
  simpa using this

theorem indexOf_kindAt (index : Fin kindCount) :
    indexOf (kindAt index).category = some index := by
  revert index
  decide

/-- What is taken from a slot is the event last recorded in it. -/
theorem take_record {table : Table} {event : ErrorEvent} {index : Fin kindCount}
    (h : indexOf event.category = some index) :
    (take (record table event) index).1 = true ∧
      (take (record table event) index).2.1 = event := by
  simp [take, record, h, severityOf_severityCode, kindAt_of_indexOf h]

end PendingEvents

end SolidSyslog
