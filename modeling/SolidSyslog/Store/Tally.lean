import SolidSyslog.Store.Fates
import SolidSyslog.Store.ShelfWrites
import SolidSyslog.Lib.Latch

/-!
# What the trace tells of losses

The trace tells of failed seals and of records stepped past, each with its reports and with what
ends a run of them; of the reports of refusals and evictions; of rotations; and with the ledger of
the messages kept and the records evicted. Each operation adds its own to this and nothing else.
-/

namespace SolidSyslog.Store

open Lib

variable {σ : Type} {P : Platform σ} {C : Config}

/-! ## What is told -/

/-- Of failed seals: a record appended ends a run of them. -/
def sealing : Event → Option Observation
  | .call (.sealRecord _) none => some .fault
  | .call (.append _ _) true => some .clear
  | .call (.report .error .storeWriteFailed .sealFailed) _ => some .report
  | _ => none

/-- Of records stepped past: a record handed out ends a run of them. -/
def loss : Event → Option Observation
  | .steppedPast _ _ _ => some .fault
  | .handedOut _ _ _ => some .clear
  | .call (.report _ .storeRecordDiscarded _) _ => some .report
  | _ => none

/-- `BLOCKSTORE_ERROR_RECORD_REFUSED` is reported. -/
def isRefusalReport : Event → Bool
  | .call (.report .warning .storeRecordsLost .recordRefused) _ => true
  | _ => false

/-- `BLOCKSTORE_ERROR_BLOCK_EVICTED` is reported. -/
def isEvictionReport : Event → Bool
  | .call (.report .warning .storeRecordsLost .blockEvicted) _ => true
  | _ => false

/-- A block is acquired: after the start, a rotation. -/
def isAcquire : Event → Bool
  | .call (.acquire _) ok => ok
  | _ => false

/-- What a trace tells. -/
structure Tally where
  sealings : List Observation
  losses : List Observation
  refusalReports : Nat
  evictionReports : Nat
  rotations : Nat
  messages : List Bytes
  evictions : Nat

namespace Tally

def nothing : Tally :=
  ⟨[], [], 0, 0, 0, [], 0⟩

/-- What is told and what is told after it. -/
def plus (t more : Tally) : Tally where
  sealings := t.sealings ++ more.sealings
  losses := t.losses ++ more.losses
  refusalReports := t.refusalReports + more.refusalReports
  evictionReports := t.evictionReports + more.evictionReports
  rotations := t.rotations + more.rotations
  messages := t.messages ++ more.messages
  evictions := t.evictions + more.evictions

theorem plus_losses (t : Tally) (seen : List Observation) :
    t.plus { nothing with losses := seen } = { t with losses := t.losses ++ seen } := by
  simp [plus, nothing]

end Tally

/-- What a trace tells, with the records of its ledger. -/
def tally (C : Config) (trace : List Event) : Tally where
  sealings := trace.filterMap sealing
  losses := trace.filterMap loss
  refusalReports := trace.countP isRefusalReport
  evictionReports := trace.countP isEvictionReport
  rotations := trace.countP isAcquire
  messages := (ledger C trace).messages
  evictions := (ledger C trace).evictions

theorem told_of_not_main {e : Event} (h : e.isMain = false) : sealing e = none ∧ loss e = none ∧
    isRefusalReport e = false ∧ isEvictionReport e = false ∧ isAcquire e = false := by
  rcases e with ⟨request, answer⟩ | _ | _ | _ | _
  · cases request with
    | report severity category error =>
      obtain rfl : category = .storeThresholdCrossed := by
        simpa [Event.isMain, Request.isMain] using h
      cases severity <;> exact ⟨rfl, rfl, rfl, rfl, rfl⟩
    | acquire block => cases h
    | dispose block => cases h
    | append block bytes => cases h
    | writeAt block offset bytes => cases h
    | sealRecord content => cases h
    | getDiscardPolicy => cases h
    | _ => exact ⟨rfl, rfl, rfl, rfl, rfl⟩
  all_goals cases h

/-- All of it is in the main trace. -/
theorem tally_main (trace : List Event) : tally C (main trace) = tally C trace := by
  have hfilterMap : ∀ f : Event → Option Observation, (∀ e, e.isMain = false → f e = none) →
      (main trace).filterMap f = trace.filterMap f := by
    intro f hf
    rw [main, List.filterMap_filter]
    congr 1
    funext e
    cases hmain : e.isMain with
    | true => rfl
    | false => exact (hf e hmain).symm
  have hcountP : ∀ p : Event → Bool, (∀ e, e.isMain = false → p e = false) →
      (main trace).countP p = trace.countP p := by
    intro p hp
    rw [main, List.countP_filter]
    congr 1
    funext e
    cases hmain : e.isMain with
    | true => rw [Bool.and_true]
    | false => rw [hp e hmain, Bool.and_false]
  rw [tally, tally, ledger_main, hfilterMap _ fun _ h => (told_of_not_main h).1,
    hfilterMap _ fun _ h => (told_of_not_main h).2.1,
    hcountP _ fun _ h => (told_of_not_main h).2.2.1,
    hcountP _ fun _ h => (told_of_not_main h).2.2.2.1,
    hcountP _ fun _ h => (told_of_not_main h).2.2.2.2]

section Events

variable (t : List Event)

@[simp] theorem tally_run (o w : Sequence) : tally C (t ++ [.run o w]) = tally C t := by
  simp [tally, ledger_concat, sealing, loss, isRefusalReport, isEvictionReport, isAcquire,
    Ledger.after]

@[simp] theorem tally_getDiscardPolicy (policy : DiscardPolicy) :
    tally C (t ++ [.call .getDiscardPolicy policy]) = tally C t := by
  simp [tally, ledger_concat, sealing, loss, isRefusalReport, isEvictionReport, isAcquire,
    Ledger.after]

@[simp] theorem tally_sealed (content : Bytes) (outcome : Bytes × Bytes) :
    tally C (t ++ [.call (.sealRecord content) (some outcome)]) = tally C t := by
  simp [tally, ledger_concat, sealing, loss, isRefusalReport, isEvictionReport, isAcquire,
    Ledger.after, Ledger.messages, Ledger.evictions]

@[simp] theorem tally_writeAt (block : Sequence) (offset : Nat) (bytes : Bytes) :
    tally C (t ++ [.call (.writeAt block offset bytes) true]) = tally C t := by
  obtain ⟨hmessages, hevictions⟩ := (ledger C t).map_records (message_mark (C := C) block offset)
    (evicted_mark block offset)
  simp [tally, ledger_concat, sealing, loss, isRefusalReport, isEvictionReport, isAcquire,
    Ledger.after, hmessages, hevictions]

@[simp] theorem tally_acquire (block : Sequence) : tally C (t ++ [.call (.acquire block) true]) =
    { tally C t with rotations := (tally C t).rotations + 1 } := by
  simp [tally, ledger_concat, sealing, loss, isRefusalReport, isEvictionReport, isAcquire,
    Ledger.after, Ledger.messages, Ledger.evictions]

@[simp] theorem tally_seal_failed (content : Bytes) :
    tally C (t ++ [.call (.sealRecord content) none]) =
      { tally C t with sealings := (tally C t).sealings ++ [.fault] } := by
  simp [tally, ledger_concat, sealing, loss, isRefusalReport, isEvictionReport, isAcquire,
    Ledger.after]

@[simp] theorem tally_append (block : Sequence) (bytes : Bytes) :
    tally C (t ++ [.call (.append block bytes) true]) =
      { tally C t with
        sealings := (tally C t).sealings ++ [.clear]
        messages := (tally C t).messages ++ [(ledger C t).sealing] } := by
  simp [tally, ledger_concat, sealing, loss, isRefusalReport, isEvictionReport, isAcquire,
    Ledger.after, Ledger.messages, Ledger.evictions, Kept.evicted]

@[simp] theorem tally_steppedPast (block : Sequence) (start length : Nat) :
    tally C (t ++ [.steppedPast block start length]) =
      { tally C t with losses := (tally C t).losses ++ [.fault] } := by
  obtain ⟨hmessages, hevictions⟩ := (ledger C t).map_records (message_pass block start)
    (evicted_pass block start)
  simp [tally, ledger_concat, sealing, loss, isRefusalReport, isEvictionReport, isAcquire,
    Ledger.after, hmessages, hevictions]

@[simp] theorem tally_handedOut (block : Sequence) (start length : Nat) :
    tally C (t ++ [.handedOut block start length]) =
      { tally C t with losses := (tally C t).losses ++ [.clear] } := by
  simp [tally, ledger_concat, sealing, loss, isRefusalReport, isEvictionReport, isAcquire,
    Ledger.after]

@[simp] theorem tally_loss_reported (fault : BlockStoreError) :
    tally C (t ++ [.call (.report .error .storeRecordDiscarded fault) ()]) =
      { tally C t with losses := (tally C t).losses ++ [.report] } := by
  simp [tally, ledger_concat, sealing, loss, isRefusalReport, isEvictionReport, isAcquire,
    Ledger.after]

@[simp] theorem tally_seal_reported :
    tally C (t ++ [.call (.report .error .storeWriteFailed .sealFailed) ()]) =
      { tally C t with sealings := (tally C t).sealings ++ [.report] } := by
  simp [tally, ledger_concat, sealing, loss, isRefusalReport, isEvictionReport, isAcquire,
    Ledger.after]

@[simp] theorem tally_refusal_reported :
    tally C (t ++ [.call (.report .warning .storeRecordsLost .recordRefused) ()]) =
      { tally C t with refusalReports := (tally C t).refusalReports + 1 } := by
  simp [tally, ledger_concat, sealing, loss, isRefusalReport, isEvictionReport, isAcquire,
    Ledger.after]

@[simp] theorem tally_eviction_reported :
    tally C (t ++ [.call (.report .warning .storeRecordsLost .blockEvicted) ()]) =
      { tally C t with evictionReports := (tally C t).evictionReports + 1 } := by
  simp [tally, ledger_concat, sealing, loss, isRefusalReport, isEvictionReport, isAcquire,
    Ledger.after]

end Events

end SolidSyslog.Store
