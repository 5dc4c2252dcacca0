import SolidSyslog.Store.Sequence.Operations
import SolidSyslog.Store.Records

/-!
# The view of a block store

The view of its sequence, the record it remembers and its latches. What an operation makes of a view
follows the text of the operation; the security policy's answers come from the platform.
-/

namespace SolidSyslog.Store

open Lib

variable {σ : Type} {P : Platform σ} {C : Config} {media : σ → Media} {m₀ : Media}

/-- The view of the sequence, the record last read and the latches of the reports. -/
structure StoreView where
  view : View
  records : RecordStore
  lossReported : Bool
  refusalReported : Bool
  evictionReported : Bool
  sealFailureReported : Bool

/-- The store is the one viewed. -/
structure BlockStore.Sees (media : σ → Media) (m₀ : Media) (V : StoreView) (s : BlockStore σ) :
    Prop where
  seq : SequenceState.Sees media m₀ V.view ⟨s.seq, s.world⟩
  records : s.records = V.records
  lossReported : s.lossReported = V.lossReported
  refusalReported : s.refusalReported = V.refusalReported
  evictionReported : s.evictionReported = V.evictionReported
  sealFailureReported : s.sealFailureReported = V.sealFailureReported
  frozen : s.frozen = false

/-- A dispose of the oldest block of a view in `J` failed and the store froze. -/
def BlockStore.Jammed (P : Platform σ) (media : σ → Media) (m₀ : Media) (J : View → Prop)
    (s : BlockStore σ) : Prop :=
  ¬ DisposesAlways P media ∧ s.frozen = true ∧
    ∃ v, J v ∧ v.WellFormed ∧ ∃ failedOperation,
      s.world.Shows media m₀ v.media (v.trace ++ [.call (.dispose v.oldest) false,
        .call (.report .error .storeFrozen failedOperation) ()])

namespace StoreView

/-- With one more event in the main trace. -/
def traced (V : StoreView) (event : Event) : StoreView :=
  { V with view := V.view.traced event }

/-- The record last read is forgotten. -/
def forgotten (V : StoreView) : StoreView :=
  { V with records := { V.records with hasReadRecord := false } }

/-! ## Reports -/

/-- `BlockStore_ReportRefusal`. -/
def reportRefusal (V : StoreView) : StoreView :=
  if V.refusalReported then V
  else
    { V.traced (.call (.report .warning .storeRecordsLost .recordRefused) ()) with
      refusalReported := true }

/-- `BlockStore_ReportEviction`. -/
def reportEviction (V : StoreView) : StoreView :=
  if V.view.evicted then
    if V.evictionReported then V
    else
      { V.traced (.call (.report .warning .storeRecordsLost .blockEvicted) ()) with
        evictionReported := true }
  else { V with evictionReported := false }

/-- `BlockStore_ReportSealFailed`. -/
def reportSealFailed (V : StoreView) : StoreView :=
  if V.sealFailureReported then V
  else
    { V.traced (.call (.report .error .storeWriteFailed .sealFailed) ()) with
      sealFailureReported := true }

/-- `BlockStore_ReportLoss`. -/
def reportLoss (V : StoreView) (fault : BlockStoreError) : StoreView :=
  if V.lossReported then V
  else
    { V.traced (.call (.report .error .storeRecordDiscarded fault) ()) with lossReported := true }

/-! ## Reading -/

/-- The read block is left. -/
def left (V : StoreView) (n : Sequence) : StoreView :=
  { V.forgotten with view := V.view.drained n }

/-- The rest of the write block is given up. -/
def spoiled (V : StoreView) : StoreView :=
  { V.reportLoss .recordCorrupt with
    view := { (V.reportLoss .recordCorrupt).view with
      cursor := V.view.writeSize
      corrupt := true } }

/-- The record at the cursor is remembered. -/
def remembered (C : Config) (V : StoreView) (length : Nat) : StoreView :=
  { V with records := ⟨true, V.view.oldest, C.sentFlagOffset V.view.cursor length⟩ }

/-- The cursor is past the record it was on. -/
def passed (C : Config) (V : StoreView) (length : Nat) : StoreView :=
  { V with
    view := { V.view with cursor := V.view.cursor + C.recordSize length }
    records := ⟨false, V.view.oldest, C.sentFlagOffset V.view.cursor length⟩ }

/-- The bytes of the read block. -/
def readContent (V : StoreView) : Bytes :=
  (V.view.media V.view.oldest).getD []

/-- One turn of the loop of `BlockStore_ReadNextUnsent`: what was found, whether to go on. -/
inductive Turn (P : Platform σ) (C : Config) (maxSize : Nat) (V : StoreView) :
    RecordStore.Found → Bool → StoreView → Prop
  | moved {found : RecordStore.Found} {n : Sequence}
      (read : ReadAt P C V.readContent V.view.cursor maxSize found)
      (result : found.result = .endOfData)
      (next : V.view.Next n) : Turn P C maxSize V found true (V.left n)
  | exhausted {found : RecordStore.Found}
      (read : ReadAt P C V.readContent V.view.cursor maxSize found)
      (result : found.result = .endOfData)
      (last : V.view.oldest = V.view.write) : Turn P C maxSize V found false V
  | abandoned {found : RecordStore.Found} {n : Sequence}
      (read : ReadAt P C V.readContent V.view.cursor maxSize found)
      (result : found.result = .corrupt)
      (next : V.view.Next n) :
      Turn P C maxSize V found true ((V.left n).reportLoss .recordCorrupt)
  | spoiled {found : RecordStore.Found}
      (read : ReadAt P C V.readContent V.view.cursor maxSize found)
      (result : found.result = .corrupt)
      (last : V.view.oldest = V.view.write) : Turn P C maxSize V found false V.spoiled
  | finishedWith {found : RecordStore.Found}
      (read : ReadAt P C V.readContent V.view.cursor maxSize found)
      (result : found.result = .finishedWith) :
      Turn P C maxSize V found true (V.passed C found.length)
  | rejected {found : RecordStore.Found}
      (read : ReadAt P C V.readContent V.view.cursor maxSize found)
      (result : found.result = .rejected) :
      Turn P C maxSize V found true
        (((V.traced (.steppedPast V.view.oldest V.view.cursor found.length)).reportLoss
          .recordRejected).passed C found.length)
  | succeeded {found : RecordStore.Found}
      (read : ReadAt P C V.readContent V.view.cursor maxSize found)
      (result : found.result = .succeeded) :
      Turn P C maxSize V found false (V.remembered C found.length)
  | couldNotOpen {found : RecordStore.Found}
      (read : ReadAt P C V.readContent V.view.cursor maxSize found)
      (result : found.result = .couldNotOpen) : Turn P C maxSize V found false V

theorem Turn.read {maxSize : Nat} {V V' : StoreView} {found : RecordStore.Found} {goesOn : Bool}
    (h : V.Turn P C maxSize found goesOn V') :
    ReadAt P C V.readContent V.view.cursor maxSize found := by
  cases h <;> assumption

/-- As many turns of the loop that go on. -/
inductive Turns (P : Platform σ) (C : Config) (maxSize : Nat) :
    Nat → StoreView → StoreView → Prop
  | refl (V : StoreView) : Turns P C maxSize 0 V V
  | head {count : Nat} {V V₁ V' : StoreView} {found : RecordStore.Found}
      (turn : V.Turn P C maxSize found true V₁) (rest : Turns P C maxSize count V₁ V') :
      Turns P C maxSize (count + 1) V V'

/-- A record is handed out. -/
def handedOut (V : StoreView) (length : Nat) : StoreView :=
  { V.traced (.handedOut V.view.oldest V.view.cursor length) with lossReported := false }

/-- The branches of `BlockStore_ReadNextUnsent` after its loop. -/
def settledRead (V : StoreView) (found : RecordStore.Found) : StoreView :=
  if found.result = .succeeded then V.handedOut found.length else V

/-- `HasUnsent`. -/
def HasUnsent (V : StoreView) : Prop :=
  V.view.oldest ≠ V.view.write ∨ V.view.cursor < V.view.writeSize

/-- `BlockStore_ReadNextUnsent`: the bytes handed out. -/
inductive Read (P : Platform σ) (C : Config) (maxSize : Nat) (V : StoreView) :
    Option Bytes → StoreView → Prop
  | nothing (done : ¬ V.HasUnsent) : Read P C maxSize V none V
  | found {count : Nat} {V₁ V' : StoreView} {found : RecordStore.Found} (unsent : V.HasUnsent)
      (turns : Turns P C maxSize count V V₁) (last : V₁.Turn P C maxSize found false V') :
      Read P C maxSize V (if 0 < found.bytes.length then some found.bytes else none)
        (V'.settledRead found)

/-! ## Writing -/

/-- The store ready for an append: what `BlockStore_StoreRecord` does after the sequence. -/
def readied (V : StoreView) (v' : View) (changed : Bool) : StoreView :=
  if changed then ({ V with view := v' } : StoreView).reportEviction.forgotten
  else ({ V with view := v' } : StoreView).reportEviction

/-- With one more record, which ends the runs of refused writes and failed seals. -/
def kept (V : StoreView) (bytes : Bytes) : StoreView :=
  { V with
    view := V.view.appended bytes
    refusalReported := false
    sealFailureReported := false }

/-- `BlockStore_Write`. -/
inductive Wrote (P : Platform σ) (C : Config) (data : Bytes) (V : StoreView) :
    StoreWriteResult → StoreView → Prop
  | empty (none : data = []) : Wrote P C data V .notRetained V
  | refused {v' : View} {changed : Bool} (some : 0 < data.length)
      (prepared : V.view.Prepared C (C.recordSize (toUint16 data.length)) (false, changed) v') :
      Wrote P C data V .notRetained ({ V with view := v' } : StoreView).reportRefusal
  | lost {v' : View} {changed : Bool} (some : 0 < data.length)
      (prepared : V.view.Prepared C (C.recordSize (toUint16 data.length)) (true, changed) v') :
      Wrote P C data V .lost
        (((V.readied v' changed).traced
          (.call (.sealRecord (header (toUint16 data.length) ++ data)) none)).reportSealFailed)
  | kept {v' : View} {changed : Bool} {sealedContent trailer : Bytes} {env : σ}
      (some : 0 < data.length)
      (prepared : V.view.Prepared C (C.recordSize (toUint16 data.length)) (true, changed) v')
      (sealed : (P.answer (.sealRecord (header (toUint16 data.length) ++ data)) env).1 =
        .some (sealedContent, trailer)) :
      Wrote P C data V .kept
        (((V.readied v' changed).traced
          (.call (.sealRecord (header (toUint16 data.length) ++ data))
            (.some (sealedContent, trailer)))).kept
          (RecordStore.recordBytes C data sealedContent trailer))

/-! ## Marking -/

/-- The flag of the record last read is written and the cursor is past it. -/
def marked (V : StoreView) : StoreView :=
  { V.forgotten with
    view := { V.view with
      cursor := V.records.lastSentFlagOffset + 1
      media := V.view.media.after (.writeAt V.records.lastReadBlockIndex
        V.records.lastSentFlagOffset [sentFlagSent])
      trace := V.view.trace ++ [.call (.writeAt V.records.lastReadBlockIndex
        V.records.lastSentFlagOffset [sentFlagSent]) true] } }

/-- `BlockStore_MarkSent`. -/
inductive Marked (V : StoreView) : StoreView → Prop
  | nothing (unread : V.records.hasReadRecord = false) : Marked V V
  | marked {changed : Bool} {v' : View} (read : V.records.hasReadRecord = true)
      (swept : V.marked.view.Swept changed v') : Marked V { V.marked with view := v' }

/-! ## Starting -/

/-- A store just opened. -/
def initial (v : View) : StoreView :=
  ⟨v, RecordStore.initial, false, false, false, false⟩

/-- `BlockStore_ScanReadBlock`: what the scan found. -/
def scanResult (C : Config) (V : StoreView) : ScanResult :=
  (C.firstUnsent V.readContent 0 V.readContent.length).2

/-- `BlockStore_ScanReadBlock`: the cursor comes to rest. -/
def scanned (C : Config) (V : StoreView) : StoreView :=
  { V with
    view := { V.view with cursor := (C.firstUnsent V.readContent 0 V.readContent.length).1 } }

/-- The blocks `BlockStore_ResumeFromExistingBlock` leaves. -/
inductive Resuming (C : Config) : StoreView → StoreView → Prop
  | refl (V : StoreView) : Resuming C V V
  | head {V V' : StoreView} {n : Sequence} (corrupt : V.scanResult C = .corrupt)
      (next : V.view.Next n)
      (rest : Resuming C (((V.scanned C).left n).reportLoss .recordCorrupt) V') : Resuming C V V'

/-- The loop of `BlockStore_ResumeFromExistingBlock`. -/
inductive Resumed (C : Config) (V : StoreView) : StoreView → Prop
  | scanned {V' : StoreView} (left : Resuming C V V') (found : V'.scanResult C ≠ .corrupt) :
      Resumed C V (V'.scanned C)
  | spoiled {V' : StoreView} (left : Resuming C V V') (corrupt : V'.scanResult C = .corrupt)
      (last : V'.view.oldest = V'.view.write) : Resumed C V (V'.scanned C).spoiled

/-- The bytes of the write block. -/
def writeContent (V : StoreView) : Bytes :=
  (V.view.media V.view.write).getD []

/-- Where `BlockStore_CheckWriteBlock` starts. -/
def checkStart (V : StoreView) : Nat :=
  if V.view.oldest = V.view.write then V.view.cursor else 0

/-- `BlockStore_CheckWriteBlock`. -/
def checked (C : Config) (V : StoreView) : StoreView :=
  if C.scanEnd V.writeContent V.checkStart V.writeContent.length = .corrupt then
    { V with view := { V.view with corrupt := true } }
  else V

/-- What `SolidSyslogBlockStore_Create` reports first. -/
def createReports (C : Config) : List Event :=
  if C.deviceBlockSize < C.recordSize C.tunables.maxMessageSize then
    [.call (.report .warning (.unreported 1) .blockTooSmall) ()]
  else []

/-- `SolidSyslogBlockStore_Create`. -/
inductive Created (C : Config) (m : Media) : StoreView → Prop
  | mk {v : View} {V : StoreView} (opened : View.Opened m (createReports C) v)
      (resumed : Resumed C (initial v) V) : Created C m (V.checked C)

/-! ## What every view keeps -/

/-- The cursor is within the read block, and so is the record remembered. -/
structure Sound (V : StoreView) : Prop where
  cursor : V.view.cursor ≤ V.view.readSize
  read : V.records.hasReadRecord = true → V.records.lastReadBlockIndex = V.view.oldest ∧
    V.records.lastSentFlagOffset < V.view.readSize

end StoreView

end SolidSyslog.Store
