import SolidSyslog.Store.RecordStore

/-!
# The block store

`SolidSyslogBlockStore.c`: a store that keeps records in the blocks of a device until they are sent,
resumes from what it finds there, and freezes when the device fails. Freezing swaps the store's
operations for those of `SolidSyslogNullStore.c`; here it sets a flag every operation looks at
first.
-/

namespace SolidSyslog.Store

open Lib

variable {σ : Type}

/-- `struct SolidSyslogBlockStore` with its record store and block sequence, and what it runs on.
`frozen` says that its operations are those of the null store. -/
structure BlockStore (σ : Type) where
  seq : BlockSequence
  records : RecordStore
  lossReported : Bool
  refusalReported : Bool
  evictionReported : Bool
  sealFailureReported : Bool
  frozen : Bool
  world : World σ

namespace BlockStore

/-- An operation of the store. -/
abbrev Action (σ : Type) := StateM (BlockStore σ)

/-- The store's latches and parts before its device is opened. -/
def initial (world : World σ) : BlockStore σ :=
  ⟨BlockSequence.initial, RecordStore.initial, false, false, false, false, false, world⟩

/-- An operation of the block sequence. -/
def onSeq {α : Type} (action : BlockSequence.Action σ α) : Action σ α :=
  zoom (fun s => ⟨s.seq, s.world⟩) (fun s t => { s with seq := t.seq, world := t.world }) action

/-- An operation of the record store. -/
def onRecords {α : Type} (action : RecordStore.Action σ α) : Action σ α :=
  zoom (fun s => ⟨s.records, s.world⟩)
    (fun s t => { s with records := t.records, world := t.world }) action

def seqOf : Action σ BlockSequence := do
  return (← get).seq

variable (P : Platform σ) (C : Config)

/-- `BlockStore_Report`. -/
def report (severity : Severity) (category : Category) (error : BlockStoreError) :
    Action σ Unit := do
  let _ ← zoom world (fun s w => { s with world := w })
    (World.ask P (.report severity category error))

def note (event : Event) : Action σ Unit :=
  zoom world (fun s w => { s with world := w }) (World.note event)

/-- `BlockStore_Freeze`. -/
def freeze (failedOperation : BlockStoreError) : Action σ Unit := do
  report P .error .storeFrozen failedOperation
  modify fun s => { s with frozen := true }

/-- `BlockStore_FreezeIfDeviceFailed`. -/
def freezeIfDeviceFailed : Action σ Bool := do
  if (← seqOf).deviceFailed then
    freeze P (← seqOf).failedOperation
    return true
  else
    return false

/-! ## Reports that stand for a run -/

/-- `BlockStore_ReportRefusal`. -/
def reportRefusal : Action σ Unit := do
  if !(← get).refusalReported then
    report P .warning .storeRecordsLost .recordRefused
    modify fun s => { s with refusalReported := true }

/-- `BlockStore_ReportEviction`. -/
def reportEviction : Action σ Unit := do
  if !(← seqOf).evictedUnsent then
    modify fun s => { s with evictionReported := false }
  else if !(← get).evictionReported then
    report P .warning .storeRecordsLost .blockEvicted
    modify fun s => { s with evictionReported := true }

/-- `BlockStore_ReportSealFailed`. -/
def reportSealFailed : Action σ Unit := do
  if !(← get).sealFailureReported then
    report P .error .storeWriteFailed .sealFailed
    modify fun s => { s with sealFailureReported := true }

/-- `BlockStore_ReportLoss`. -/
def reportLoss (fault : BlockStoreError) : Action σ Unit := do
  if !(← get).lossReported then
    report P .error .storeRecordDiscarded fault
    modify fun s => { s with lossReported := true }

/-! ## Write -/

/-- The branches of `BlockStore_StoreRecord` after the append. -/
def settleAppend (recordSize : Nat) : AppendResult → Action σ StoreWriteResult
  | .succeeded => do
    onSeq (BlockSequence.noteRecordWritten P C recordSize)
    modify fun s => { s with refusalReported := false, sealFailureReported := false }
    return .kept
  | .deviceFailed => do
    freeze P .appendFailed
    return .notRetained
  | .sealFailed => do
    reportSealFailed P
    return .lost

/-- The append of `BlockStore_StoreRecord` and what follows it. -/
def appendRecord (recordSize : Nat) (data : Bytes) : Action σ StoreWriteResult := do
  let appended ← onRecords (RecordStore.append P C (← seqOf).writeSequence data)
  settleAppend P C recordSize appended

/-- `BlockStore_StoreRecord`. -/
def storeRecord (data : Bytes) : Action σ StoreWriteResult := do
  let recordSize := C.recordSize (toUint16 data.length)
  let (prepared, readBlockChanged) ← onSeq (BlockSequence.prepareForWrite P C recordSize)
  if ← freezeIfDeviceFailed P then
    return .notRetained
  else if !prepared then
    reportRefusal P
    return .notRetained
  else
    reportEviction P
    if readBlockChanged then
      onRecords RecordStore.forgetLastRead
    appendRecord P C recordSize data

/-- `BlockStore_Write`, or the null store's. -/
def write (data : Bytes) : Action σ StoreWriteResult := do
  if (← get).frozen then
    return .notRetained
  else if 0 < data.length then
    storeRecord P C data
  else
    return .notRetained

/-! ## Reading -/

/-- `BlockStore_ReadNextBlockIfBehind`: whether the read moved on. -/
def readNextBlockIfBehind : Action σ Bool := do
  if (← seqOf).readIsBehindWrite then
    let _ ← onSeq (BlockSequence.disposeReadBlock P C)
    onRecords RecordStore.forgetLastRead
    let failed ← freezeIfDeviceFailed P
    return !failed
  else
    return false

/-- `BlockStore_AbandonRestOfReadBlock`. -/
def abandonRestOfReadBlock : Action σ Bool := do
  let movedOn ← readNextBlockIfBehind P C
  if !(← seqOf).deviceFailed then
    reportLoss P .recordCorrupt
    if !movedOn then
      modify fun s => { s with seq := s.seq.setReadCursor s.seq.writePosition }
      modify fun s => { s with seq := s.seq.markWriteBlockCorrupt }
  return movedOn

/-- `BlockStore_StepPastCurrent`. -/
def stepPastCurrent : Action σ Bool := do
  let cursor ← onRecords RecordStore.stepPastLastRead
  modify fun s => { s with seq := s.seq.setReadCursor cursor }
  return true

/-- `BlockStore_StepPastRejected`. -/
def stepPastRejected : Action σ Bool := do
  reportLoss P .recordRejected
  stepPastCurrent

/-- `BlockStore_StepPast`: whether there is a next record to try. -/
def stepPast (found : RecordStore.Found) : Action σ Bool := do
  match found.result with
  | .rejected =>
    note (.steppedPast (← seqOf).readSequence (← seqOf).readCursor found.length)
    stepPastRejected P
  | .finishedWith => stepPastCurrent
  | .endOfData => readNextBlockIfBehind P C
  | .corrupt => abandonRestOfReadBlock P C
  | _ => return false

/-- `BlockStore_ReadCurrent`. -/
def readCurrent (maxSize : Nat) : Action σ RecordStore.Found := do
  match ← onSeq (BlockSequence.readBlockSizeOf P) with
  | some readBlockSize =>
    let seq ← seqOf
    onRecords (RecordStore.read P C seq.readSequence seq.readCursor readBlockSize maxSize)
  | none => return ⟨.deviceFailed, 0, []⟩

/-- The loop of `BlockStore_ReadNextUnsent`, for at most `fuel` records stepped past; `none` when
there may be more. -/
def readLoop (maxSize : Nat) : Nat → Action σ (Option RecordStore.Found)
  | 0 => return none
  | fuel + 1 => do
    let found ← readCurrent P C maxSize
    if ← stepPast P C found then
      readLoop maxSize fuel
    else
      return some found

/-- The branches of `BlockStore_ReadNextUnsent` after its loop. -/
def settleRead (found : RecordStore.Found) : Action σ Unit := do
  match found.result with
  | .succeeded =>
    note (.handedOut (← seqOf).readSequence (← seqOf).readCursor found.length)
    modify fun s => { s with lossReported := false }
  | .deviceFailed =>
    if !(← freezeIfDeviceFailed P) then
      freeze P .readFailed
  | _ => return ()

/-- `BlockStore_ReadNextUnsent`, or the null store's: the bytes handed out, if any; `none` when the
fuel ran out first. -/
def readNextUnsent (fuel maxSize : Nat) : Action σ (Option (Option Bytes)) := do
  if (← get).frozen then
    return some none
  else if (← seqOf).hasUnsent then
    match ← readLoop P C maxSize fuel with
    | none => return none
    | some found =>
      settleRead P found
      return some (if 0 < found.bytes.length then some found.bytes else none)
  else
    return some none

/-- `BlockStore_MarkSent`, or the null store's. -/
def markSent : Action σ Unit := do
  if (← get).frozen then
    return ()
  else
    match ← onRecords (RecordStore.markLastReadAsSent P) with
    | .deviceFailed => freeze P .markSentFailed
    | .succeeded nextCursor =>
      modify fun s => { s with seq := s.seq.setReadCursor nextCursor }
      let readBlockChanged ← onSeq (BlockSequence.disposeReadBlockIfDrained P C)
      if !(← freezeIfDeviceFailed P) && readBlockChanged then
        onRecords RecordStore.forgetLastRead
    | .nothingRead => return ()

/-! ## Questions -/

/-- `BlockStore_HasUnsent`, or the null store's. -/
def hasUnsent (s : BlockStore σ) : Bool :=
  !s.frozen && s.seq.hasUnsent

/-- `BlockStore_IsTransient`, or the null store's. -/
def isTransient (s : BlockStore σ) : Bool :=
  s.frozen

/-- `BlockStore_GetTotalBytes`, or the null store's. -/
def getTotalBytes (C : Config) (s : BlockStore σ) : Nat :=
  if s.frozen then 0 else BlockSequence.totalBytes C

/-- `BlockStore_GetUsedBytes`, or the null store's. -/
def getUsedBytes (C : Config) (s : BlockStore σ) : Nat :=
  if s.frozen then 0 else s.seq.usedBytes C

/-! ## Starting -/

/-- `BlockStore_ScanReadBlock`. -/
def scanReadBlock : Action σ ScanResult := do
  match ← onSeq (BlockSequence.readBlockSizeOf P) with
  | some readBlockSize =>
    let (cursor, scanned) ←
      onRecords (RecordStore.findFirstUnsent P C (← seqOf).readSequence readBlockSize)
    modify fun s => { s with seq := s.seq.setReadCursor cursor }
    if scanned == .deviceFailed then
      freeze P .readFailed
    return scanned
  | none =>
    freeze P .sizeFailed
    return .deviceFailed

/-- `BlockStore_CheckWriteBlock`. -/
def checkWriteBlock : Action σ Unit := do
  let seq ← seqOf
  let start := if seq.readIsBehindWrite then 0 else seq.readCursor
  match ← onRecords (RecordStore.scanToEnd P C seq.writeSequence start seq.writePosition) with
  | .deviceFailed => freeze P .readFailed
  | .corrupt => modify fun s => { s with seq := s.seq.markWriteBlockCorrupt }
  | .clean => return ()

/-- The loop of `BlockStore_ResumeFromExistingBlock`. Each turn leaves a block, so as many turns as
there are numbers are enough. -/
def resumeLoop : Nat → Action σ ScanResult
  | 0 => do
    note .endless
    return .clean
  | fuel + 1 => do
    let scanned ← scanReadBlock P C
    if scanned == .corrupt then
      if ← abandonRestOfReadBlock P C then
        resumeLoop fuel
      else
        return scanned
    else
      return scanned

/-- `BlockStore_ResumeFromExistingBlock`. -/
def resumeFromExistingBlock : Action σ Unit := do
  let scanned ← resumeLoop P C (modulus + 1)
  if scanned != .deviceFailed && !(← seqOf).deviceFailed then
    checkWriteBlock P C

/-- `SolidSyslogBlockStore_Initialise`. -/
def initialise : Action σ Unit := do
  if ← onSeq (BlockSequence.openBlocks P C) then
    resumeFromExistingBlock P C
  else
    freeze P (← seqOf).failedOperation

/-- `SolidSyslogBlockStore_Create` on a configuration it accepts. -/
def create : Action σ Unit := do
  if C.deviceBlockSize < C.recordSize C.tunables.maxMessageSize then
    report P .warning (.unreported 1) .blockTooSmall
  initialise P C

/-! ## The interface -/

/-- What a caller may give to `Write`: never more than `SOLIDSYSLOG_MAX_MESSAGE_SIZE` bytes. -/
structure Message (C : Config) where
  bytes : Bytes
  fits : bytes.length ≤ C.tunables.maxMessageSize

theorem one_byte_fits (C : Config) (byte : UInt8) :
    [byte].length ≤ C.tunables.maxMessageSize :=
  Nat.le_trans (by decide : 1 ≤ 64) C.tunables.maxMessageSize_ge

/-- A message of one byte. -/
def Message.one {C : Config} (byte : UInt8) : Message C :=
  ⟨[byte], one_byte_fits C byte⟩

/-- A call of the store. -/
inductive Op (C : Config) where
  | write (message : Message C)
  | readNextUnsent (maxSize : Nat)
  | markSent
  | hasUnsent
  | isTransient

/-- What a call of the store answers; `unfinished` is a read whose loop has not ended yet. -/
inductive Answer where
  | wrote (result : StoreWriteResult)
  | read (bytes : Option Bytes)
  | unfinished
  | marked
  | verdict (holds : Bool)
  deriving DecidableEq, Repr

/-- One call of the store, a read for at most `fuel` turns of its loop. -/
def perform {C : Config} (fuel : Nat) : Op C → Action σ Answer
  | .write message => do return .wrote (← write P C message.bytes)
  | .readNextUnsent maxSize => do
    match ← readNextUnsent P C fuel maxSize with
    | some bytes => return .read bytes
    | none => return .unfinished
  | .markSent => do
    markSent P C
    return .marked
  | .hasUnsent => do return .verdict (← get).hasUnsent
  | .isTransient => do return .verdict (← get).isTransient

/-- One call of the store. A read that never returns answers `unfinished` for every fuel. -/
def Step {C : Config} (s : BlockStore σ) (op : Op C) (answer : Answer) (s' : BlockStore σ) : Prop :=
  ∃ fuel, perform P fuel op s = (answer, s')

/-- The store as `SolidSyslogBlockStore_Create` leaves it, on what it finds outside. -/
def created (env : σ) : BlockStore σ :=
  (create P C (initial ⟨env, []⟩)).2

end BlockStore

end SolidSyslog.Store
