import SolidSyslog.Store.Device
import SolidSyslog.Lib.Circular
import Mathlib.Data.Fin.Basic

/-!
# The sequence of blocks

`SolidSyslogBlockSequence.c`: which blocks the store works on, oldest to write block, in a circular
space of 100 numbers, with the read cursor in the oldest and the write position in the newest.
-/

namespace SolidSyslog.Store

open Lib

/-- `struct SolidSyslogBlockSequence`, less what it is configured with. -/
structure BlockSequence where
  atCapacity : Bool
  thresholdCrossed : Bool
  oldestSequence : Sequence
  readSequence : Sequence
  writeSequence : Sequence
  readCursor : Nat
  readBlockSize : Nat
  readBlockSizeKnown : Bool
  writePosition : Nat
  writeBlockCorrupt : Bool
  deviceFailed : Bool
  evictedUnsent : Bool
  failedOperation : BlockStoreError
  blockPresent : Sequence → Bool

namespace Config

variable (C : Config)

/-- `SolidSyslogRecordStore_RecordSize`: magic, length, message, trailer and sent flag. -/
def recordSize (dataLength : Nat) : Nat :=
  2 + 2 + dataLength + C.trailerSize + 1

/-- `BlockStore_BuildBlockSequenceConfig`: a block holds at least one record of any length. -/
def maxBlockSize : Nat :=
  if C.deviceBlockSize < C.recordSize C.tunables.maxMessageSize then
    C.recordSize C.tunables.maxMessageSize
  else C.deviceBlockSize

/-- `BlockSequence_ClampToRange` between `MIN_MAX_BLOCKS` and `MAX_MAX_BLOCKS`. -/
def maxBlocks : Nat :=
  let result := if C.configuredMaxBlocks < 2 then 2 else C.configuredMaxBlocks
  if modulus - 2 < result then modulus - 2 else result

theorem two_le_maxBlocks : 2 ≤ C.maxBlocks := by
  simp only [maxBlocks, modulus]
  split <;> split <;> omega

theorem maxBlocks_le : C.maxBlocks ≤ modulus - 2 := by
  simp only [maxBlocks, modulus]
  split <;> split <;> omega

end Config

/-! ## Numbers -/

/-- `BlockSequence_NextSequence` and `BlockSequence_CircularNext`. -/
def nextSequence (current : Sequence) : Sequence :=
  current + 1

namespace BlockSequence

/-- `SolidSyslogBlockSequence_Initialise`. -/
def initial : BlockSequence where
  atCapacity := false
  thresholdCrossed := false
  oldestSequence := 0
  readSequence := 0
  writeSequence := 0
  readCursor := 0
  readBlockSize := 0
  readBlockSizeKnown := false
  writePosition := 0
  writeBlockCorrupt := false
  deviceFailed := false
  evictedUnsent := false
  failedOperation := .max
  blockPresent := fun _ => false

/-- `BlockSequence_BlockCount`. -/
def blockCount (s : BlockSequence) : Nat :=
  ahead s.oldestSequence s.writeSequence + 1

/-- `SolidSyslogBlockSequence_ReadIsBehindWrite`. -/
def readIsBehindWrite (s : BlockSequence) : Bool :=
  s.readSequence != s.writeSequence

/-- `BlockSequence_IsReadBlockActiveWrite`. -/
def isReadBlockActiveWrite (s : BlockSequence) : Bool :=
  s.readSequence == s.writeSequence

/-- `SolidSyslogBlockSequence_HasUnsent`. -/
def hasUnsent (s : BlockSequence) : Bool :=
  s.readIsBehindWrite || s.readCursor < s.writePosition

/-- `SolidSyslogBlockSequence_TotalBytes`, in `size_t`. -/
def totalBytes (C : Config) : Nat :=
  (C.maxBlocks * C.maxBlockSize) % 2 ^ C.tunables.sizeBits

/-- `SolidSyslogBlockSequence_UsedBytes`, in `size_t`. -/
def usedBytes (C : Config) (s : BlockSequence) : Nat :=
  if s.atCapacity then totalBytes C
  else ((s.blockCount - 1) * C.maxBlockSize + s.writePosition) % 2 ^ C.tunables.sizeBits

/-- `BlockSequence_BlockIsFull`. -/
def blockIsFull (C : Config) (s : BlockSequence) (recordSize : Nat) : Bool :=
  s.writeBlockCorrupt || C.maxBlockSize < s.writePosition + recordSize

/-- `BlockSequence_ExceedsMaxBlocks`. -/
def exceedsMaxBlocks (C : Config) (s : BlockSequence) : Bool :=
  C.maxBlocks < s.blockCount

/-- `BlockSequence_NoteDeviceFailure`: the first failure is the one named. -/
def noteDeviceFailure (s : BlockSequence) (failedOperation : BlockStoreError) : BlockSequence :=
  if s.deviceFailed then s
  else { s with deviceFailed := true, failedOperation := failedOperation }

/-- `BlockSequence_StartReadingBlock`. -/
def startReadingBlock (s : BlockSequence) (readSequence : Sequence) : BlockSequence :=
  { s with readSequence := readSequence, readCursor := 0, readBlockSizeKnown := false }

/-- `BlockSequence_AdvanceWriteToNewBlock`. -/
def advanceWriteToNewBlock (s : BlockSequence) (nextSequence : Sequence) : BlockSequence :=
  { s with writeSequence := nextSequence, writePosition := 0, writeBlockCorrupt := false }

/-- `SolidSyslogBlockSequence_SetReadCursor`. -/
def setReadCursor (s : BlockSequence) (cursor : Nat) : BlockSequence :=
  { s with readCursor := cursor }

/-- `SolidSyslogBlockSequence_MarkWriteBlockCorrupt`. -/
def markWriteBlockCorrupt (s : BlockSequence) : BlockSequence :=
  { s with writeBlockCorrupt := true }

/-- The loop of `BlockSequence_NextPresentSequence`, for `fuel` turns; `none` once it has been round
the whole space. -/
def nextPresent (present : Sequence → Bool) (next : Sequence) : Nat → Option Sequence
  | 0 => none
  | fuel + 1 => if present next then some next else nextPresent present (nextSequence next) fuel

end BlockSequence

/-! ## The run on the media -/

/-- `struct Gap`. -/
structure Gap where
  start : Sequence
  length : Nat

/-- A gap made longer by an absent number, or begun by it. -/
def Gap.grow (gap : Gap) (index : Sequence) : Gap :=
  ⟨if gap.length = 0 then index else gap.start, gap.length + 1⟩

/-- One step of the walk of `BlockSequence_LocateRunBoundaries`: the largest gap and the current
one. -/
def widen (present : Sequence → Bool) (gaps : Gap × Gap) (index : Sequence) : Gap × Gap :=
  if present index then (gaps.1, { gaps.2 with length := 0 })
  else
    (if gaps.1.length < (gaps.2.grow index).length then gaps.2.grow index else gaps.1,
      gaps.2.grow index)

/-- The walk, for the steps that are left from an index. -/
def walk (present : Sequence → Bool) : Nat → Sequence → Gap × Gap → Gap × Gap
  | 0, _, gaps => gaps
  | steps + 1, index, gaps =>
    walk present steps (nextSequence index) (widen present gaps (nextSequence index))

/-- The largest gap of the walk once round the space from just after a present block. -/
def largestGap (present : Sequence → Bool) (lastPresent : Sequence) : Gap :=
  (walk present modulus lastPresent (⟨0, 0⟩, ⟨0, 0⟩)).1

/-- `BlockSequence_LocateRunBoundaries`, oldest and newest, with the caller's defaults. -/
def locateRunBoundaries (present : Sequence → Bool) (lastPresent : Sequence) :
    Sequence × Sequence :=
  let largest := largestGap present lastPresent
  if 0 < largest.length then
    (largest.start + Fin.ofNat modulus largest.length, largest.start - 1)
  else (0, 99)

/-! ## Operations -/

variable {σ : Type}

/-- The sequence and what it runs on. -/
structure SequenceState (σ : Type) where
  seq : BlockSequence
  world : World σ

namespace BlockSequence

/-- An operation of the sequence. -/
abbrev Action (σ : Type) := StateM (SequenceState σ)

variable (P : Platform σ) (C : Config)

def ask (request : Request) : Action σ request.Answer :=
  zoom SequenceState.world (fun s w => { s with world := w }) (World.ask P request)

def note (event : Event) : Action σ Unit :=
  zoom SequenceState.world (fun s w => { s with world := w }) (World.note event)

/-- A change to the sequence's own fields. -/
def setSeq (change : BlockSequence → BlockSequence) : Action σ Unit :=
  modify fun s => { s with seq := change s.seq }

def seq : Action σ BlockSequence := do
  return (← get).seq

/-- The run of blocks as it now stands goes into the trace. -/
def noteRun : Action σ Unit := do
  note (.run (← seq).oldestSequence (← seq).writeSequence)

/-- `BlockSequence_NotifyThresholdCrossed`. -/
def notifyThresholdCrossed : Action σ Unit := do
  if C.hasThreshold then
    let threshold ← ask P .getCapacityThreshold
    if threshold = 0 ∨ usedBytes C (← seq) < threshold then
      setSeq fun s => { s with thresholdCrossed := false }
    else if !(← seq).thresholdCrossed then
      setSeq fun s => { s with thresholdCrossed := true }
      let _ ← ask P (.report .warning .storeThresholdCrossed .thresholdCrossed)
      let _ ← ask P .onThresholdCrossed

/-- `BlockSequence_AcquireBlock`. -/
def acquireBlock (block : Sequence) : Action σ Bool := do
  let acquired ← ask P (.acquire block)
  if acquired then
    setSeq fun s => { s with blockPresent := Function.update s.blockPresent block true }
  return acquired

/-- `BlockSequence_DisposeBlock`. -/
def disposeBlock (block : Sequence) : Action σ Bool := do
  let disposed ← ask P (.dispose block)
  if disposed then
    setSeq fun s => { s with blockPresent := Function.update s.blockPresent block false }
  return disposed

/-- `BlockSequence_NextPresentSequence`. -/
def nextPresentSequence (current : Sequence) : Action σ Sequence := do
  match nextPresent (← seq).blockPresent (nextSequence current) modulus with
  | some next => return next
  | none =>
    note .endless
    return current

/-- The scan of `BlockSequence_ScanForBlockPresence` over the numbers left, with the last present
block so far. -/
def scanForBlockPresence (lastPresent : Option Sequence) :
    List Sequence → Action σ (Option Sequence)
  | [] => return lastPresent
  | block :: rest => do
    let present ← ask P (.blockExists block)
    setSeq fun s => { s with blockPresent := Function.update s.blockPresent block present }
    scanForBlockPresence (if present then some block else lastPresent) rest

/-- `BlockSequence_ScanForExistingBlocks`. -/
@[irreducible] def scanForExistingBlocks : Action σ Bool := do
  match ← scanForBlockPresence P none (List.finRange modulus) with
  | none => return false
  | some lastPresent =>
    let run := locateRunBoundaries (← seq).blockPresent lastPresent
    setSeq fun s => { s with oldestSequence := run.1 }
    setSeq fun s => s.startReadingBlock run.1
    setSeq fun s => { s with writeSequence := run.2 }
    return true

/-- `SolidSyslogBlockSequence_Open`. -/
def openBlocks : Action σ Bool := do
  if ← scanForExistingBlocks P then
    noteRun
    let size ← ask P (.size (← seq).writeSequence)
    match size with
    | some writePosition =>
      setSeq fun s => { s with writePosition := writePosition }
      notifyThresholdCrossed P C
      return true
    | none =>
      setSeq fun s => s.noteDeviceFailure .sizeFailed
      return false
  else if ← acquireBlock P 0 then
    noteRun
    notifyThresholdCrossed P C
    return true
  else
    setSeq fun s => s.noteDeviceFailure .openFailed
    return false

/-- `SolidSyslogBlockSequence_ReadBlockSize`: `none` when the device could not say. -/
def readBlockSizeOf : Action σ (Option Nat) := do
  let s ← seq
  if s.isReadBlockActiveWrite then
    return some s.writePosition
  else if s.readBlockSizeKnown then
    return some s.readBlockSize
  else
    let size ← ask P (.size s.readSequence)
    match size with
    | some readBlockSize =>
      setSeq fun s => { s with readBlockSize := readBlockSize, readBlockSizeKnown := true }
      return some readBlockSize
    | none =>
      setSeq fun s => { s with readBlockSizeKnown := false }
      setSeq fun s => s.noteDeviceFailure .sizeFailed
      return none

/-- `BlockSequence_AdvancePastDisposedReadBlock`. -/
def advancePastDisposedReadBlock : Action σ Unit := do
  let next ← nextPresentSequence (← seq).oldestSequence
  setSeq fun s => { s with oldestSequence := next }
  setSeq fun s => s.startReadingBlock s.oldestSequence
  setSeq fun s => { s with atCapacity := false }
  noteRun
  notifyThresholdCrossed P C

/-- `BlockSequence_DisposeReadBlock` and `SolidSyslogBlockSequence_LeaveReadBlock`. -/
def disposeReadBlock : Action σ Bool := do
  if ← disposeBlock P (← seq).readSequence then
    advancePastDisposedReadBlock P C
    return true
  else
    setSeq fun s => s.noteDeviceFailure .disposeFailed
    return false

/-- `SolidSyslogBlockSequence_DisposeReadBlockIfDrained`: whether the read block changed. -/
def disposeReadBlockIfDrained : Action σ Bool := do
  if (← seq).isReadBlockActiveWrite then
    return false
  else
    match ← readBlockSizeOf P with
    | none => return false
    | some readBlockSize =>
      if readBlockSize ≤ (← seq).readCursor then
        disposeReadBlock P C
      else
        return false

/-- `BlockSequence_DiscardOldestBlock`: whether the read block changed. -/
def discardOldestBlock : Action σ Bool := do
  if ← disposeBlock P (← seq).oldestSequence then
    setSeq fun s => { s with evictedUnsent := true }
    let next ← nextPresentSequence (← seq).oldestSequence
    setSeq fun s => { s with oldestSequence := next }
    setSeq fun s => s.startReadingBlock s.oldestSequence
    noteRun
    return true
  else
    setSeq fun s => s.noteDeviceFailure .disposeFailed
    return false

/-- `BlockSequence_AcquireEmptyBlock`. -/
def acquireEmptyBlock (block : Sequence) : Action σ Bool := do
  let stale ← ask P (.blockExists block)
  let cleared ← (if stale then disposeBlock P block else return true)
  if cleared then
    if ← acquireBlock P block then
      return true
    else
      setSeq fun s => s.noteDeviceFailure .rotateFailed
      return false
  else
    setSeq fun s => s.noteDeviceFailure .disposeFailed
    return false

/-- `BlockSequence_RotateToNextBlock`: whether there is a new block, and whether the read block
changed. -/
def rotateToNextBlock : Action σ (Bool × Bool) := do
  let next := nextSequence (← seq).writeSequence
  if ← acquireEmptyBlock P next then
    setSeq fun s => s.advanceWriteToNewBlock next
    setSeq fun s => { s with evictedUnsent := false }
    noteRun
    let drained ← disposeReadBlockIfDrained P C
    if !(← seq).deviceFailed && (← seq).exceedsMaxBlocks C then
      let evicted ← discardOldestBlock P
      return (true, evicted || drained)
    else
      return (true, drained)
  else
    return (false, false)

/-- `BlockSequence_StoreIsFull`: the policy is asked only at the block ceiling. -/
def storeIsFull : Action σ Bool := do
  if C.maxBlocks ≤ (← seq).blockCount then
    let policy ← ask P .getDiscardPolicy
    return policy != .oldest
  else
    return false

/-- `SolidSyslogBlockSequence_PrepareForWrite`: whether there is room, and whether the read block
changed. -/
def prepareForWrite (recordSize : Nat) : Action σ (Bool × Bool) := do
  if (← seq).blockIsFull C recordSize then
    if ← storeIsFull P C then
      setSeq fun s => { s with atCapacity := true }
      notifyThresholdCrossed P C
      return (false, false)
    else
      rotateToNextBlock P C
  else
    return (true, false)

/-- `SolidSyslogBlockSequence_NoteRecordWritten`. -/
def noteRecordWritten (recordSize : Nat) : Action σ Unit := do
  setSeq fun s => { s with writePosition := s.writePosition + recordSize }
  setSeq fun s => { s with atCapacity := false }
  notifyThresholdCrossed P C

end BlockSequence

end SolidSyslog.Store
