import SolidSyslog.Store.Bounds.Operations

/-!
# The record store with its buffer

`SolidSyslogRecordStore.c` reads and assembles a record in a buffer of `RECORD_BUFFER_SIZE` bytes,
at addresses it computes from the length of the message, and computes places in a block in `size_t`.
This is the record store again, with the buffer and with sums that wrap, and the block store on top
of it. A write or a span given away beyond the buffer is noted as an overrun.
-/

namespace SolidSyslog.Store

open Lib

variable {σ : Type}

/-- A sum in `size_t`. -/
def Config.toSize (C : Config) (n : Nat) : Nat :=
  n % 2 ^ C.tunables.sizeBits

/-! ## The buffer -/

/-- `Buffer` of `struct SolidSyslogRecordStore`, and whether anything beyond it was written or given
away. -/
structure RecordBuffer where
  bytes : Bytes
  overrun : Bool

/-- A span of the buffer is written or given away. -/
def RecordBuffer.touch (b : RecordBuffer) (address count : Nat) : RecordBuffer :=
  { b with overrun := b.overrun || decide (b.bytes.length < address + count) }

/-- Bytes are written into the buffer. -/
def RecordBuffer.put (b : RecordBuffer) (address : Nat) (data : Bytes) : RecordBuffer :=
  { b.touch address data.length with bytes := overwrite b.bytes address data }

/-- `RecordStore_MagicAddress` and `RecordStore_ContentAddress`. -/
def magicAddress : Nat := 0

/-- `RecordStore_LengthAddress`. -/
def lengthAddress : Nat := magicAddress + 2

/-- `RecordStore_MessageAddress`. -/
def messageAddress : Nat := lengthAddress + 2

/-- `RecordStore_TrailerAddress`. -/
def trailerAddress (dataSize : Nat) : Nat :=
  messageAddress + dataSize

/-- `RecordStore_SentFlagAddress`. -/
def Config.sentFlagAddress (C : Config) (dataSize : Nat) : Nat :=
  trailerAddress dataSize + C.trailerSize

/-- `RecordStore_ContentSize`, in `uint16_t`. -/
def contentSize (dataSize : Nat) : Nat :=
  toUint16 (2 + 2 + dataSize)

/-- A record store with its buffer. -/
structure BufferedRecords (σ : Type) where
  store : RecordState σ
  buffer : RecordBuffer

namespace BufferedRecords

abbrev Action (σ : Type) := StateM (BufferedRecords σ)

variable (P : Platform σ) (C : Config)

/-- What does not touch the buffer. -/
def onStore {α : Type} (action : RecordStore.Action σ α) : Action σ α :=
  zoom store (fun s t => { s with store := t }) action

def note (event : Event) : Action σ Unit :=
  onStore (zoom RecordState.world (fun s w => { s with world := w }) (World.note event))

def put (address : Nat) (data : Bytes) : Action σ Unit :=
  modify fun s => { s with buffer := s.buffer.put address data }

/-- A span of the buffer that is read, or given to someone else. -/
def give (address count : Nat) : Action σ Bytes :=
  modifyGet fun s =>
    (span s.buffer.bytes address count, { s with buffer := s.buffer.touch address count })

/-! ## Places in a block -/

/-- `SolidSyslogRecordStore_RecordSize`. -/
def recordSize (dataLength : Nat) : Nat :=
  C.toSize (2 + 2 + dataLength + C.trailerSize + 1)

/-- `RecordStore_TrailerOffset`. -/
def trailerOffset (recordStart dataLength : Nat) : Nat :=
  C.toSize (recordStart + 2 + 2 + dataLength)

/-- `RecordStore_SentFlagOffset`. -/
def sentFlagOffset (recordStart dataLength : Nat) : Nat :=
  C.toSize (trailerOffset C recordStart dataLength + C.trailerSize)

/-- `RecordStore_SpanIsWithinData`. -/
def spanIsWithinData (offset count dataSize : Nat) : Bool :=
  C.toSize (offset + count) ≤ dataSize

/-! ## Assembling -/

/-- `RecordStore_AssembleRecord`. -/
def assembleRecord (data : Bytes) : Action σ Bool := do
  let length := toUint16 data.length
  put magicAddress [magicByte0, magicByte1]
  put lengthAddress [UInt8.ofNat (length &&& 0xFF), UInt8.ofNat ((length >>> 8) &&& 0xFF)]
  put messageAddress data
  let content ← give magicAddress (contentSize data.length)
  let outcome ← onStore (RecordStore.ask P (.sealRecord content))
  match outcome with
  | some (content', trailer) =>
    put magicAddress (fit content.length content')
    put (trailerAddress data.length) (fit C.trailerSize trailer)
    put (C.sentFlagAddress data.length) [sentFlagUnsent]
    return true
  | none =>
    put (C.sentFlagAddress data.length) [sentFlagUnsent]
    return false

/-- `SolidSyslogRecordStore_Append`. -/
def append (block : Sequence) (data : Bytes) : Action σ AppendResult := do
  if ← assembleRecord P C data then
    let bytes ← give magicAddress (recordSize C (toUint16 data.length))
    let appended ← onStore (RecordStore.ask P (.append block bytes))
    return if appended then .succeeded else .deviceFailed
  else
    return .sealFailed

/-! ## Reading -/

/-- `RecordStore_ReadSpan` into memory of the caller's. -/
def readSpanOut (block : Sequence) (offset count dataSize : Nat) :
    Action σ (Except ReadResult Bytes) := do
  if spanIsWithinData C offset count dataSize then
    let bytes ← onStore (RecordStore.ask P (.read block offset count))
    match bytes with
    | some bytes => return .ok (fit count bytes)
    | none => return .error .deviceFailed
  else
    return .error .corrupt

/-- `RecordStore_ReadSpan` into the buffer: what went wrong, if anything. -/
def readSpan (block : Sequence) (offset address count dataSize : Nat) :
    Action σ (Option ReadResult) := do
  match ← readSpanOut P C block offset count dataSize with
  | .ok bytes =>
    put address bytes
    return none
  | .error result => return some result

/-- `RecordStore_ReadHeader`. -/
def readHeader (block : Sequence) (offset dataSize : Nat) : Action σ (Except ReadResult Nat) := do
  if offset < dataSize then
    match ← readSpan P C block offset magicAddress contentHeaderSize dataSize with
    | none =>
      match C.validateHeader (← give magicAddress contentHeaderSize) with
      | some length => return .ok length
      | none => return .error .corrupt
    | some result => return .error result
  else
    return .error .endOfData

/-- `RecordStore_ReadRecordExtent`. -/
def readRecordExtent (block : Sequence) (offset dataSize : Nat) :
    Action σ (Except ReadResult Nat) := do
  match ← readHeader P C block offset dataSize with
  | .ok length =>
    return if spanIsWithinData C offset (recordSize C length) dataSize then .ok length
      else .error .corrupt
  | .error result => return .error result

/-- `RecordStore_OpenRecord`. -/
def openRecord (length : Nat) : Action σ ReadResult := do
  let content ← give magicAddress (contentSize length)
  let trailer ← give (trailerAddress length) C.trailerSize
  let outcome ← onStore (RecordStore.ask P (.openRecord content trailer))
  put magicAddress (fit content.length outcome.2)
  match outcome.1 with
  | .opened => return .succeeded
  | .rejected => return .rejected
  | .couldNotRun => return .couldNotOpen

/-- `RecordStore_ReadAndValidateRecord` after the extent. -/
def validateRecord (block : Sequence) (offset dataSize length : Nat) : Action σ ReadResult := do
  match ← readSpan P C block (C.toSize (offset + contentHeaderSize)) messageAddress length
      dataSize with
  | some result => return result
  | none =>
    match ← readSpan P C block (trailerOffset C offset length) (trailerAddress length)
        (C.toSize (C.trailerSize + 1)) dataSize with
    | some result => return result
    | none =>
      let flag ← give (C.sentFlagAddress length) 1
      if flagMarksSentOrDiscarded (flag.getD 0 sentFlagUnsent) then
        return .finishedWith
      else
        openRecord P C length

/-- `SolidSyslogRecordStore_Read`. -/
def read (block : Sequence) (offset dataSize maxSize : Nat) : Action σ RecordStore.Found := do
  match ← readRecordExtent P C block offset dataSize with
  | .error result => return ⟨result, 0, []⟩
  | .ok length =>
    let result ← validateRecord P C block offset dataSize length
    if RecordStore.recordExtentIsKnown result then
      onStore (RecordStore.setRecords fun _ => ⟨true, block, sentFlagOffset C offset length⟩)
    if result = .succeeded then
      let bytes ← give messageAddress (if length < maxSize then length else maxSize)
      return ⟨result, length, bytes⟩
    else
      return ⟨result, length, []⟩

/-! ## The walk at a restart -/

/-- The loop of `SolidSyslogRecordStore_FindFirstUnsent`. A walk that is still inside the block when
its turns are used up is noted: there are as many as the block has bytes, so it has come to a place
where it was before. -/
def findFirstUnsentLoop (block : Sequence) (blockSize cursor : Nat) :
    Nat → Action σ (Nat × ScanResult)
  | 0 => do
    if cursor < blockSize then
      note .endless
    return (cursor, .clean)
  | fuel + 1 => do
    if cursor < blockSize then
      match ← readRecordExtent P C block cursor blockSize with
      | .error .deviceFailed => return (blockSize, .deviceFailed)
      | .error .corrupt => return (blockSize, .corrupt)
      | .error _ => return (cursor, .clean)
      | .ok length =>
        match ← readSpanOut P C block (sentFlagOffset C cursor length) 1 blockSize with
        | .error .deviceFailed => return (blockSize, .deviceFailed)
        | .error .corrupt => return (blockSize, .corrupt)
        | .error _ => return (cursor, .clean)
        | .ok flag =>
          if flagMarksSentOrDiscarded (flag.getD 0 sentFlagUnsent) then
            findFirstUnsentLoop block blockSize (C.toSize (cursor + recordSize C length)) fuel
          else
            return (cursor, .clean)
    else
      return (cursor, .clean)

/-- `SolidSyslogRecordStore_FindFirstUnsent`. -/
def findFirstUnsent (block : Sequence) (blockSize : Nat) : Action σ (Nat × ScanResult) :=
  findFirstUnsentLoop P C block blockSize 0 blockSize

/-- The loop of `SolidSyslogRecordStore_ScanToEnd`, with the same note. -/
def scanToEndLoop (block : Sequence) (blockSize position : Nat) : Nat → Action σ ScanResult
  | 0 => do
    if position < blockSize then
      note .endless
    return .clean
  | fuel + 1 => do
    if position < blockSize then
      match ← readRecordExtent P C block position blockSize with
      | .ok length =>
        scanToEndLoop block blockSize (C.toSize (position + recordSize C length)) fuel
      | .error .deviceFailed => return .deviceFailed
      | .error _ => return .corrupt
    else
      return .clean

/-- `SolidSyslogRecordStore_ScanToEnd`. -/
def scanToEnd (block : Sequence) (cursor blockSize : Nat) : Action σ ScanResult :=
  scanToEndLoop P C block blockSize cursor blockSize

end BufferedRecords

/-! ## The block store on top -/

/-- A block store with the buffer of its record store. -/
structure BufferedStore (σ : Type) where
  store : BlockStore σ
  buffer : RecordBuffer

namespace BufferedStore

abbrev Action (σ : Type) := StateM (BufferedStore σ)

/-- What does not touch the buffer. -/
def onStore {α : Type} (action : BlockStore.Action σ α) : Action σ α :=
  zoom store (fun s t => { s with store := t }) action

/-- An operation of the record store. -/
def onRecords {α : Type} (action : BufferedRecords.Action σ α) : Action σ α :=
  zoom (fun s => ⟨⟨s.store.records, s.store.world⟩, s.buffer⟩)
    (fun s t => ⟨{ s.store with records := t.store.records, world := t.store.world }, t.buffer⟩)
    action

def seqOf : Action σ BlockSequence :=
  onStore BlockStore.seqOf

variable (P : Platform σ) (C : Config)

/-- The append of `BlockStore_StoreRecord` and what follows it. -/
def appendRecord (recordSize : Nat) (data : Bytes) : Action σ StoreWriteResult := do
  let appended ← onRecords (BufferedRecords.append P C (← seqOf).writeSequence data)
  onStore (BlockStore.settleAppend P C recordSize appended)

/-- `BlockStore_StoreRecord`. -/
def storeRecord (data : Bytes) : Action σ StoreWriteResult := do
  let recordSize := C.recordSize (toUint16 data.length)
  let (prepared, readBlockChanged) ←
    onStore (BlockStore.onSeq (BlockSequence.prepareForWrite P C recordSize))
  if ← onStore (BlockStore.freezeIfDeviceFailed P) then
    return .notRetained
  else if !prepared then
    onStore (BlockStore.reportRefusal P)
    return .notRetained
  else
    onStore (BlockStore.reportEviction P)
    if readBlockChanged then
      onStore (BlockStore.onRecords RecordStore.forgetLastRead)
    appendRecord P C recordSize data

/-- `BlockStore_Write`, or the null store's. -/
def write (data : Bytes) : Action σ StoreWriteResult := do
  if (← onStore get).frozen then
    return .notRetained
  else if 0 < data.length then
    storeRecord P C data
  else
    return .notRetained

/-- `BlockStore_ReadCurrent`. -/
def readCurrent (maxSize : Nat) : Action σ RecordStore.Found := do
  match ← onStore (BlockStore.onSeq (BlockSequence.readBlockSizeOf P)) with
  | some readBlockSize =>
    let seq ← seqOf
    onRecords (BufferedRecords.read P C seq.readSequence seq.readCursor readBlockSize maxSize)
  | none => return ⟨.deviceFailed, 0, []⟩

/-- The loop of `BlockStore_ReadNextUnsent`. -/
def readLoop (maxSize : Nat) : Nat → Action σ (Option RecordStore.Found)
  | 0 => return none
  | fuel + 1 => do
    let found ← readCurrent P C maxSize
    if ← onStore (BlockStore.stepPast P C found) then
      readLoop maxSize fuel
    else
      return some found

/-- `BlockStore_ReadNextUnsent`, or the null store's. -/
def readNextUnsent (fuel maxSize : Nat) : Action σ (Option (Option Bytes)) := do
  if (← onStore get).frozen then
    return some none
  else if (← seqOf).hasUnsent then
    match ← readLoop P C maxSize fuel with
    | none => return none
    | some found =>
      onStore (BlockStore.settleRead P found)
      return some (if 0 < found.bytes.length then some found.bytes else none)
  else
    return some none

/-- `BlockStore_ScanReadBlock`. -/
def scanReadBlock : Action σ ScanResult := do
  match ← onStore (BlockStore.onSeq (BlockSequence.readBlockSizeOf P)) with
  | some readBlockSize =>
    let (cursor, scanned) ←
      onRecords (BufferedRecords.findFirstUnsent P C (← seqOf).readSequence readBlockSize)
    onStore (modify fun s => { s with seq := s.seq.setReadCursor cursor })
    if scanned == .deviceFailed then
      onStore (BlockStore.freeze P .readFailed)
    return scanned
  | none =>
    onStore (BlockStore.freeze P .sizeFailed)
    return .deviceFailed

/-- `BlockStore_CheckWriteBlock`. -/
def checkWriteBlock : Action σ Unit := do
  let seq ← seqOf
  let start := if seq.readIsBehindWrite then 0 else seq.readCursor
  match ← onRecords (BufferedRecords.scanToEnd P C seq.writeSequence start seq.writePosition) with
  | .deviceFailed => onStore (BlockStore.freeze P .readFailed)
  | .corrupt => onStore (modify fun s => { s with seq := s.seq.markWriteBlockCorrupt })
  | .clean => return ()

/-- The loop of `BlockStore_ResumeFromExistingBlock`. -/
def resumeLoop : Nat → Action σ ScanResult
  | 0 => do
    onStore (BlockStore.note .endless)
    return .clean
  | fuel + 1 => do
    let scanned ← scanReadBlock P C
    if scanned == .corrupt then
      if ← onStore (BlockStore.abandonRestOfReadBlock P C) then
        resumeLoop fuel
      else
        return scanned
    else
      return scanned

/-- `BlockStore_ResumeFromExistingBlock`. -/
def resumeFromExistingBlock : Action σ Unit := do
  let scanned ← resumeLoop P C (modulus + 1)
  if scanned != .deviceFailed && !(← seqOf).deviceFailed then
    checkWriteBlock P C

/-- `SolidSyslogBlockStore_Initialise`. -/
def initialise : Action σ Unit := do
  if ← onStore (BlockStore.onSeq (BlockSequence.openBlocks P C)) then
    resumeFromExistingBlock P C
  else
    onStore (BlockStore.freeze P (← seqOf).failedOperation)

/-- `SolidSyslogBlockStore_Create` on a configuration it accepts. -/
def create : Action σ Unit := do
  if C.deviceBlockSize < C.recordSize C.tunables.maxMessageSize then
    onStore (BlockStore.report P .warning (.unreported 1) .blockTooSmall)
  initialise P C

/-- One call of the store. -/
def perform {C : Config} (fuel : Nat) : BlockStore.Op C → Action σ BlockStore.Answer
  | .write message => do return .wrote (← write P C message.bytes)
  | .readNextUnsent maxSize => do
    match ← readNextUnsent P C fuel maxSize with
    | some bytes => return .read bytes
    | none => return .unfinished
  | .markSent => do
    onStore (BlockStore.markSent P C)
    return .marked
  | .hasUnsent => do return .verdict (← onStore get).hasUnsent
  | .isTransient => do return .verdict (← onStore get).isTransient

/-- One call of the store. A read that never returns answers `unfinished` for every fuel. -/
def Step {C : Config} (s : BufferedStore σ) (op : BlockStore.Op C) (answer : BlockStore.Answer)
    (s' : BufferedStore σ) : Prop :=
  ∃ fuel, perform P fuel op s = (answer, s')

/-- The store as `SolidSyslogBlockStore_Create` leaves it, on what it finds outside and in the
memory of its buffer. -/
def created (env : σ) (buffer : Bytes) : BufferedStore σ :=
  (create P C ⟨.initial ⟨env, []⟩, ⟨buffer, false⟩⟩).2

end BufferedStore

end SolidSyslog.Store
