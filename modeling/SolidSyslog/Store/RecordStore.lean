import SolidSyslog.Store.BlockSequence

/-!
# Records on the media

`SolidSyslogRecordStore.c`: how a record is laid out in a block, how one is read back and checked,
and the walk over a block's records at a restart. Places in a block are sums of natural numbers
here: `Store.Buffered` has them wrap as the code's do, and `BufferedStore.run_mirrors` says that it
makes no difference where the sizes leave room for a record below the top of `size_t`.
-/

namespace SolidSyslog.Store

open Lib

variable {σ : Type}

/-- `struct SolidSyslogRecordStore`, less the buffer a record is assembled or read in, which no
operation reads before it has filled it. -/
structure RecordStore where
  hasReadRecord : Bool
  lastReadBlockIndex : Sequence
  lastSentFlagOffset : Nat

/-- `SolidSyslogRecordStore_Initialise`. -/
def RecordStore.initial : RecordStore :=
  ⟨false, 0, 0⟩

/-- `enum SolidSyslogRecordStoreReadResult`. -/
inductive ReadResult where
  | succeeded
  | endOfData
  | corrupt
  | rejected
  | finishedWith
  | couldNotOpen
  | deviceFailed
  deriving DecidableEq, Repr

/-- `enum SolidSyslogRecordStoreScanResult`. -/
inductive ScanResult where
  | clean
  | corrupt
  | deviceFailed
  deriving DecidableEq, Repr

/-- `enum SolidSyslogRecordStoreAppendResult`. -/
inductive AppendResult where
  | succeeded
  | sealFailed
  | deviceFailed
  deriving DecidableEq, Repr

/-- `enum SolidSyslogRecordStoreMarkResult`; a mark that succeeded says where the next record
is. -/
inductive MarkResult where
  | nothingRead
  | deviceFailed
  | succeeded (nextCursor : Nat)
  deriving DecidableEq, Repr

/-! ## The layout of a record -/

/-- `MAGIC_SIZE + RECORD_LENGTH_SIZE`. -/
def contentHeaderSize : Nat := 4

def magicByte0 : UInt8 := 0xA5
def magicByte1 : UInt8 := 0x5A
def sentFlagUnsent : UInt8 := 0xFF
def sentFlagSent : UInt8 := 0x00
def sentFlagDiscarded : UInt8 := 0x0F

/-- Magic and length, as `RecordStore_AssembleRecord` packs them. -/
def header (length : Nat) : Bytes :=
  [magicByte0, magicByte1, UInt8.ofNat (length &&& 0xFF), UInt8.ofNat ((length >>> 8) &&& 0xFF)]

/-- `RecordStore_FlagMarksSentOrDiscarded`. -/
def flagMarksSentOrDiscarded (flag : UInt8) : Bool :=
  flag == sentFlagSent || flag == sentFlagDiscarded

/-- `RecordStore_TrailerOffset`. -/
def trailerOffset (recordStart dataLength : Nat) : Nat :=
  recordStart + contentHeaderSize + dataLength

/-- `RecordStore_SentFlagOffset`. -/
def Config.sentFlagOffset (C : Config) (recordStart dataLength : Nat) : Nat :=
  trailerOffset recordStart dataLength + C.trailerSize

/-- `RecordStore_ValidateHeader`: the length of the message, from a header that is one. -/
def Config.validateHeader (C : Config) (bytes : Bytes) : Option Nat :=
  match bytes with
  | [m0, m1, l0, l1] =>
    let length := l0.toNat ||| (l1.toNat <<< 8)
    if m0 = magicByte0 ∧ m1 = magicByte1 ∧ 0 < length ∧ length ≤ C.tunables.maxMessageSize then
      some length
    else none
  | _ => none

/-! ## Operations -/

/-- The record store and what it runs on. -/
structure RecordState (σ : Type) where
  records : RecordStore
  world : World σ

namespace RecordStore

/-- An operation of the record store. -/
abbrev Action (σ : Type) := StateM (RecordState σ)

variable (P : Platform σ) (C : Config)

def ask (request : Request) : Action σ request.Answer :=
  zoom RecordState.world (fun s w => { s with world := w }) (World.ask P request)

def setRecords (change : RecordStore → RecordStore) : Action σ Unit :=
  modify fun s => { s with records := change s.records }

def records : Action σ RecordStore := do
  return (← get).records

/-- `RecordStore_AssembleRecord`: the record's bytes, if the policy seals it. -/
def assembleRecord (data : Bytes) : Action σ (Option Bytes) := do
  let content := header (toUint16 data.length) ++ data
  let outcome ← ask P (.sealRecord content)
  match outcome with
  | some (content', trailer) =>
    return some (fit content.length content' ++ fit C.trailerSize trailer ++ [sentFlagUnsent])
  | none => return none

/-- `SolidSyslogRecordStore_Append`. -/
def append (block : Sequence) (data : Bytes) : Action σ AppendResult := do
  match ← assembleRecord P C data with
  | some bytes =>
    let appended ← ask P (.append block bytes)
    return if appended then .succeeded else .deviceFailed
  | none => return .sealFailed

/-- `RecordStore_ReadSpan`: the bytes, or why there are none. -/
def readSpan (block : Sequence) (offset count dataSize : Nat) :
    Action σ (Except ReadResult Bytes) := do
  if offset + count ≤ dataSize then
    let bytes ← ask P (.read block offset count)
    match bytes with
    | some bytes => return .ok (fit count bytes)
    | none => return .error .deviceFailed
  else
    return .error .corrupt

/-- `RecordStore_ReadHeader`: the length of the message. -/
def readHeader (block : Sequence) (offset dataSize : Nat) : Action σ (Except ReadResult Nat) := do
  if offset < dataSize then
    match ← readSpan P block offset contentHeaderSize dataSize with
    | .ok bytes =>
      match C.validateHeader bytes with
      | some length => return .ok length
      | none => return .error .corrupt
    | .error result => return .error result
  else
    return .error .endOfData

/-- `RecordStore_ReadRecordExtent`: the length of a message that lies whole in the data. -/
def readRecordExtent (block : Sequence) (offset dataSize : Nat) :
    Action σ (Except ReadResult Nat) := do
  match ← readHeader P C block offset dataSize with
  | .ok length =>
    return if offset + C.recordSize length ≤ dataSize then .ok length else .error .corrupt
  | .error result => return .error result

/-- `RecordStore_OpenRecord`: the verdict, and the message as the policy left it. -/
def openRecord (content trailer : Bytes) : Action σ (ReadResult × Bytes) := do
  let outcome ← ask P (.openRecord content trailer)
  let message := (fit content.length outcome.2).drop contentHeaderSize
  match outcome.1 with
  | .opened => return (.succeeded, message)
  | .rejected => return (.rejected, message)
  | .couldNotRun => return (.couldNotOpen, message)

/-- The part of `RecordStore_ReadAndValidateRecord` after the extent: the message, the trailer with
the flag, and then the policy's verdict. -/
def validateRecord (block : Sequence) (offset dataSize length : Nat) :
    Action σ (ReadResult × Bytes) := do
  match ← readSpan P block (offset + contentHeaderSize) length dataSize with
  | .error result => return (result, [])
  | .ok message =>
    match ← readSpan P block (trailerOffset offset length) (C.trailerSize + 1) dataSize with
    | .error result => return (result, [])
    | .ok tail =>
      if flagMarksSentOrDiscarded (tail.getD C.trailerSize sentFlagUnsent) then
        return (.finishedWith, [])
      else
        openRecord P (header length ++ message) (tail.take C.trailerSize)

/-- `RecordStore_RememberCurrentRecord`. -/
def rememberCurrentRecord (block : Sequence) (offset length : Nat) : Action σ Unit :=
  setRecords fun _ => ⟨true, block, C.sentFlagOffset offset length⟩

/-- What `SolidSyslogRecordStore_Read` found: the result, the length its header gave, and the bytes
copied out. -/
structure Found where
  result : ReadResult
  length : Nat
  bytes : Bytes

/-- `RecordStore_RecordExtentIsKnown`. -/
def recordExtentIsKnown (result : ReadResult) : Bool :=
  result == .succeeded || result == .rejected || result == .finishedWith

/-- `SolidSyslogRecordStore_Read`. -/
def read (block : Sequence) (offset dataSize maxSize : Nat) : Action σ Found := do
  match ← readRecordExtent P C block offset dataSize with
  | .error result => return ⟨result, 0, []⟩
  | .ok length =>
    let (result, message) ← validateRecord P C block offset dataSize length
    if recordExtentIsKnown result then
      rememberCurrentRecord C block offset length
    return ⟨result, length, if result = .succeeded then message.take maxSize else []⟩

/-- `SolidSyslogRecordStore_MarkLastReadAsSent`. -/
def markLastReadAsSent : Action σ MarkResult := do
  let last ← records
  if last.hasReadRecord then
    let written ←
      ask P (.writeAt last.lastReadBlockIndex last.lastSentFlagOffset [sentFlagSent])
    if written then
      setRecords fun r => { r with hasReadRecord := false }
      return .succeeded (last.lastSentFlagOffset + 1)
    else
      return .deviceFailed
  else
    return .nothingRead

/-- `SolidSyslogRecordStore_StepPastLastRead`. -/
def stepPastLastRead : Action σ Nat := do
  setRecords fun r => { r with hasReadRecord := false }
  return (← records).lastSentFlagOffset + 1

/-- `SolidSyslogRecordStore_ForgetLastRead`. -/
def forgetLastRead : Action σ Unit :=
  setRecords fun r => { r with hasReadRecord := false }

/-! ## The walk at a restart -/

/-- The loop of `SolidSyslogRecordStore_FindFirstUnsent` with `RecordStore_AdvancePastSentRecord`
as its body: where the cursor comes to rest and what the scan found. Each turn passes a record, so
as many turns as the block has bytes are enough. -/
def findFirstUnsentLoop (block : Sequence) (blockSize cursor : Nat) :
    Nat → Action σ (Nat × ScanResult)
  | 0 => return (cursor, .clean)
  | fuel + 1 => do
    if cursor < blockSize then
      match ← readRecordExtent P C block cursor blockSize with
      | .error .deviceFailed => return (blockSize, .deviceFailed)
      | .error .corrupt => return (blockSize, .corrupt)
      | .error _ => return (cursor, .clean)
      | .ok length =>
        match ← readSpan P block (C.sentFlagOffset cursor length) 1 blockSize with
        | .error .deviceFailed => return (blockSize, .deviceFailed)
        | .error .corrupt => return (blockSize, .corrupt)
        | .error _ => return (cursor, .clean)
        | .ok flag =>
          if flagMarksSentOrDiscarded (flag.getD 0 sentFlagUnsent) then
            findFirstUnsentLoop block blockSize (cursor + C.recordSize length) fuel
          else
            return (cursor, .clean)
    else
      return (cursor, .clean)

/-- `SolidSyslogRecordStore_FindFirstUnsent`. -/
def findFirstUnsent (block : Sequence) (blockSize : Nat) : Action σ (Nat × ScanResult) :=
  findFirstUnsentLoop P C block blockSize 0 blockSize

/-- The loop of `SolidSyslogRecordStore_ScanToEnd`, with as many turns as the block has bytes. -/
def scanToEndLoop (block : Sequence) (blockSize position : Nat) : Nat → Action σ ScanResult
  | 0 => return .clean
  | fuel + 1 => do
    if position < blockSize then
      match ← readRecordExtent P C block position blockSize with
      | .ok length => scanToEndLoop block blockSize (position + C.recordSize length) fuel
      | .error .deviceFailed => return .deviceFailed
      | .error _ => return .corrupt
    else
      return .clean

/-- `SolidSyslogRecordStore_ScanToEnd`. -/
def scanToEnd (block : Sequence) (cursor blockSize : Nat) : Action σ ScanResult :=
  scanToEndLoop P C block blockSize cursor blockSize

end RecordStore

end SolidSyslog.Store
