import SolidSyslog.Basic
import SolidSyslog.Lib.Span

/-!
# The ring buffer

`SolidSyslogCircularBuffer.c`: records behind a two-byte length, laid back to back in the
caller's ring. A record is never split over the end of the ring: the tail wraps to the front
and `WrapPoint` marks where the records behind it stop.

Ring memory is the list of its bytes. An access outside it is the fault `outOfRing`, and an
eviction loop that would run on past every record the ring can hold is the fault `endless`, so
an operation that returns has touched only its ring and its loop has ended. The mutex brackets
each operation whole, so an operation is one step here. The report an operation raises after
the unlock is returned with its result.
-/

namespace SolidSyslog.Buffer

open Lib

/-- What a run of the C code must not do. -/
inductive Fault where
  /-- A byte outside the ring is read or written. -/
  | outOfRing
  /-- The eviction loop does not end. -/
  | endless
  deriving DecidableEq, Repr

/-- The codes of `enum SolidSyslogCircularBufferErrors` raised by `Read` and `Write`. -/
inductive CircularBufferError where
  | recordRefused
  | recordsEvicted
  | recordTooLarge
  | recordExceedsMaxMessageSize
  deriving DecidableEq, Repr

/-- The categories those codes are raised under. -/
inductive BufferCategory where
  | recordsLost
  | backendFailed
  | badArgument
  deriving DecidableEq, Repr

/-- One call of `CircularBuffer_Report`. -/
structure BufferReport where
  severity : Severity
  category : BufferCategory
  code : CircularBufferError
  deriving DecidableEq, Repr

/-- `enum SolidSyslogCircularBufferRunStarted`. -/
inductive RunStarted where
  | none
  | refusals
  | evictions
  deriving DecidableEq, Repr

/-- Which branch of `CircularBuffer_StoreApplyingPolicy` the record met: stored, after an
eviction or without one, or refused. -/
inductive WriteOutcome where
  | kept (evicted : Bool)
  | refused
  deriving DecidableEq, Repr

/-- `struct SolidSyslogCircularBuffer`, less the vtable, the mutex and the policy. -/
structure CircularBuffer where
  ring : Bytes
  capacity : Nat
  head : Nat
  tail : Nat
  wrapPoint : Nat
  lossReported : Bool
  evictionReported : Bool
  tooLargeReported : Bool
  full : Bool
  deriving DecidableEq, Repr

/-- `SOLIDSYSLOG_CIRCULAR_BUFFER_HEADER_BYTES`. -/
def headerBytes : Nat := 2

/-! ## Ring memory -/

def loadSpan (ring : Bytes) (offset count : Nat) : Except Fault Bytes :=
  if offset + count ≤ ring.length then .ok (span ring offset count) else .error .outOfRing

def loadByte (ring : Bytes) (offset : Nat) : Except Fault UInt8 :=
  match ring[offset]? with
  | some byte => .ok byte
  | none => .error .outOfRing

def storeSpan (ring : Bytes) (offset : Nat) (bytes : Bytes) : Except Fault Bytes :=
  if offset + bytes.length ≤ ring.length then .ok (overwrite ring offset bytes)
  else .error .outOfRing

namespace CircularBuffer

/-! ## Creation -/

def resetToStart (self : CircularBuffer) : CircularBuffer :=
  { self with head := 0, tail := 0, wrapPoint := self.capacity }

/-- `SolidSyslogCircularBuffer_Initialise` over a ring of `ring.length` bytes. -/
def initialise (ring : Bytes) : CircularBuffer :=
  resetToStart
    { ring := ring
      capacity := ring.length
      head := 0
      tail := 0
      wrapPoint := 0
      lossReported := false
      evictionReported := false
      tooLargeReported := false
      full := false }

/-! ## The state of the ring -/

def isEmpty (self : CircularBuffer) : Bool :=
  self.head == self.tail

def headAtWrapPoint (self : CircularBuffer) : Bool :=
  decide (self.wrapPoint ≤ self.head)

def consumeWrapMarker (self : CircularBuffer) : CircularBuffer :=
  { self with head := 0, wrapPoint := self.capacity }

/-- How `Read` and `DropHead` both begin: a head on the wrap marker goes to the front. -/
def pastMarker (self : CircularBuffer) : CircularBuffer :=
  if self.headAtWrapPoint then self.consumeWrapMarker else self

def isWrapped (self : CircularBuffer) : Bool :=
  decide (self.tail < self.head)

def recordFitsAtTail (self : CircularBuffer) (recordBytes : Nat) : Bool :=
  if self.isWrapped then decide (self.tail + recordBytes < self.head)
  else decide (self.tail + recordBytes ≤ self.capacity)

def recordFitsAfterWrap (self : CircularBuffer) (recordBytes : Nat) : Bool :=
  !self.isWrapped && decide (recordBytes < self.head)

def recordFits (self : CircularBuffer) (recordBytes : Nat) : Bool :=
  self.recordFitsAtTail recordBytes || self.recordFitsAfterWrap recordBytes

def couldHoldWhenEmpty (self : CircularBuffer) (recordBytes : Nat) : Bool :=
  decide (recordBytes ≤ self.capacity)

def policyEvictsFor (self : CircularBuffer) (recordBytes : Nat) (policy : DiscardPolicy) : Bool :=
  self.couldHoldWhenEmpty recordBytes && policy == .oldest

/-- `CircularBuffer_PeekRecordSize`: the little-endian length at the head. -/
def peekRecordSize (self : CircularBuffer) : Except Fault Nat := do
  let low ← loadByte self.ring self.head
  let high ← loadByte self.ring (self.head + 1)
  return low.toNat ||| (high.toNat <<< 8)

/-! ## Read -/

def loadRecord (self : CircularBuffer) : Except Fault (Bytes × CircularBuffer) := do
  let recordSize ← self.peekRecordSize
  let data ← loadSpan self.ring (self.head + headerBytes) recordSize
  return (data, { self with head := self.head + (headerBytes + recordSize) })

def reportRecordTooLarge : BufferReport :=
  ⟨.error, .backendFailed, .recordTooLarge⟩

/-- `CircularBuffer_Read`: the bytes delivered, `none` where it returns false, and the report
it makes after the unlock. -/
def read (maxSize : Nat) (self : CircularBuffer) :
    Except Fault (Option Bytes × List BufferReport × CircularBuffer) :=
  if self.isEmpty then .ok (none, [], self)
  else do
    let self := self.pastMarker
    let recordSize ← self.peekRecordSize
    if recordSize ≤ maxSize then
      let (data, self) ← self.loadRecord
      return (some data, [], { self with full := false, tooLargeReported := false })
    else
      return (none, if self.tooLargeReported then [] else [reportRecordTooLarge],
        { self with tooLargeReported := true })

/-! ## Write -/

/-- Skips the head record as `read` would take it, without copying it out. -/
def dropHead (self : CircularBuffer) : Except Fault CircularBuffer := do
  let self := self.pastMarker
  let recordSize ← self.peekRecordSize
  let self := { self with head := self.head + (headerBytes + recordSize) }
  return if self.isEmpty then self.resetToStart else self

/-- The `while` of `CircularBuffer_EvictUntilRecordFits`, cut off after `fuel` turns. -/
def evictLoop (recordBytes : Nat) : Nat → CircularBuffer → Except Fault CircularBuffer
  | 0, self => if self.recordFits recordBytes then .ok self else .error .endless
  | fuel + 1, self =>
    if self.recordFits recordBytes then .ok self
    else self.dropHead >>= evictLoop recordBytes fuel

/-- Every record takes its header, so a ring holds fewer records than bytes: a loop that has
turned `capacity` times has met a record twice. -/
def evictUntilRecordFits (self : CircularBuffer) (recordBytes : Nat) :
    Except Fault CircularBuffer :=
  evictLoop recordBytes self.capacity self

def wrapTail (self : CircularBuffer) : CircularBuffer :=
  { self with wrapPoint := self.tail, tail := 0 }

def storeRecord (self : CircularBuffer) (data : Bytes) : Except Fault CircularBuffer := do
  let size := data.length
  let ring ← storeSpan self.ring self.tail [UInt8.ofNat (size &&& 0xFF)]
  let ring ← storeSpan ring (self.tail + 1) [UInt8.ofNat ((size >>> 8) &&& 0xFF)]
  let ring ← storeSpan ring (self.tail + headerBytes) data
  return { self with ring := ring, tail := self.tail + (headerBytes + size) }

def keepRecord (self : CircularBuffer) (data : Bytes) (evicted : Bool) :
    Except Fault (RunStarted × CircularBuffer) := do
  let self := if self.recordFitsAtTail (headerBytes + data.length) then self else self.wrapTail
  let self ← self.storeRecord data
  return (if evicted && !self.evictionReported then .evictions else .none,
    { self with lossReported := false, evictionReported := evicted, full := evicted })

def refuseRecord (self : CircularBuffer) (recordBytes : Nat) : RunStarted × CircularBuffer :=
  (if self.lossReported then .none else .refusals,
    { self with
      lossReported := true
      evictionReported := false
      full := self.couldHoldWhenEmpty recordBytes })

def storeApplyingPolicy (self : CircularBuffer) (policy : DiscardPolicy) (data : Bytes) :
    Except Fault (WriteOutcome × RunStarted × CircularBuffer) := do
  let self := if self.isEmpty then self.resetToStart else self
  let recordBytes := headerBytes + data.length
  let evicts := !self.recordFits recordBytes && self.policyEvictsFor recordBytes policy
  let self ← if evicts then self.evictUntilRecordFits recordBytes else pure self
  if self.recordFits recordBytes then
    let (started, self) ← self.keepRecord data evicts
    return (.kept evicts, started, self)
  else
    let (started, self) := self.refuseRecord recordBytes
    return (.refused, started, self)

def reportRunStarted : RunStarted → List BufferReport
  | .none => []
  | .refusals => [⟨.warning, .recordsLost, .recordRefused⟩]
  | .evictions => [⟨.warning, .recordsLost, .recordsEvicted⟩]

def reportRecordExceedsMaxMessageSize : BufferReport :=
  ⟨.critical, .badArgument, .recordExceedsMaxMessageSize⟩

/-- `CircularBuffer_Write` with the answer the policy gives this write. The outcome is `none`
for a record above the message limit, which is turned away before the ring is looked at. -/
def write (T : Tunables) (policy : DiscardPolicy) (data : Bytes) (self : CircularBuffer) :
    Except Fault (Option WriteOutcome × List BufferReport × CircularBuffer) :=
  if data.length ≤ T.maxMessageSize then do
    let (outcome, started, self) ← self.storeApplyingPolicy policy data
    return (some outcome, reportRunStarted started, self)
  else .ok (none, [reportRecordExceedsMaxMessageSize], self)

/-- `CircularBuffer_IsFull`. -/
def isFull (self : CircularBuffer) : Bool :=
  self.full

end CircularBuffer

end SolidSyslog.Buffer
