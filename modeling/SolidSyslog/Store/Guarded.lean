import SolidSyslog.Lib.Run
import SolidSyslog.Store.Rules

/-!
# What every operation of the store keeps

A property of the world that no call out of the store and no note breaks, a record's append taken
with its seal, is kept by every operation, on any device and with any policy. What the operation
does with the answers is of no account, so nothing is said of it.
-/

namespace SolidSyslog.Store

open Lib

variable {σ S T α β : Type} {P : Platform σ} {C : Config} {I : World σ → Prop}

/-- An entry that is not a call. -/
def Event.isNote : Event → Bool
  | .call _ _ => false
  | _ => true

/-- An append. -/
def Request.isAppend : Request → Bool
  | .append _ _ => true
  | _ => false

/-- The bytes of a sealed record, before it is marked. -/
def sealedBytes (C : Config) (content sealedContent trailer : Bytes) : Bytes :=
  fit content.length sealedContent ++ fit C.trailerSize trailer ++ [sentFlagUnsent]

/-- No call and no note breaks the property, and no append of what was just sealed does. -/
structure Guarded (P : Platform σ) (C : Config) (I : World σ → Prop) : Prop where
  asked : ∀ {w request}, Request.isAppend request = false → I w → I (w.asked P request)
  noted : ∀ {w event}, Event.isNote event = true → I w → I (w.noted event)
  appended : ∀ {w data block sealedContent trailer},
    data.length ≤ C.tunables.maxMessageSize → I w →
    (P.answer (.sealRecord (header (toUint16 data.length) ++ data)) w.env).1 =
      some (sealedContent, trailer) →
    I ((w.asked P (.sealRecord (header (toUint16 data.length) ++ data))).asked P
      (.append block (sealedBytes C (header (toUint16 data.length) ++ data) sealedContent trailer)))

/-- A computation that keeps a property of the world. -/
structure Keeps (world : S → World σ) (I : World σ → Prop) (m : StateM S α) : Prop where
  ensures : ∀ s, I (world s) → Ensures m (fun _ t => I (world t)) s

namespace Keeps

variable {world : S → World σ} {m m' : StateM S α} {f : α → StateM S β}

theorem pure {a : α} : Keeps world I (pure a : StateM S α) :=
  ⟨fun _ h => h⟩

theorem bind (h : Keeps world I m) (hf : ∀ a, Keeps world I (f a)) : Keeps world I (m >>= f) :=
  ⟨fun s hs => (h.ensures s hs).bind fun a t ht => (hf a).ensures t ht⟩

theorem ite {c : Prop} [Decidable c] (h : Keeps world I m) (h' : Keeps world I m') :
    Keeps world I (if c then m else m') :=
  ⟨fun s hs => .ite (fun _ => h.ensures s hs) fun _ => h'.ensures s hs⟩

/-- A computation over a part of the state that has the world in it. -/
theorem zoom {part : T → World σ} {get : S → T} {put : S → T → S} {m : StateM T α}
    (hget : ∀ s, part (get s) = world s) (hput : ∀ s t, world (put s t) = part t)
    (h : Keeps part I m) : Keeps world I (zoom get put m) := by
  constructor
  intro s hs
  have hpart := h.ensures (get s) ((hget s).symm ▸ hs)
  show I (world (put s _))
  rw [hput]
  exact hpart

end Keeps

/-! ## The sequence -/

namespace BlockSequence

theorem keeps_seq : Keeps SequenceState.world I (seq : Action σ BlockSequence) :=
  ⟨fun _ h => h⟩

theorem keeps_setSeq (change : BlockSequence → BlockSequence) :
    Keeps SequenceState.world I (setSeq change : Action σ Unit) :=
  ⟨fun _ h => h⟩

variable (hI : Guarded P C I)

include hI

theorem keeps_ask {request : Request} (h : request.isAppend = false) :
    Keeps SequenceState.world I (ask P request) :=
  ⟨fun _ hs => hI.asked h hs⟩

theorem keeps_noteRun : Keeps SequenceState.world I (noteRun : Action σ Unit) :=
  ⟨fun _ hs => hI.noted rfl hs⟩

theorem keeps_notifyThresholdCrossed :
    Keeps SequenceState.world I (notifyThresholdCrossed P C) := by
  constructor
  intro s hs
  apply notifyThresholdCrossed_keeps (I := fun t => I t.world) hs
  · exact fun _ _ ht => ht
  · intro t request hrequest ht
    rcases hrequest with rfl | rfl | rfl <;> exact hI.asked rfl ht

theorem keeps_acquireBlock (block : Sequence) :
    Keeps SequenceState.world I (acquireBlock P block) :=
  (keeps_ask hI rfl).bind fun _ => .ite ((keeps_setSeq _).bind fun _ => .pure) .pure

theorem keeps_disposeBlock (block : Sequence) :
    Keeps SequenceState.world I (disposeBlock P block) :=
  (keeps_ask hI rfl).bind fun _ => .ite ((keeps_setSeq _).bind fun _ => .pure) .pure

theorem keeps_nextPresentSequence (current : Sequence) :
    Keeps SequenceState.world I (nextPresentSequence current : Action σ Sequence) := by
  constructor
  intro s hs
  unfold nextPresentSequence
  rw [ensures_bind, ensures_seq]
  cases nextPresent s.seq.blockPresent (nextSequence current) modulus with
  | some next => exact hs
  | none => exact hI.noted rfl hs

theorem keeps_scanForBlockPresence (lastPresent : Option Sequence) (blocks : List Sequence) :
    Keeps SequenceState.world I (scanForBlockPresence P lastPresent blocks) := by
  induction blocks generalizing lastPresent with
  | nil => exact .pure
  | cons block blocks ih =>
    exact (keeps_ask hI rfl).bind fun _ => (keeps_setSeq _).bind fun _ => ih _

theorem keeps_scanForExistingBlocks :
    Keeps SequenceState.world I (scanForExistingBlocks P : Action σ Bool) := by
  unfold scanForExistingBlocks
  apply (keeps_scanForBlockPresence hI _ _).bind
  intro lastPresent
  cases lastPresent with
  | none => exact .pure
  | some lastPresent =>
    exact keeps_seq.bind fun _ => (keeps_setSeq _).bind fun _ => (keeps_setSeq _).bind fun _ =>
      (keeps_setSeq _).bind fun _ => .pure

theorem keeps_openBlocks : Keeps SequenceState.world I (openBlocks P C) := by
  apply (keeps_scanForExistingBlocks hI).bind
  intro found
  apply Keeps.ite
  · apply (keeps_noteRun hI).bind
    intro _
    apply keeps_seq.bind
    intro _
    apply (keeps_ask hI rfl).bind
    intro size
    cases size with
    | some writePosition =>
      exact (keeps_setSeq _).bind fun _ => (keeps_notifyThresholdCrossed hI).bind fun _ => .pure
    | none => exact (keeps_setSeq _).bind fun _ => .pure
  · apply (keeps_acquireBlock hI 0).bind
    intro acquired
    apply Keeps.ite
    · exact (keeps_noteRun hI).bind fun _ => (keeps_notifyThresholdCrossed hI).bind fun _ => .pure
    · exact (keeps_setSeq _).bind fun _ => .pure

theorem keeps_readBlockSizeOf : Keeps SequenceState.world I (readBlockSizeOf P : Action σ _) := by
  apply keeps_seq.bind
  intro q
  apply Keeps.ite .pure
  apply Keeps.ite .pure
  apply (keeps_ask hI rfl).bind
  intro size
  cases size with
  | some readBlockSize => exact (keeps_setSeq _).bind fun _ => .pure
  | none => exact (keeps_setSeq _).bind fun _ => (keeps_setSeq _).bind fun _ => .pure

theorem keeps_advancePastDisposedReadBlock :
    Keeps SequenceState.world I (advancePastDisposedReadBlock P C) :=
  keeps_seq.bind fun _ => (keeps_nextPresentSequence hI _).bind fun _ =>
    (keeps_setSeq _).bind fun _ => (keeps_setSeq _).bind fun _ => (keeps_setSeq _).bind fun _ =>
      (keeps_noteRun hI).bind fun _ => keeps_notifyThresholdCrossed hI

theorem keeps_disposeReadBlock : Keeps SequenceState.world I (disposeReadBlock P C) := by
  apply keeps_seq.bind
  intro _
  apply (keeps_disposeBlock hI _).bind
  intro disposed
  apply Keeps.ite
  · exact (keeps_advancePastDisposedReadBlock hI).bind fun _ => .pure
  · exact (keeps_setSeq _).bind fun _ => .pure

theorem keeps_disposeReadBlockIfDrained :
    Keeps SequenceState.world I (disposeReadBlockIfDrained P C) := by
  apply keeps_seq.bind
  intro _
  apply Keeps.ite .pure
  apply (keeps_readBlockSizeOf hI).bind
  intro size
  cases size with
  | none => exact .pure
  | some readBlockSize => exact keeps_seq.bind fun _ => .ite (keeps_disposeReadBlock hI) .pure

theorem keeps_discardOldestBlock :
    Keeps SequenceState.world I (discardOldestBlock P : Action σ Bool) := by
  apply keeps_seq.bind
  intro _
  apply (keeps_disposeBlock hI _).bind
  intro disposed
  apply Keeps.ite
  · exact (keeps_setSeq _).bind fun _ => keeps_seq.bind fun _ =>
      (keeps_nextPresentSequence hI _).bind fun _ => (keeps_setSeq _).bind fun _ =>
        (keeps_setSeq _).bind fun _ => (keeps_noteRun hI).bind fun _ => .pure
  · exact (keeps_setSeq _).bind fun _ => .pure

theorem keeps_acquireEmptyBlock (block : Sequence) :
    Keeps SequenceState.world I (acquireEmptyBlock P block) := by
  apply (keeps_ask hI rfl).bind
  intro stale
  have hcleared : Keeps SequenceState.world I
      (if stale then disposeBlock P block else Pure.pure true) :=
    .ite (keeps_disposeBlock hI block) .pure
  apply hcleared.bind
  intro cleared
  apply Keeps.ite
  · exact (keeps_acquireBlock hI block).bind fun _ =>
      .ite .pure ((keeps_setSeq _).bind fun _ => .pure)
  · exact (keeps_setSeq _).bind fun _ => .pure

theorem keeps_rotateToNextBlock : Keeps SequenceState.world I (rotateToNextBlock P C) := by
  apply keeps_seq.bind
  intro _
  apply (keeps_acquireEmptyBlock hI _).bind
  intro acquired
  apply Keeps.ite
  · exact (keeps_setSeq _).bind fun _ => (keeps_setSeq _).bind fun _ => (keeps_noteRun hI).bind
      fun _ => (keeps_disposeReadBlockIfDrained hI).bind fun _ => keeps_seq.bind fun _ =>
        keeps_seq.bind fun _ => .ite ((keeps_discardOldestBlock hI).bind fun _ => .pure) .pure
  · exact .pure

theorem keeps_prepareForWrite (recordSize : Nat) :
    Keeps SequenceState.world I (prepareForWrite P C recordSize) := by
  have hfull : Keeps SequenceState.world I (storeIsFull P C) :=
    keeps_seq.bind fun _ => .ite ((keeps_ask hI rfl).bind fun _ => .pure) .pure
  apply keeps_seq.bind
  intro _
  apply Keeps.ite
  · apply hfull.bind
    intro full
    apply Keeps.ite
    · exact (keeps_setSeq _).bind fun _ => (keeps_notifyThresholdCrossed hI).bind fun _ => .pure
    · exact keeps_rotateToNextBlock hI
  · exact .pure

theorem keeps_noteRecordWritten (recordSize : Nat) :
    Keeps SequenceState.world I (noteRecordWritten P C recordSize) :=
  (keeps_setSeq _).bind fun _ => (keeps_setSeq _).bind fun _ => keeps_notifyThresholdCrossed hI

end BlockSequence

/-! ## Records -/

namespace RecordStore

theorem keeps_setRecords (change : RecordStore → RecordStore) :
    Keeps RecordState.world I (setRecords change : Action σ Unit) :=
  ⟨fun _ h => h⟩

theorem keeps_records : Keeps RecordState.world I (records : Action σ RecordStore) :=
  ⟨fun _ h => h⟩

variable (hI : Guarded P C I)

include hI

theorem keeps_ask {request : Request} (h : request.isAppend = false) :
    Keeps RecordState.world I (ask P request) :=
  ⟨fun _ hs => hI.asked h hs⟩

theorem assembleRecord_guards {data : Bytes} (hdata : data.length ≤ C.tunables.maxMessageSize)
    {s : RecordState σ} (hs : I s.world) :
    Ensures (assembleRecord P C data) (fun bytes t => I t.world ∧
      ∀ made, bytes = some made → ∀ block, I (t.world.asked P (.append block made))) s := by
  apply ensures_ask
  have hasked : I (s.world.asked P (.sealRecord (header (toUint16 data.length) ++ data))) :=
    hI.asked rfl hs
  cases hanswer : (P.answer (.sealRecord (header (toUint16 data.length) ++ data))
    s.world.env).1 with
  | some made =>
    refine ⟨hasked, ?_⟩
    rintro _ ⟨rfl⟩ block
    exact hI.appended hdata hs hanswer
  | none => exact ⟨hasked, nofun⟩

theorem keeps_append (block : Sequence) {data : Bytes}
    (hdata : data.length ≤ C.tunables.maxMessageSize) :
    Keeps RecordState.world I (append P C block data) := by
  constructor
  intro s hs
  apply Ensures.bind (assembleRecord_guards hI hdata hs)
  rintro bytes t ⟨ht, happended⟩
  cases bytes with
  | some bytes => exact happended bytes rfl block
  | none => exact ht

theorem keeps_readSpan (block : Sequence) (offset count dataSize : Nat) :
    Keeps RecordState.world I (readSpan P block offset count dataSize : Action σ _) := by
  apply Keeps.ite _ .pure
  apply (keeps_ask hI rfl).bind
  intro bytes
  cases bytes <;> exact .pure

theorem keeps_readRecordExtent (block : Sequence) (offset dataSize : Nat) :
    Keeps RecordState.world I (readRecordExtent P C block offset dataSize) := by
  have hheader : Keeps RecordState.world I (readHeader P C block offset dataSize) := by
    apply Keeps.ite _ .pure
    apply Keeps.bind (keeps_readSpan hI ..)
    intro bytes
    cases bytes with
    | error result => exact .pure
    | ok bytes =>
      dsimp only
      cases C.validateHeader bytes <;> exact .pure
  apply hheader.bind
  intro length
  cases length <;> exact .pure

theorem keeps_openRecord (content trailer : Bytes) :
    Keeps RecordState.world I (openRecord P content trailer) := by
  apply (keeps_ask hI rfl).bind
  rintro ⟨result, left⟩
  cases result <;> exact .pure

theorem keeps_validateRecord (block : Sequence) (offset dataSize length : Nat) :
    Keeps RecordState.world I (validateRecord P C block offset dataSize length) := by
  apply Keeps.bind (keeps_readSpan hI ..)
  intro message
  cases message with
  | error result => exact .pure
  | ok message =>
    apply Keeps.bind (keeps_readSpan hI ..)
    intro tail
    cases tail with
    | error result => exact .pure
    | ok tail => exact .ite .pure (keeps_openRecord hI ..)

theorem keeps_read (block : Sequence) (offset dataSize maxSize : Nat) :
    Keeps RecordState.world I (read P C block offset dataSize maxSize) := by
  apply Keeps.bind (keeps_readRecordExtent hI ..)
  intro length
  cases length with
  | error result => exact .pure
  | ok length =>
    apply Keeps.bind (keeps_validateRecord hI ..)
    rintro ⟨result, message⟩
    exact .ite ((keeps_setRecords _).bind fun _ => .pure) .pure

theorem keeps_markLastReadAsSent :
    Keeps RecordState.world I (markLastReadAsSent P : Action σ MarkResult) := by
  apply keeps_records.bind
  intro last
  apply Keeps.ite _ .pure
  apply (keeps_ask hI rfl).bind
  intro written
  exact .ite ((keeps_setRecords _).bind fun _ => .pure) .pure

theorem keeps_findFirstUnsentLoop (block : Sequence) (blockSize cursor fuel : Nat) :
    Keeps RecordState.world I (findFirstUnsentLoop P C block blockSize cursor fuel) := by
  induction fuel generalizing cursor with
  | zero => exact .pure
  | succ fuel ih =>
    apply Keeps.ite _ .pure
    apply Keeps.bind (keeps_readRecordExtent hI ..)
    intro extent
    cases extent with
    | error result => cases result <;> exact .pure
    | ok length =>
      apply Keeps.bind (keeps_readSpan hI ..)
      intro flag
      cases flag with
      | error result => cases result <;> exact .pure
      | ok flag => exact .ite (ih _) .pure

theorem keeps_scanToEndLoop (block : Sequence) (blockSize position fuel : Nat) :
    Keeps RecordState.world I (scanToEndLoop P C block blockSize position fuel) := by
  induction fuel generalizing position with
  | zero => exact .pure
  | succ fuel ih =>
    apply Keeps.ite _ .pure
    apply Keeps.bind (keeps_readRecordExtent hI ..)
    intro extent
    cases extent with
    | error result => cases result <;> exact .pure
    | ok length => exact ih _

end RecordStore

/-! ## The store -/

namespace BlockStore

theorem keeps_seqOf : Keeps BlockStore.world I (seqOf : Action σ BlockSequence) :=
  ⟨fun _ h => h⟩

theorem keeps_get : Keeps BlockStore.world I (get : Action σ (BlockStore σ)) :=
  ⟨fun _ h => h⟩

/-- A change to the store's own parts. -/
theorem keeps_modify {change : BlockStore σ → BlockStore σ}
    (h : ∀ s, (change s).world = s.world) : Keeps BlockStore.world I (modify change) := by
  constructor
  intro s hs
  show I (change s).world
  rw [h]
  exact hs

theorem keeps_onSeq {action : BlockSequence.Action σ α}
    (h : Keeps SequenceState.world I action) : Keeps BlockStore.world I (onSeq action) :=
  .zoom (fun _ => rfl) (fun _ _ => rfl) h

theorem keeps_onRecords {action : RecordStore.Action σ α}
    (h : Keeps RecordState.world I action) : Keeps BlockStore.world I (onRecords action) :=
  .zoom (fun _ => rfl) (fun _ _ => rfl) h

theorem keeps_forgetLastRead :
    Keeps BlockStore.world I (onRecords RecordStore.forgetLastRead : Action σ Unit) :=
  keeps_onRecords (RecordStore.keeps_setRecords _)

theorem keeps_stepPastCurrent : Keeps BlockStore.world I (stepPastCurrent : Action σ Bool) :=
  (keeps_onRecords ((RecordStore.keeps_setRecords _).bind fun _ =>
    RecordStore.keeps_records.bind fun _ => .pure)).bind fun _ =>
      .bind (keeps_modify fun _ => rfl) fun _ => .pure

variable (hI : Guarded P C I)

include hI

theorem keeps_report (severity : Severity) (category : Category) (error : BlockStoreError) :
    Keeps BlockStore.world I (report P severity category error) :=
  ⟨fun _ hs => hI.asked rfl hs⟩

theorem keeps_note {event : Event} (h : event.isNote = true) :
    Keeps BlockStore.world I (note event : Action σ Unit) :=
  ⟨fun _ hs => hI.noted h hs⟩

theorem keeps_freeze (failedOperation : BlockStoreError) :
    Keeps BlockStore.world I (freeze P failedOperation) :=
  .bind (keeps_report hI ..) fun _ => keeps_modify fun _ => rfl

theorem keeps_freezeIfDeviceFailed :
    Keeps BlockStore.world I (freezeIfDeviceFailed P : Action σ Bool) := by
  apply keeps_seqOf.bind
  intro _
  exact .ite (keeps_seqOf.bind fun _ => (keeps_freeze hI _).bind fun _ => .pure) .pure

/-- A report that stands for a run, and its latch. -/
theorem keeps_reportLoss (fault : BlockStoreError) :
    Keeps BlockStore.world I (reportLoss P fault) :=
  keeps_get.bind fun _ => .ite (.bind (keeps_report hI ..) fun _ => keeps_modify fun _ => rfl) .pure

theorem keeps_reportRefusal : Keeps BlockStore.world I (reportRefusal P : Action σ Unit) :=
  keeps_get.bind fun _ => .ite (.bind (keeps_report hI ..) fun _ => keeps_modify fun _ => rfl) .pure

theorem keeps_reportSealFailed : Keeps BlockStore.world I (reportSealFailed P : Action σ Unit) :=
  keeps_get.bind fun _ => .ite (.bind (keeps_report hI ..) fun _ => keeps_modify fun _ => rfl) .pure

theorem keeps_reportEviction : Keeps BlockStore.world I (reportEviction P : Action σ Unit) := by
  apply keeps_seqOf.bind
  intro _
  apply Keeps.ite
  · exact keeps_modify fun _ => rfl
  · exact keeps_get.bind fun _ =>
      .ite (.bind (keeps_report hI ..) fun _ => keeps_modify fun _ => rfl) .pure

theorem keeps_appendRecord (recordSize : Nat) {data : Bytes}
    (hdata : data.length ≤ C.tunables.maxMessageSize) :
    Keeps BlockStore.world I (appendRecord P C recordSize data) := by
  apply keeps_seqOf.bind
  intro q
  apply (keeps_onRecords (RecordStore.keeps_append hI q.writeSequence hdata)).bind
  intro appended
  cases appended with
  | succeeded =>
    exact (keeps_onSeq (BlockSequence.keeps_noteRecordWritten hI recordSize)).bind fun _ =>
      .bind (keeps_modify fun _ => rfl) fun _ => .pure
  | deviceFailed => exact (keeps_freeze hI _).bind fun _ => .pure
  | sealFailed => exact (keeps_reportSealFailed hI).bind fun _ => .pure

theorem keeps_write {data : Bytes} (hdata : data.length ≤ C.tunables.maxMessageSize) :
    Keeps BlockStore.world I (write P C data) := by
  apply keeps_get.bind
  intro _
  apply Keeps.ite .pure
  refine Keeps.ite ?_ .pure
  apply (keeps_onSeq (BlockSequence.keeps_prepareForWrite hI _)).bind
  rintro ⟨prepared, readBlockChanged⟩
  apply (keeps_freezeIfDeviceFailed hI).bind
  intro failed
  apply Keeps.ite .pure
  apply Keeps.ite ((keeps_reportRefusal hI).bind fun _ => .pure)
  apply (keeps_reportEviction hI).bind
  intro _
  exact .ite (keeps_forgetLastRead.bind fun _ => keeps_appendRecord hI _ hdata)
    (keeps_appendRecord hI _ hdata)

theorem keeps_readNextBlockIfBehind : Keeps BlockStore.world I (readNextBlockIfBehind P C) := by
  apply keeps_seqOf.bind
  intro _
  refine Keeps.ite ?_ .pure
  exact (keeps_onSeq (BlockSequence.keeps_disposeReadBlock hI)).bind fun _ =>
    keeps_forgetLastRead.bind fun _ => (keeps_freezeIfDeviceFailed hI).bind fun _ => .pure

theorem keeps_abandonRestOfReadBlock : Keeps BlockStore.world I (abandonRestOfReadBlock P C) := by
  apply (keeps_readNextBlockIfBehind hI).bind
  intro movedOn
  apply keeps_seqOf.bind
  intro _
  refine Keeps.ite ?_ .pure
  apply (keeps_reportLoss hI _).bind
  intro _
  exact .ite (.bind (keeps_modify fun _ => rfl) fun _ =>
    .bind (keeps_modify fun _ => rfl) fun _ => .pure) .pure

theorem keeps_stepPast (found : RecordStore.Found) :
    Keeps BlockStore.world I (stepPast P C found) := by
  unfold stepPast
  cases found.result with
  | rejected =>
    exact keeps_seqOf.bind fun _ => keeps_seqOf.bind fun _ => (keeps_note hI rfl).bind fun _ =>
      (keeps_reportLoss hI _).bind fun _ => keeps_stepPastCurrent
  | finishedWith => exact keeps_stepPastCurrent
  | endOfData => exact keeps_readNextBlockIfBehind hI
  | corrupt => exact keeps_abandonRestOfReadBlock hI
  | succeeded | couldNotOpen | deviceFailed => exact .pure

theorem keeps_readCurrent (maxSize : Nat) : Keeps BlockStore.world I (readCurrent P C maxSize) := by
  apply (keeps_onSeq (BlockSequence.keeps_readBlockSizeOf hI)).bind
  intro size
  cases size with
  | some readBlockSize =>
    exact keeps_seqOf.bind fun _ => keeps_onRecords (RecordStore.keeps_read hI ..)
  | none => exact .pure

theorem keeps_readLoop (maxSize fuel : Nat) :
    Keeps BlockStore.world I (readLoop P C maxSize fuel) := by
  induction fuel with
  | zero => exact .pure
  | succ fuel ih =>
    exact (keeps_readCurrent hI maxSize).bind fun _ => (keeps_stepPast hI _).bind fun _ =>
      .ite ih .pure

theorem keeps_settleRead (found : RecordStore.Found) :
    Keeps BlockStore.world I (settleRead P found : Action σ Unit) := by
  unfold settleRead
  cases found.result with
  | succeeded =>
    exact keeps_seqOf.bind fun _ => keeps_seqOf.bind fun _ => (keeps_note hI rfl).bind fun _ =>
      keeps_modify fun _ => rfl
  | deviceFailed =>
    exact (keeps_freezeIfDeviceFailed hI).bind fun _ => .ite (keeps_freeze hI _) .pure
  | rejected | finishedWith | endOfData | corrupt | couldNotOpen => exact .pure

theorem keeps_readNextUnsent (fuel maxSize : Nat) :
    Keeps BlockStore.world I (readNextUnsent P C fuel maxSize) := by
  apply keeps_get.bind
  intro _
  apply Keeps.ite .pure
  apply keeps_seqOf.bind
  intro _
  refine Keeps.ite ?_ .pure
  apply Keeps.bind (keeps_readLoop hI ..)
  intro found
  cases found with
  | none => exact .pure
  | some found => exact (keeps_settleRead hI found).bind fun _ => .pure

theorem keeps_markSent : Keeps BlockStore.world I (markSent P C) := by
  apply keeps_get.bind
  intro _
  apply Keeps.ite .pure
  apply (keeps_onRecords (RecordStore.keeps_markLastReadAsSent hI)).bind
  intro marked
  cases marked with
  | deviceFailed => exact keeps_freeze hI _
  | succeeded nextCursor =>
    refine Keeps.bind (keeps_modify fun _ => rfl) fun _ => ?_
    apply (keeps_onSeq (BlockSequence.keeps_disposeReadBlockIfDrained hI)).bind
    intro changed
    exact (keeps_freezeIfDeviceFailed hI).bind fun _ => .ite keeps_forgetLastRead .pure
  | nothingRead => exact .pure

/-- What no call and no note breaks, no call of the store breaks. -/
theorem keeps_perform (fuel : Nat) (op : Op C) : Keeps BlockStore.world I (perform P fuel op) := by
  cases op with
  | write message => exact (keeps_write hI message.fits).bind fun _ => .pure
  | readNextUnsent maxSize =>
    apply Keeps.bind (keeps_readNextUnsent hI ..)
    intro bytes
    cases bytes <;> exact .pure
  | markSent => exact (keeps_markSent hI).bind fun _ => .pure
  | hasUnsent | isTransient => exact keeps_get.bind fun _ => .pure

theorem keeps_scanReadBlock : Keeps BlockStore.world I (scanReadBlock P C) := by
  apply (keeps_onSeq (BlockSequence.keeps_readBlockSizeOf hI)).bind
  intro size
  cases size with
  | some readBlockSize =>
    apply keeps_seqOf.bind
    intro _
    apply (keeps_onRecords (RecordStore.keeps_findFirstUnsentLoop hI ..)).bind
    rintro ⟨cursor, scanned⟩
    refine Keeps.bind (keeps_modify fun _ => rfl) fun _ => ?_
    exact .ite ((keeps_freeze hI _).bind fun _ => .pure) .pure
  | none => exact (keeps_freeze hI _).bind fun _ => .pure

theorem keeps_resumeLoop (fuel : Nat) : Keeps BlockStore.world I (resumeLoop P C fuel) := by
  induction fuel with
  | zero => exact (keeps_note hI rfl).bind fun _ => .pure
  | succ fuel ih =>
    apply (keeps_scanReadBlock hI).bind
    intro scanned
    exact .ite ((keeps_abandonRestOfReadBlock hI).bind fun _ => .ite ih .pure) .pure

theorem keeps_checkWriteBlock : Keeps BlockStore.world I (checkWriteBlock P C) := by
  apply keeps_seqOf.bind
  intro q
  apply (keeps_onRecords (RecordStore.keeps_scanToEndLoop hI ..)).bind
  intro scanned
  cases scanned with
  | deviceFailed => exact keeps_freeze hI _
  | corrupt => exact keeps_modify fun _ => rfl
  | clean => exact .pure

theorem keeps_create : Keeps BlockStore.world I (create P C) := by
  have hinitialise : Keeps BlockStore.world I (initialise P C) := by
    apply (keeps_onSeq (BlockSequence.keeps_openBlocks hI)).bind
    intro opened
    apply Keeps.ite
    · apply (keeps_resumeLoop hI _).bind
      intro scanned
      exact keeps_seqOf.bind fun _ => .ite (keeps_checkWriteBlock hI) .pure
    · exact keeps_seqOf.bind fun _ => keeps_freeze hI _
  exact .ite (.bind (keeps_report hI ..) fun _ => hinitialise) hinitialise

/-- What holds of the world a store is created in holds of it in every run. -/
theorem guarded_run {env : σ} (hstart : I ⟨env, []⟩) {ops : List (Op C)} {answers : List Answer}
    {s : BlockStore σ} (hrun : Run (Step P) (created P C env) ops answers s) : I s.world := by
  have hcreated : I (created P C env).world := (keeps_create hI).ensures _ hstart
  apply hrun.invariant (D := fun _ => True) (I := fun s => I s.world) (fun _ _ => trivial) hcreated
  rintro s op answer s' - hs ⟨fuel, hperform⟩
  have hkept := (keeps_perform hI fuel op).ensures s hs
  rw [Ensures, hperform] at hkept
  exact hkept

end BlockStore

end SolidSyslog.Store
