import SolidSyslog.Store.Freeze.Phase

/-!
# The parts of the store on a device that may fail

Each operation of the block sequence and of the record store takes a clean trace to a clean one or
to a broken one, and says which: the sequence by the operation it names, the record store by its
result.
-/

namespace SolidSyslog.Store

open Lib

variable {σ : Type} {P : Platform σ} {C : Config}

/-! ## The block sequence -/

namespace BlockSequence

variable {s : SequenceState σ}

/-- The device has not failed. -/
def Sound (s : SequenceState σ) : Prop :=
  s.world.Clean ∧ s.seq.deviceFailed = false

/-- The device failed and the sequence names the operation. -/
def Failed (s : SequenceState σ) : Prop :=
  ∃ request, s.world.Broken request ∧ s.seq.deviceFailed = true ∧
    names request s.seq.failedOperation = true

/-- The device failed just now and the sequence has yet to note it. -/
def Broke (request : Request) (s : SequenceState σ) : Prop :=
  s.world.Broken request ∧ s.seq.deviceFailed = false

theorem Broke.noteDeviceFailure {request : Request} {error : BlockStoreError}
    (h : Broke request s) (hnames : names request error = true) :
    Failed { s with seq := s.seq.noteDeviceFailure error } := by
  refine ⟨request, h.1, ?_, ?_⟩
  · simp [BlockSequence.noteDeviceFailure, h.2]
  · simpa [BlockSequence.noteDeviceFailure, h.2] using hnames

theorem Sound.setSeq (h : Sound s) {change : BlockSequence → BlockSequence}
    (hkept : (change s.seq).deviceFailed = s.seq.deviceFailed) :
    Ensures (BlockSequence.setSeq change) (fun _ s' => Sound s') s :=
  ⟨h.1, hkept.trans h.2⟩

theorem Sound.noteRun (h : Sound s) : Ensures noteRun (fun _ s' => Sound s') s :=
  ⟨h.1.noted (by simp), h.2⟩

theorem notifyThresholdCrossed_sound (h : Sound s) :
    Ensures (notifyThresholdCrossed P C) (fun _ s' => Sound s') s := by
  apply notifyThresholdCrossed_keeps h
  · intro t crossed ht
    exact ht
  · intro t request hrequest ht
    refine ⟨ht.1.asked_of_working ?_, ht.2⟩
    rcases hrequest with rfl | rfl | rfl <;> exact ⟨rfl, rfl⟩

theorem acquireBlock_sound (h : Sound s) (block : Sequence) :
    Ensures (acquireBlock P block)
      (fun acquired s' => if acquired then Sound s' else Broke (.acquire block) s') s := by
  unfold acquireBlock
  apply ensures_ask
  cases hanswer : (P.answer (.acquire block) s.world.env).1 with
  | true => exact ⟨h.1.asked_of_working ⟨by simp [Event.isFailure, hanswer], rfl⟩, h.2⟩
  | false => exact ⟨h.1.asked_of_failure _ (by simp [Event.isFailure, hanswer]), h.2⟩

theorem disposeBlock_sound (h : Sound s) (block : Sequence) :
    Ensures (disposeBlock P block)
      (fun disposed s' => if disposed then Sound s' else Broke (.dispose block) s') s := by
  unfold disposeBlock
  apply ensures_ask
  cases hanswer : (P.answer (.dispose block) s.world.env).1 with
  | true => exact ⟨h.1.asked_of_working ⟨by simp [Event.isFailure, hanswer], rfl⟩, h.2⟩
  | false => exact ⟨h.1.asked_of_failure _ (by simp [Event.isFailure, hanswer]), h.2⟩

theorem nextPresentSequence_sound (h : Sound s) (current : Sequence) :
    Ensures (nextPresentSequence current) (fun _ s' => Sound s') s := by
  unfold nextPresentSequence
  rw [ensures_bind, ensures_seq]
  split
  · exact h
  · exact ⟨h.1.noted (by simp), h.2⟩

theorem scanForBlockPresence_sound (blocks : List Sequence) (lastPresent : Option Sequence)
    (h : Sound s) :
    Ensures (scanForBlockPresence P lastPresent blocks) (fun _ s' => Sound s') s := by
  induction blocks generalizing lastPresent s with
  | nil => exact h
  | cons block rest ih =>
    unfold scanForBlockPresence
    apply ensures_ask
    apply ih
    exact ⟨h.1.asked_of_working ⟨rfl, rfl⟩, h.2⟩

theorem scanForExistingBlocks_sound (h : Sound s) :
    Ensures (scanForExistingBlocks P) (fun _ s' => Sound s') s := by
  unfold scanForExistingBlocks
  apply Ensures.bind (scanForBlockPresence_sound (List.finRange modulus) none h)
  intro lastPresent s' h'
  cases lastPresent with
  | none => exact h'
  | some _ => exact h'

theorem openBlocks_sound (h : Sound s) :
    Ensures (openBlocks P C) (fun opened s' => if opened then Sound s' else Failed s') s := by
  unfold openBlocks
  apply Ensures.bind (scanForExistingBlocks_sound h)
  intro found s₁ h₁
  apply Ensures.ite
  · intro _
    apply Ensures.bind h₁.noteRun
    intro _ s₂ h₂
    rw [ensures_bind, ensures_seq]
    apply ensures_ask
    cases hanswer : (P.answer (.size s₂.seq.writeSequence) s₂.world.env).1 with
    | some writePosition =>
      apply Ensures.bind (Q := fun _ => Sound)
      · exact ⟨h₂.1.asked_of_working ⟨by simp [Event.isFailure, hanswer], rfl⟩, h₂.2⟩
      · intro _ s₃ h₃
        apply Ensures.bind (notifyThresholdCrossed_sound h₃)
        intro _ s₄ h₄
        exact h₄
    | none =>
      have hbroken := h₂.1.asked_of_failure (P := P) (.size s₂.seq.writeSequence)
        (by simp [Event.isFailure, hanswer])
      exact Broke.noteDeviceFailure (s := ⟨s₂.seq, _⟩) ⟨hbroken, h₂.2⟩ rfl
  · intro _
    apply Ensures.bind (acquireBlock_sound h₁ 0)
    intro acquired s₂ h₂
    cases acquired with
    | true =>
      apply Ensures.bind (Sound.noteRun h₂)
      intro _ s₃ h₃
      apply Ensures.bind (notifyThresholdCrossed_sound h₃)
      intro _ s₄ h₄
      exact h₄
    | false => exact Broke.noteDeviceFailure h₂ rfl

theorem readBlockSizeOf_sound (h : Sound s) :
    Ensures (readBlockSizeOf P) (fun size s' =>
      if size.isSome then Sound s' else Failed s' ∧ s'.seq.failedOperation = .sizeFailed) s := by
  unfold readBlockSizeOf
  rw [ensures_bind, ensures_seq]
  apply Ensures.ite
  · intro _
    exact h
  · intro _
    apply Ensures.ite
    · intro _
      exact h
    · intro _
      apply ensures_ask
      cases hanswer : (P.answer (.size s.seq.readSequence) s.world.env).1 with
      | some size => exact ⟨h.1.asked_of_working ⟨by simp [Event.isFailure, hanswer], rfl⟩, h.2⟩
      | none =>
        have hbroken := h.1.asked_of_failure (P := P) (.size s.seq.readSequence)
          (by simp [Event.isFailure, hanswer])
        refine ⟨Broke.noteDeviceFailure (s := ⟨{ s.seq with readBlockSizeKnown := false }, _⟩)
          ⟨hbroken, h.2⟩ rfl, ?_⟩
        change (noteDeviceFailure _ _).failedOperation = _
        simp [BlockSequence.noteDeviceFailure, h.2]

theorem advancePastDisposedReadBlock_sound (h : Sound s) :
    Ensures (advancePastDisposedReadBlock P C) (fun _ s' => Sound s') s := by
  unfold advancePastDisposedReadBlock
  rw [ensures_bind, ensures_seq]
  apply Ensures.bind (nextPresentSequence_sound h _)
  intro next s₁ h₁
  apply Ensures.bind (h₁.setSeq rfl)
  intro _ s₂ h₂
  apply Ensures.bind (h₂.setSeq rfl)
  intro _ s₃ h₃
  apply Ensures.bind (h₃.setSeq rfl)
  intro _ s₄ h₄
  apply Ensures.bind h₄.noteRun
  intro _ s₅ h₅
  exact notifyThresholdCrossed_sound h₅

theorem disposeReadBlock_sound (h : Sound s) :
    Ensures (disposeReadBlock P C) (fun disposed s' => if disposed then Sound s' else Failed s')
      s := by
  unfold disposeReadBlock
  rw [ensures_bind, ensures_seq]
  apply Ensures.bind (disposeBlock_sound h _)
  intro disposed s₁ h₁
  cases disposed with
  | true =>
    apply Ensures.bind (advancePastDisposedReadBlock_sound h₁)
    intro _ s₂ h₂
    exact h₂
  | false => exact Broke.noteDeviceFailure h₁ rfl

/-- The device has not failed, or the sequence names the operation that did. -/
def Settled (s : SequenceState σ) : Prop :=
  Sound s ∨ Failed s

theorem disposeReadBlockIfDrained_settled (h : Sound s) :
    Ensures (disposeReadBlockIfDrained P C) (fun _ s' => Settled s') s := by
  unfold disposeReadBlockIfDrained
  rw [ensures_bind, ensures_seq]
  apply Ensures.ite
  · intro _
    exact .inl h
  · intro _
    apply Ensures.bind (readBlockSizeOf_sound h)
    intro size s₁ h₁
    cases size with
    | none => exact .inr h₁.1
    | some size =>
      rw [ensures_bind, ensures_seq]
      apply Ensures.ite
      · intro _
        apply (disposeReadBlock_sound h₁).mono
        intro disposed s₂ h₂
        cases disposed with
        | true => exact .inl h₂
        | false => exact .inr h₂
      · intro _
        exact .inl h₁

theorem discardOldestBlock_settled (h : Sound s) :
    Ensures (discardOldestBlock P) (fun _ s' => Settled s') s := by
  unfold discardOldestBlock
  rw [ensures_bind, ensures_seq]
  apply Ensures.bind (disposeBlock_sound h _)
  intro disposed s₁ h₁
  cases disposed with
  | true =>
    apply Ensures.bind (Sound.setSeq h₁ rfl)
    intro _ s₂ h₂
    rw [ensures_bind, ensures_seq]
    apply Ensures.bind (nextPresentSequence_sound h₂ _)
    intro next s₃ h₃
    exact .inl ⟨h₃.1.noted (by simp), h₃.2⟩
  | false => exact .inr (Broke.noteDeviceFailure h₁ rfl)

theorem acquireEmptyBlock_sound (h : Sound s) (block : Sequence) :
    Ensures (acquireEmptyBlock P block)
      (fun acquired s' => if acquired then Sound s' else Failed s') s := by
  unfold acquireEmptyBlock
  apply ensures_ask
  have hasked : Sound { s with world := s.world.asked P (.blockExists block) } :=
    ⟨h.1.asked_of_working ⟨rfl, rfl⟩, h.2⟩
  have hcleared : Ensures
      (if (P.answer (.blockExists block) s.world.env).1 then disposeBlock P block else pure true)
      (fun cleared s' => if cleared then Sound s' else Broke (.dispose block) s')
      { s with world := s.world.asked P (.blockExists block) } := by
    apply Ensures.ite
    · intro _
      exact disposeBlock_sound hasked block
    · intro _
      exact hasked
  apply Ensures.bind hcleared
  intro cleared s₁ h₁
  cases cleared with
  | true =>
    apply Ensures.bind (acquireBlock_sound h₁ block)
    intro acquired s₂ h₂
    cases acquired with
    | true => exact h₂
    | false => exact Broke.noteDeviceFailure h₂ rfl
  | false => exact Broke.noteDeviceFailure h₁ rfl

theorem rotateToNextBlock_settled (h : Sound s) :
    Ensures (rotateToNextBlock P C) (fun _ s' => Settled s') s := by
  unfold rotateToNextBlock
  rw [ensures_bind, ensures_seq]
  apply Ensures.bind (acquireEmptyBlock_sound h _)
  intro acquired s₁ h₁
  cases acquired with
  | false => exact .inr h₁
  | true =>
    apply Ensures.bind (Sound.setSeq h₁ rfl)
    intro _ s₂ h₂
    apply Ensures.bind (h₂.setSeq rfl)
    intro _ s₃ h₃
    apply Ensures.bind h₃.noteRun
    intro _ s₄ h₄
    apply Ensures.bind (disposeReadBlockIfDrained_settled h₄)
    intro drained s₅ h₅
    simp only [ensures_bind, ensures_seq]
    apply Ensures.ite
    · intro hevict
      rcases h₅ with h₅ | ⟨_, _, hfailed, _⟩
      · apply Ensures.bind (discardOldestBlock_settled h₅)
        intro evicted s₆ h₆
        exact h₆
      · simp [hfailed] at hevict
    · intro _
      exact h₅

theorem storeIsFull_sound (h : Sound s) :
    Ensures (storeIsFull P C) (fun _ s' => Sound s') s := by
  unfold storeIsFull
  rw [ensures_bind, ensures_seq]
  apply Ensures.ite
  · intro _
    apply ensures_ask
    exact ⟨h.1.asked_of_working ⟨rfl, rfl⟩, h.2⟩
  · intro _
    exact h

theorem prepareForWrite_settled (h : Sound s) (recordSize : Nat) :
    Ensures (prepareForWrite P C recordSize) (fun _ s' => Settled s') s := by
  unfold prepareForWrite
  rw [ensures_bind, ensures_seq]
  apply Ensures.ite
  · intro _
    apply Ensures.bind (storeIsFull_sound h)
    intro full s₁ h₁
    apply Ensures.ite
    · intro _
      apply Ensures.bind (h₁.setSeq rfl)
      intro _ s₂ h₂
      apply Ensures.bind (notifyThresholdCrossed_sound h₂)
      intro _ s₃ h₃
      exact .inl h₃
    · intro _
      exact rotateToNextBlock_settled h₁
  · intro _
    exact .inl h

theorem noteRecordWritten_sound (h : Sound s) (recordSize : Nat) :
    Ensures (noteRecordWritten P C recordSize) (fun _ s' => Sound s') s :=
  notifyThresholdCrossed_sound (s := ⟨_, s.world⟩) h

end BlockSequence

/-! ## The record store -/

namespace RecordStore

variable {s : RecordState σ}

/-- A read of the device failed. -/
def ReadBroken (w : World σ) : Prop :=
  ∃ block offset count, w.Broken (.read block offset count)

/-- What the result of a read says of the device. -/
def Tells (result : ReadResult) (w : World σ) : Prop :=
  if result = .deviceFailed then ReadBroken w else w.Clean

/-- What a read that answers with a value says of the device. -/
def TellsOf {α : Type} (outcome : Except ReadResult α) (w : World σ) : Prop :=
  match outcome with
  | .ok _ => w.Clean
  | .error result => Tells result w

theorem readSpan_tells (h : s.world.Clean) (block : Sequence) (offset count dataSize : Nat) :
    Ensures (readSpan P block offset count dataSize) (fun outcome s' => TellsOf outcome s'.world)
      s := by
  unfold readSpan
  apply Ensures.ite
  · intro _
    apply ensures_ask
    cases hanswer : (P.answer (.read block offset count) s.world.env).1 with
    | some bytes => exact h.asked_of_working ⟨by simp [Event.isFailure, hanswer], rfl⟩
    | none =>
      exact ⟨block, offset, count, h.asked_of_failure _ (by simp [Event.isFailure, hanswer])⟩
  · intro _
    exact h

theorem readHeader_tells (h : s.world.Clean) (block : Sequence) (offset dataSize : Nat) :
    Ensures (readHeader P C block offset dataSize) (fun outcome s' => TellsOf outcome s'.world)
      s := by
  unfold readHeader
  apply Ensures.ite
  · intro _
    apply Ensures.bind (readSpan_tells h _ _ _ _)
    intro outcome s₁ h₁
    rcases outcome with result | bytes
    · exact h₁
    · dsimp only
      split
      · exact h₁
      · exact h₁
  · intro _
    exact h

theorem readRecordExtent_tells (h : s.world.Clean) (block : Sequence) (offset dataSize : Nat) :
    Ensures (readRecordExtent P C block offset dataSize)
      (fun outcome s' => TellsOf outcome s'.world) s := by
  unfold readRecordExtent
  apply Ensures.bind (readHeader_tells h _ _ _)
  intro outcome s₁ h₁
  rcases outcome with result | length
  · exact h₁
  · dsimp only
    rw [ensures_pure]
    split
    · exact h₁
    · exact h₁

theorem openRecord_tells (h : s.world.Clean) (content trailer : Bytes) :
    Ensures (openRecord P content trailer) (fun verdict s' => Tells verdict.1 s'.world) s := by
  unfold openRecord
  apply ensures_ask
  have hasked : (s.world.asked P (.openRecord content trailer)).Clean :=
    h.asked_of_working ⟨rfl, rfl⟩
  dsimp only
  split <;> exact hasked

theorem validateRecord_tells (h : s.world.Clean) (block : Sequence)
    (offset dataSize length : Nat) :
    Ensures (validateRecord P C block offset dataSize length)
      (fun verdict s' => Tells verdict.1 s'.world) s := by
  unfold validateRecord
  apply Ensures.bind (readSpan_tells h _ _ _ _)
  intro message s₁ h₁
  rcases message with result | message
  · exact h₁
  apply Ensures.bind (readSpan_tells h₁ _ _ _ _)
  intro tail s₂ h₂
  rcases tail with result | tail
  · exact h₂
  apply Ensures.ite
  · intro _
    exact h₂
  · intro _
    exact openRecord_tells h₂ _ _

theorem read_tells (h : s.world.Clean) (block : Sequence) (offset dataSize maxSize : Nat) :
    Ensures (read P C block offset dataSize maxSize)
      (fun found s' => Tells found.result s'.world ∧
        (found.result ≠ .succeeded → found.bytes = [])) s := by
  unfold read
  apply Ensures.bind (readRecordExtent_tells h _ _ _)
  intro extent s₁ h₁
  rcases extent with result | length
  · exact ⟨h₁, fun _ => rfl⟩
  apply Ensures.bind (validateRecord_tells h₁ _ _ _ _)
  intro verdict s₂ h₂
  obtain ⟨result, message⟩ := verdict
  have hbytes : result ≠ .succeeded →
      (if result = .succeeded then message.take maxSize else []) = [] := fun hne => if_neg hne
  dsimp only
  split
  · exact ⟨h₂, hbytes⟩
  · exact ⟨h₂, hbytes⟩

theorem append_tells (h : s.world.Clean) (block : Sequence) (data : Bytes) :
    Ensures (append P C block data) (fun result s' =>
      if result = .deviceFailed then ∃ bytes, s'.world.Broken (.append block bytes)
      else s'.world.Clean) s := by
  have hassembled : Ensures (assembleRecord P C data) (fun _ s' => s'.world.Clean) s := by
    unfold assembleRecord
    apply ensures_ask
    have hasked : (s.world.asked P
        (.sealRecord (header (toUint16 data.length) ++ data))).Clean :=
      h.asked_of_working ⟨rfl, rfl⟩
    split <;> exact hasked
  unfold append
  apply Ensures.bind hassembled
  intro assembled s₁ h₁
  cases assembled with
  | none => exact h₁
  | some bytes =>
    apply ensures_ask
    cases hanswer : (P.answer (.append block bytes) s₁.world.env).1 with
    | true => exact h₁.asked_of_working ⟨by simp [Event.isFailure, hanswer], rfl⟩
    | false => exact ⟨bytes, h₁.asked_of_failure _ (by simp [Event.isFailure, hanswer])⟩

theorem markLastReadAsSent_tells (h : s.world.Clean) :
    Ensures (markLastReadAsSent P) (fun result s' =>
      if result = .deviceFailed then ∃ block offset bytes,
        s'.world.Broken (.writeAt block offset bytes)
      else s'.world.Clean) s := by
  unfold markLastReadAsSent
  rw [ensures_bind, ensures_records]
  apply Ensures.ite
  · intro _
    apply ensures_ask
    cases hanswer : (P.answer (.writeAt s.records.lastReadBlockIndex s.records.lastSentFlagOffset
        [sentFlagSent]) s.world.env).1 with
    | true => exact h.asked_of_working ⟨by simp [Event.isFailure, hanswer], rfl⟩
    | false => exact ⟨_, _, _, h.asked_of_failure _ (by simp [Event.isFailure, hanswer])⟩
  · intro _
    exact h

/-- What the result of a scan says of the device. -/
def ScanTells (result : ScanResult) (w : World σ) : Prop :=
  if result = .deviceFailed then ReadBroken w else w.Clean

theorem findFirstUnsentLoop_tells (block : Sequence) (blockSize cursor fuel : Nat)
    (h : s.world.Clean) :
    Ensures (findFirstUnsentLoop P C block blockSize cursor fuel)
      (fun outcome s' => ScanTells outcome.2 s'.world) s := by
  induction fuel generalizing cursor s with
  | zero => exact h
  | succ fuel ih =>
    unfold findFirstUnsentLoop
    apply Ensures.ite
    · intro _
      apply Ensures.bind (readRecordExtent_tells h _ _ _)
      intro extent s₁ h₁
      rcases extent with result | length
      · cases result <;> exact h₁
      apply Ensures.bind (readSpan_tells h₁ _ _ _ _)
      intro flag s₂ h₂
      rcases flag with result | flag
      · cases result <;> exact h₂
      apply Ensures.ite
      · intro _
        exact ih _ h₂
      · intro _
        exact h₂
    · intro _
      exact h

theorem scanToEndLoop_tells (block : Sequence) (blockSize position fuel : Nat)
    (h : s.world.Clean) :
    Ensures (scanToEndLoop P C block blockSize position fuel)
      (fun outcome s' => ScanTells outcome s'.world) s := by
  induction fuel generalizing position s with
  | zero => exact h
  | succ fuel ih =>
    unfold scanToEndLoop
    apply Ensures.ite
    · intro _
      apply Ensures.bind (readRecordExtent_tells h _ _ _)
      intro extent s₁ h₁
      rcases extent with result | length
      · cases result <;> exact h₁
      exact ih _ h₁
    · intro _
      exact h

end RecordStore

end SolidSyslog.Store
