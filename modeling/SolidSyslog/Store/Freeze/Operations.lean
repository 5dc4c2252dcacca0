import SolidSyslog.Store.Freeze.Parts
import SolidSyslog.Lib.Run

/-!
# A failed device is never called again

Every operation of the store starts healthy and ends healthy or frozen, with what the null store
would have answered.
-/

namespace SolidSyslog.Store

open Lib

variable {σ : Type} {P : Platform σ} {C : Config}

namespace BlockStore

variable {s : BlockStore σ}

/-- The device has not failed and the store is not frozen. -/
def Healthy (s : BlockStore σ) : Prop :=
  s.world.Clean ∧ s.seq.deviceFailed = false ∧ s.frozen = false

/-- The store is frozen and has said why. -/
def Frozen (s : BlockStore σ) : Prop :=
  s.frozen = true ∧ phase s.world.trace = .reported

/-- The device failed under the block sequence, which names the operation; the store has yet to
freeze. -/
def SeqFailed (s : BlockStore σ) : Prop :=
  BlockSequence.Failed ⟨s.seq, s.world⟩ ∧ s.frozen = false

theorem freeze_frozen {request : Request} {error : BlockStoreError}
    (h : s.world.Broken request) (hnames : names request error = true) :
    Ensures (freeze P error) (fun _ s' => Frozen s') s := by
  refine ⟨rfl, ?_⟩
  change phase (s.world.trace ++ [.call (.report .error .storeFrozen error) ()]) = .reported
  rw [phase_concat, h]
  simp [Phase.next, Event.freezes, hnames]

/-- The device has not failed, or the block sequence says how it did. -/
def Steady (s : BlockStore σ) : Prop :=
  Healthy s ∨ SeqFailed s

theorem Healthy.forgetLastRead (h : Healthy s) :
    Ensures (onRecords RecordStore.forgetLastRead) (fun _ s' => Healthy s') s :=
  h

theorem Steady.forgetLastRead (h : Steady s) :
    Ensures (onRecords RecordStore.forgetLastRead) (fun _ s' => Steady s') s :=
  h

theorem freezeIfDeviceFailed_of_sound (h : s.seq.deviceFailed = false) :
    Ensures (freezeIfDeviceFailed P) (fun froze s' => froze = false ∧ s' = s) s := by
  apply ensures_freezeIfDeviceFailed
  · intro hfailed
    rw [h] at hfailed
    cases hfailed
  · intro _
    exact ⟨rfl, rfl⟩

theorem freezeIfDeviceFailed_of_seqFailed (h : SeqFailed s) :
    Ensures (freezeIfDeviceFailed P)
      (fun froze s' => froze = true ∧ Frozen s' ∧ s'.seq.deviceFailed = true) s := by
  obtain ⟨⟨request, hbroken, hfailed, hnames⟩, -⟩ := h
  have hkept : Ensures (freeze P s.seq.failedOperation)
      (fun _ s' => s'.seq.deviceFailed = true) s := hfailed
  apply ensures_freezeIfDeviceFailed
  · intro _
    apply ((freeze_frozen hbroken hnames).and hkept).mono
    intro _ s₁ h₁
    exact ⟨rfl, h₁⟩
  · intro hfine
    rw [show s.seq.deviceFailed = true from hfailed] at hfine
    cases hfine

theorem freezeIfDeviceFailed_frozen (h : Steady s) :
    Ensures (freezeIfDeviceFailed P) (fun froze s' =>
      if froze then Frozen s' ∧ s'.seq.deviceFailed = true else Healthy s') s := by
  rcases h with h | h
  · apply (freezeIfDeviceFailed_of_sound h.2.1).mono
    rintro _ _ ⟨rfl, rfl⟩
    exact h
  · apply (freezeIfDeviceFailed_of_seqFailed h).mono
    rintro _ s₁ ⟨rfl, h₁⟩
    exact h₁

theorem Healthy.onSeq {α : Type} {action : BlockSequence.Action σ α} (h : Healthy s)
    (haction : Ensures action (fun _ t => BlockSequence.Settled t) ⟨s.seq, s.world⟩) :
    Ensures (BlockStore.onSeq action) (fun _ s' => Steady s') s := by
  rcases haction with hsound | hfailed
  · exact .inl ⟨hsound.1, hsound.2, h.2.2⟩
  · exact .inr ⟨hfailed, h.2.2⟩

/-- A report other than the freeze leaves a healthy store healthy. -/
theorem Healthy.report (h : Healthy s) {severity : Severity} {category : Category}
    {error : BlockStoreError} (hcategory : category ≠ .storeFrozen) :
    Healthy { s with world := s.world.asked P (.report severity category error) } :=
  ⟨h.1.report hcategory, h.2⟩

theorem healthy_unreported : Unreported (σ := σ) P Healthy where
  report _ _ _ _ hcategory _ h := h.report hcategory
  latches _ _ _ _ _ h := h

/-- How a write ends: healthy, or frozen with the record not retained. -/
def WriteEnd (result : StoreWriteResult) (s : BlockStore σ) : Prop :=
  Healthy s ∨ Frozen s ∧ result = .notRetained

theorem settleAppend_writeEnd (recordSize : Nat) (result : AppendResult)
    (hunfrozen : s.frozen = false) (hseq : s.seq.deviceFailed = false)
    (h : if result = .deviceFailed then ∃ block bytes, s.world.Broken (.append block bytes)
      else s.world.Clean) :
    Ensures (settleAppend P C recordSize result) (fun outcome s' => WriteEnd outcome s') s := by
  cases result with
  | succeeded =>
    have hhealthy : Healthy s := ⟨h, hseq, hunfrozen⟩
    have hwritten : BlockSequence.Sound (σ := σ) ⟨s.seq, s.world⟩ := ⟨h, hseq⟩
    unfold settleAppend
    apply Ensures.bind (Q := fun _ s' => Healthy s')
    · rw [ensures_onSeq]
      apply (BlockSequence.noteRecordWritten_sound hwritten recordSize).mono
      intro _ t ht
      exact ⟨ht.1, ht.2, hunfrozen⟩
    · intro _ s₁ h₁
      exact .inl h₁
  | deviceFailed =>
    obtain ⟨block, bytes, hbroken⟩ := h
    unfold settleAppend
    apply Ensures.bind (freeze_frozen hbroken rfl)
    intro _ s₁ h₁
    exact .inr ⟨h₁, rfl⟩
  | sealFailed =>
    unfold settleAppend
    apply Ensures.bind (healthy_unreported.reportSealFailed ⟨h, hseq, hunfrozen⟩)
    intro _ s₁ h₁
    exact .inl h₁

theorem appendRecord_writeEnd (h : Healthy s) (recordSize : Nat) (data : Bytes) :
    Ensures (appendRecord P C recordSize data) (fun outcome s' => WriteEnd outcome s') s := by
  unfold appendRecord
  rw [ensures_bind, ensures_seqOf, ensures_bind, ensures_onRecords]
  apply (RecordStore.append_tells (s := ⟨s.records, s.world⟩) h.1 _ _).mono
  intro result t ht
  apply settleAppend_writeEnd
  · exact h.2.2
  · exact h.2.1
  · cases result with
    | deviceFailed => exact ⟨_, ht⟩
    | succeeded => exact ht
    | sealFailed => exact ht

theorem storeRecord_writeEnd (h : Healthy s) (data : Bytes) :
    Ensures (storeRecord P C data) (fun outcome s' => WriteEnd outcome s') s := by
  unfold storeRecord
  apply Ensures.bind (h.onSeq (BlockSequence.prepareForWrite_settled ⟨h.1, h.2.1⟩ _))
  intro prepared s₁ h₁
  apply Ensures.bind (freezeIfDeviceFailed_frozen h₁)
  intro froze s₂ h₂
  cases froze with
  | true => exact .inr ⟨h₂.1, rfl⟩
  | false =>
    replace h₂ : Healthy s₂ := h₂
    rw [if_neg (by decide)]
    apply Ensures.ite
    · intro _
      apply Ensures.bind (healthy_unreported.reportRefusal h₂)
      intro _ s₃ h₃
      exact .inl h₃
    · intro _
      apply Ensures.bind (healthy_unreported.reportEviction h₂)
      intro _ s₃ h₃
      apply Ensures.ite
      · intro _
        apply Ensures.bind h₃.forgetLastRead
        intro _ s₄ h₄
        exact appendRecord_writeEnd h₄ _ _
      · intro _
        exact appendRecord_writeEnd h₃ _ _

theorem write_writeEnd (h : Healthy s) (data : Bytes) :
    Ensures (write P C data) (fun outcome s' => WriteEnd outcome s') s := by
  unfold write
  rw [ensures_bind, ensures_get, h.2.2, if_neg (by decide)]
  apply Ensures.ite
  · intro _
    exact storeRecord_writeEnd h data
  · intro _
    exact .inl h

/-! ## Reading -/

/-- How a turn of a loop over the read block ends: healthy, or frozen with no next turn. -/
def TurnEnd (again : Bool) (s : BlockStore σ) : Prop :=
  Healthy s ∨ Frozen s ∧ s.seq.deviceFailed = true ∧ again = false

theorem readNextBlockIfBehind_turnEnd (h : Healthy s) :
    Ensures (readNextBlockIfBehind P C) (fun movedOn s' => TurnEnd movedOn s') s := by
  unfold readNextBlockIfBehind
  rw [ensures_bind, ensures_seqOf]
  apply Ensures.ite
  · intro _
    have hdisposed : Ensures (BlockSequence.disposeReadBlock P C)
        (fun _ t => BlockSequence.Settled t) ⟨s.seq, s.world⟩ := by
      apply (BlockSequence.disposeReadBlock_sound ⟨h.1, h.2.1⟩).mono
      intro disposed t ht
      cases disposed with
      | true => exact .inl ht
      | false => exact .inr ht
    apply Ensures.bind (h.onSeq hdisposed)
    intro _ s₁ h₁
    apply Ensures.bind h₁.forgetLastRead
    intro _ s₂ h₂
    apply Ensures.bind (freezeIfDeviceFailed_frozen h₂)
    intro froze s₃ h₃
    cases froze with
    | true => exact .inr ⟨h₃.1, h₃.2, rfl⟩
    | false => exact .inl h₃
  · intro _
    exact .inl h

theorem abandonRestOfReadBlock_turnEnd (h : Healthy s) :
    Ensures (abandonRestOfReadBlock P C) (fun movedOn s' => TurnEnd movedOn s') s := by
  unfold abandonRestOfReadBlock
  apply Ensures.bind (readNextBlockIfBehind_turnEnd h)
  intro movedOn s₁ h₁
  rw [ensures_bind, ensures_seqOf]
  rcases h₁ with h₁ | ⟨h₁, hfailed, hmoved⟩
  · rw [h₁.2.1]
    apply Ensures.bind (healthy_unreported.reportLoss h₁ _)
    intro _ s₂ h₂
    apply Ensures.ite
    · intro _
      exact .inl h₂
    · intro _
      exact .inl h₂
  · rw [hfailed]
    exact .inr ⟨h₁, hfailed, hmoved⟩

/-- What the store knows once a record has been looked for. -/
def Looked (found : RecordStore.Found) (s : BlockStore σ) : Prop :=
  s.frozen = false ∧ (found.result ≠ .succeeded → found.bytes = []) ∧
    if found.result = .deviceFailed then
      SeqFailed s ∨ RecordStore.ReadBroken s.world ∧ s.seq.deviceFailed = false
    else Healthy s

theorem readCurrent_looked (h : Healthy s) (maxSize : Nat) :
    Ensures (readCurrent P C maxSize) (fun found s' => Looked found s') s := by
  unfold readCurrent
  rw [ensures_bind, ensures_onSeq]
  apply (BlockSequence.readBlockSizeOf_sound ⟨h.1, h.2.1⟩).mono
  intro size t ht
  cases size with
  | none => exact ⟨h.2.2, fun _ => rfl, .inl ⟨ht.1, h.2.2⟩⟩
  | some size =>
    replace ht : BlockSequence.Sound t := ht
    dsimp only
    rw [ensures_bind, ensures_seqOf, ensures_onRecords]
    apply (RecordStore.read_tells ht.1 _ _ _ _).mono
    intro found u hu
    refine ⟨h.2.2, hu.2, ?_⟩
    have htells := hu.1
    unfold RecordStore.Tells at htells
    split
    · next hfailed =>
      rw [if_pos hfailed] at htells
      exact .inr ⟨htells, ht.2⟩
    · next hfine =>
      rw [if_neg hfine] at htells
      exact ⟨htells, ht.2, h.2.2⟩

theorem Looked.healthy {found : RecordStore.Found} (h : Looked found s)
    (hfine : found.result ≠ .deviceFailed) : Healthy s := by
  have hs := h.2.2
  rwa [if_neg hfine] at hs

/-- How a turn of the read loop ends: healthy, with the device failed and no next turn, or frozen
with nothing found. -/
def LoopEnd (found : RecordStore.Found) (again : Bool) (s : BlockStore σ) : Prop :=
  if again then Healthy s else Looked found s ∨ Frozen s ∧ found.bytes = [] ∧
    found.result ≠ .succeeded ∧ found.result ≠ .deviceFailed

theorem TurnEnd.loopEnd {found : RecordStore.Found} {again : Bool} (h : TurnEnd again s)
    (hempty : found.bytes = []) (hunread : found.result ≠ .succeeded)
    (hfine : found.result ≠ .deviceFailed) : LoopEnd found again s := by
  unfold LoopEnd
  rcases h with h | ⟨h, -, rfl⟩
  · split
    · exact h
    · exact .inl ⟨h.2.2, fun _ => hempty, by rwa [if_neg hfine]⟩
  · exact .inr ⟨h, hempty, hunread, hfine⟩

theorem stepPast_loopEnd (found : RecordStore.Found) (h : Looked found s) :
    Ensures (stepPast P C found) (fun again s' => LoopEnd found again s') s := by
  obtain ⟨result, length, bytes⟩ := found
  unfold stepPast
  cases result with
  | rejected =>
    have hs : Healthy s := h.healthy (by simp)
    have hnoted : Ensures (note (.steppedPast s.seq.readSequence s.seq.readCursor length))
        (fun _ s' => Healthy s') s := ⟨hs.1.noted (by simp), hs.2⟩
    dsimp only
    rw [ensures_bind, ensures_seqOf, ensures_bind, ensures_seqOf]
    apply Ensures.bind hnoted
    intro _ s₁ h₁
    unfold stepPastRejected
    apply Ensures.bind (healthy_unreported.reportLoss h₁ _)
    intro _ s₂ h₂
    exact h₂
  | finishedWith =>
    have hs : Healthy s := h.healthy (by simp)
    exact hs
  | endOfData =>
    have hs : Healthy s := h.healthy (by simp)
    apply (readNextBlockIfBehind_turnEnd hs).mono
    intro movedOn s₁ hend
    exact hend.loopEnd (h.2.1 (by simp)) (by simp) (by simp)
  | corrupt =>
    have hs : Healthy s := h.healthy (by simp)
    apply (abandonRestOfReadBlock_turnEnd hs).mono
    intro movedOn s₁ hend
    exact hend.loopEnd (h.2.1 (by simp)) (by simp) (by simp)
  | succeeded => exact .inl h
  | couldNotOpen => exact .inl h
  | deviceFailed => exact .inl h

theorem readLoop_loopEnd (h : Healthy s) (maxSize fuel : Nat) :
    Ensures (readLoop P C maxSize fuel) (fun found s' =>
      match found with
      | none => Healthy s'
      | some found => LoopEnd found false s') s := by
  induction fuel generalizing s with
  | zero => exact h
  | succ fuel ih =>
    unfold readLoop
    apply Ensures.bind (readCurrent_looked h maxSize)
    intro found s₁ h₁
    apply Ensures.bind (stepPast_loopEnd found h₁)
    intro again s₂ h₂
    cases again with
    | true => exact ih h₂
    | false => exact h₂

/-- How a read ends: healthy, or frozen with nothing read. -/
def ReadEnd (bytes : Bytes) (s : BlockStore σ) : Prop :=
  Healthy s ∨ Frozen s ∧ bytes = []

theorem settleRead_readEnd (found : RecordStore.Found) (h : LoopEnd found false s) :
    Ensures (settleRead P found) (fun _ s' => ReadEnd found.bytes s') s := by
  obtain ⟨result, length, bytes⟩ := found
  rcases h with h | ⟨h, hempty, hunread, hfine⟩
  · unfold settleRead
    cases result with
    | succeeded =>
      have hs : Healthy s := h.healthy (by simp)
      exact .inl ⟨hs.1.noted (by simp), hs.2⟩
    | deviceFailed =>
      have hempty : bytes = [] := h.2.1 (by simp)
      rcases h.2.2 with hseq | ⟨⟨block, offset, count, hbroken⟩, hfirst⟩
      · apply Ensures.bind (freezeIfDeviceFailed_of_seqFailed hseq)
        rintro _ s₁ ⟨rfl, h₁⟩
        exact .inr ⟨h₁.1, hempty⟩
      · apply Ensures.bind (freezeIfDeviceFailed_of_sound hfirst)
        rintro _ _ ⟨rfl, rfl⟩
        apply (freeze_frozen hbroken rfl).mono
        intro _ s₁ h₁
        exact .inr ⟨h₁, hempty⟩
    | _ => exact .inl (h.healthy (by simp))
  · unfold settleRead
    cases result with
    | succeeded => exact absurd rfl hunread
    | deviceFailed => exact absurd rfl hfine
    | _ => exact .inr ⟨h, hempty⟩

theorem readNextUnsent_readEnd (h : Healthy s) (fuel maxSize : Nat) :
    Ensures (readNextUnsent P C fuel maxSize) (fun outcome s' =>
      Healthy s' ∨ Frozen s' ∧ outcome = some none) s := by
  unfold readNextUnsent
  rw [ensures_bind, ensures_get, h.2.2, if_neg (by decide), ensures_bind, ensures_seqOf]
  apply Ensures.ite
  · intro _
    apply Ensures.bind (readLoop_loopEnd h maxSize fuel)
    intro found s₁ h₁
    cases found with
    | none => exact .inl h₁
    | some found =>
      apply Ensures.bind (settleRead_readEnd found h₁)
      intro _ s₂ h₂
      rcases h₂ with h₂ | ⟨h₂, hempty⟩
      · exact .inl h₂
      · rw [hempty]
        exact .inr ⟨h₂, rfl⟩
  · intro _
    exact .inl h

theorem markSent_end (h : Healthy s) :
    Ensures (markSent P C) (fun _ s' => Healthy s' ∨ Frozen s') s := by
  unfold markSent
  rw [ensures_bind, ensures_get, h.2.2, if_neg (by decide), ensures_bind, ensures_onRecords]
  apply (RecordStore.markLastReadAsSent_tells (s := ⟨s.records, s.world⟩) h.1).mono
  intro result t ht
  cases result with
  | nothingRead => exact .inl ⟨ht, h.2⟩
  | deviceFailed =>
    obtain ⟨block, offset, bytes, hbroken⟩ := ht
    apply (freeze_frozen hbroken rfl).mono
    intro _ s₁ h₁
    exact .inr h₁
  | succeeded nextCursor =>
    have hmoved : Ensures (modify fun s : BlockStore σ =>
        { s with seq := s.seq.setReadCursor nextCursor }) (fun _ s' => Healthy s')
        { s with records := t.records, world := t.world } := ⟨ht, h.2⟩
    apply Ensures.bind hmoved
    intro _ s₁ h₁
    apply Ensures.bind
      (h₁.onSeq (BlockSequence.disposeReadBlockIfDrained_settled ⟨h₁.1, h₁.2.1⟩))
    intro changed s₂ h₂
    apply Ensures.bind (freezeIfDeviceFailed_frozen h₂)
    intro froze s₃ h₃
    cases froze with
    | true => exact .inr h₃.1
    | false =>
      apply Ensures.ite
      · intro _
        exact .inl h₃
      · intro _
        exact .inl h₃

/-! ## Starting -/

/-- How a scan at the start ends: healthy, or frozen with the failure in the result. -/
def ScanEnd (result : ScanResult) (s : BlockStore σ) : Prop :=
  if result = .deviceFailed then Frozen s else Healthy s

theorem scanReadBlock_scanEnd (h : Healthy s) :
    Ensures (scanReadBlock P C) (fun result s' => ScanEnd result s') s := by
  unfold scanReadBlock
  rw [ensures_bind, ensures_onSeq]
  apply (BlockSequence.readBlockSizeOf_sound ⟨h.1, h.2.1⟩).mono
  intro size t ht
  cases size with
  | none =>
    obtain ⟨⟨request, hbroken, -, hnames⟩, hsize⟩ := ht
    rw [hsize] at hnames
    apply Ensures.bind (freeze_frozen hbroken hnames)
    intro _ s₁ h₁
    exact h₁
  | some size =>
    replace ht : BlockSequence.Sound t := ht
    dsimp only
    rw [ensures_bind, ensures_seqOf, ensures_bind, ensures_onRecords]
    apply (RecordStore.findFirstUnsentLoop_tells _ _ _ _ ht.1).mono
    intro outcome u hu
    obtain ⟨cursor, result⟩ := outcome
    rw [ensures_bind, ensures_modify]
    cases result with
    | deviceFailed =>
      obtain ⟨block, offset, count, hbroken⟩ := hu
      apply Ensures.bind (freeze_frozen hbroken rfl)
      intro _ s₁ h₁
      exact h₁
    | clean => exact ⟨hu, ht.2, h.2.2⟩
    | corrupt => exact ⟨hu, ht.2, h.2.2⟩

theorem checkWriteBlock_end (h : Healthy s) :
    Ensures (checkWriteBlock P C) (fun _ s' => Healthy s' ∨ Frozen s') s := by
  unfold checkWriteBlock
  rw [ensures_bind, ensures_seqOf, ensures_bind, ensures_onRecords]
  apply (RecordStore.scanToEndLoop_tells (s := ⟨s.records, s.world⟩) _ _ _ _ h.1).mono
  intro result t ht
  cases result with
  | deviceFailed =>
    obtain ⟨block, offset, count, hbroken⟩ := ht
    apply (freeze_frozen hbroken rfl).mono
    intro _ s₁ h₁
    exact .inr h₁
  | clean => exact .inl ⟨ht, h.2⟩
  | corrupt => exact .inl ⟨ht, h.2⟩

/-- How the resume loop ends: healthy, or frozen with the failure in the result or in the
sequence. -/
def ResumeEnd (result : ScanResult) (s : BlockStore σ) : Prop :=
  Healthy s ∧ result ≠ .deviceFailed ∨
    Frozen s ∧ (result = .deviceFailed ∨ s.seq.deviceFailed = true)

theorem resumeLoop_resumeEnd (h : Healthy s) (fuel : Nat) :
    Ensures (resumeLoop P C fuel) (fun result s' => ResumeEnd result s') s := by
  have hclean : ScanResult.clean ≠ .deviceFailed := by decide
  have hcorrupt : ScanResult.corrupt ≠ .deviceFailed := by decide
  induction fuel generalizing s with
  | zero => exact .inl ⟨⟨h.1.noted (by simp), h.2⟩, hclean⟩
  | succ fuel ih =>
    unfold resumeLoop
    apply Ensures.bind (scanReadBlock_scanEnd h)
    intro result s₁ h₁
    cases result with
    | deviceFailed => exact .inr ⟨h₁, .inl rfl⟩
    | clean => exact .inl ⟨h₁, hclean⟩
    | corrupt =>
      apply Ensures.bind (abandonRestOfReadBlock_turnEnd h₁)
      intro movedOn s₂ h₂
      rcases h₂ with h₂ | ⟨h₂, hfailed, rfl⟩
      · cases movedOn with
        | true => exact ih h₂
        | false => exact .inl ⟨h₂, hcorrupt⟩
      · exact .inr ⟨h₂, .inr hfailed⟩

theorem resumeFromExistingBlock_end (h : Healthy s) :
    Ensures (resumeFromExistingBlock P C) (fun _ s' => Healthy s' ∨ Frozen s') s := by
  unfold resumeFromExistingBlock
  apply Ensures.bind (resumeLoop_resumeEnd h _)
  intro result s₁ h₁
  rw [ensures_bind, ensures_seqOf]
  rcases h₁ with ⟨h₁, -⟩ | ⟨h₁, hfailed⟩
  · apply Ensures.ite
    · intro _
      exact checkWriteBlock_end h₁
    · intro _
      exact .inl h₁
  · rw [if_neg]
    · exact .inr h₁
    · rcases hfailed with rfl | hfailed
      · simp
      · simp [hfailed]

theorem initialise_end (h : Healthy s) :
    Ensures (initialise P C) (fun _ s' => Healthy s' ∨ Frozen s') s := by
  unfold initialise
  rw [ensures_bind, ensures_onSeq]
  apply (BlockSequence.openBlocks_sound ⟨h.1, h.2.1⟩).mono
  intro opened t ht
  cases opened with
  | true =>
    have hopened : Healthy { s with seq := t.seq, world := t.world } := ⟨ht.1, ht.2, h.2.2⟩
    exact resumeFromExistingBlock_end hopened
  | false =>
    obtain ⟨request, hbroken, -, hnames⟩ := ht
    rw [if_neg (by decide), ensures_bind, ensures_seqOf]
    apply (freeze_frozen hbroken hnames).mono
    intro _ s₁ h₁
    exact .inr h₁

theorem create_end (h : Healthy s) :
    Ensures (create P C) (fun _ s' => Healthy s' ∨ Frozen s') s := by
  unfold create
  apply Ensures.ite
  · intro _
    rw [ensures_bind, ensures_report]
    exact initialise_end (h.report (by decide))
  · intro _
    exact initialise_end h

/-! ## Runs -/

theorem perform_end (h : Healthy s) (fuel : Nat) (op : Op C) :
    Ensures (perform P fuel op)
      (fun answer s' => Healthy s' ∨ Frozen s' ∧ answer = nullAnswer op) s := by
  unfold perform
  cases op with
  | write message =>
    apply Ensures.bind (write_writeEnd h message.bytes)
    intro result s₁ h₁
    rcases h₁ with h₁ | ⟨h₁, rfl⟩
    · exact .inl h₁
    · exact .inr ⟨h₁, rfl⟩
  | readNextUnsent maxSize =>
    apply Ensures.bind (readNextUnsent_readEnd h fuel maxSize)
    intro outcome s₁ h₁
    rcases h₁ with h₁ | ⟨h₁, rfl⟩
    · cases outcome with
      | none => exact .inl h₁
      | some bytes => exact .inl h₁
    · exact .inr ⟨h₁, rfl⟩
  | markSent =>
    apply Ensures.bind (markSent_end h)
    intro _ s₁ h₁
    rcases h₁ with h₁ | h₁
    · exact .inl h₁
    · exact .inr ⟨h₁, rfl⟩
  | hasUnsent => exact .inl h
  | isTransient => exact .inl h

/-- Every call of the store leaves it healthy or frozen. -/
theorem healthy_or_frozen {env : σ} {ops : List (Op C)} {answers : List Answer}
    (hrun : Run (Step P) (created P C env) ops answers s) : Healthy s ∨ Frozen s := by
  apply hrun.invariant (D := fun _ => True) (I := fun s => Healthy s ∨ Frozen s)
  · exact fun _ _ => trivial
  · exact create_end ⟨rfl, rfl, rfl⟩
  · rintro s op answer s' - h ⟨fuel, hstep⟩
    rcases h with h | h
    · have hend := perform_end (P := P) h fuel op
      unfold Ensures at hend
      rw [hstep] at hend
      exact hend.imp_right And.left
    · rw [perform_of_frozen h.1] at hstep
      cases hstep
      exact .inr h

end BlockStore

/-- The first call of the device that failed and what came after it. -/
def firstFailure : List Event → Option (Request × List Event)
  | [] => none
  | .call request answer :: rest =>
    if Event.isFailure (.call request answer) then some (request, rest) else firstFailure rest
  | _ :: rest => firstFailure rest

theorem firstFailure_append {before rest : List Event} (h : ∀ e ∈ before, e.isWorking) :
    firstFailure (before ++ rest) = firstFailure rest := by
  induction before with
  | nil => rfl
  | cons event before ih =>
    have hrest := ih fun e he => h e (List.mem_cons_of_mem _ he)
    cases event with
    | call request answer =>
      have hworks := (h _ List.mem_cons_self).1
      simpa [firstFailure, hworks] using hrest
    | _ => exact hrest

theorem filterMap_freezes_eq_nil {trace : List Event} (h : ∀ e ∈ trace, e.freezes = none) :
    trace.filterMap Event.freezes = [] :=
  List.filterMap_eq_nil_iff.2 h

namespace BlockStore

variable {s : BlockStore σ}

theorem Healthy.firstFailure (h : Healthy s) : firstFailure s.world.trace = none := by
  have hsays := phase_says s.world.trace
  rw [h.1] at hsays
  rw [← List.append_nil s.world.trace, firstFailure_append hsays]
  rfl

theorem Frozen.firstFailure (h : Frozen s) : ∃ failed after error,
    Store.firstFailure s.world.trace = some (failed, after) ∧
      (∀ e ∈ after, e.isDeviceCall = false) ∧
      s.world.trace.filterMap Event.freezes = [error] ∧ names failed error = true := by
  have hsays := phase_says s.world.trace
  rw [h.2] at hsays
  obtain ⟨before, failed, answer, between, frozen, error, after, htrace, hfail, hfrozen, hnames,
    hbefore, hbetween, hafter⟩ := hsays
  have hfailed : (Event.call failed answer).freezes = none := by
    cases failed <;> first | rfl | cases hfail
  have hquiet : frozen.isDeviceCall = false := by
    unfold Event.freezes at hfrozen
    split at hfrozen
    · rfl
    · cases hfrozen
  refine ⟨failed, between ++ frozen :: after, error, ?_, ?_, ?_, hnames⟩
  · rw [htrace, firstFailure_append hbefore]
    simp [Store.firstFailure, hfail]
  · intro e he
    rcases List.mem_append.1 he with he | he
    · exact (hbetween e he).1
    · rcases List.mem_cons.1 he with rfl | he
      · exact hquiet
      · exact (hafter e he).1
  · rw [htrace]
    simp [List.filterMap_append, filterMap_freezes_eq_nil fun e he => (hbefore e he).2,
      filterMap_freezes_eq_nil fun e he => (hbetween e he).2,
      filterMap_freezes_eq_nil fun e he => (hafter e he).2, hfailed, hfrozen]

/-- Whatever the device answers, in every run from `Create`: after its first failed call the device
is never called again, one `STORE_FROZEN` names that call, the operation under way answers as the
null store does, and so does every operation after it, which changes nothing. -/
theorem failed_device_never_called_again (P : Platform σ) (C : Config) (env : σ)
    {ops : List (Op C)} {answers : List Answer} {s : BlockStore σ}
    (hrun : Run (Step P) (created P C env) ops answers s) :
    (∀ failed after, Store.firstFailure s.world.trace = some (failed, after) →
      (∀ e ∈ after, e.isDeviceCall = false) ∧
      (∃ error, s.world.trace.filterMap Event.freezes = [error] ∧ names failed error = true) ∧
      ∀ {op : Op C} {answer s'}, Step P s op answer s' → answer = nullAnswer op ∧ s' = s) ∧
    ∀ {op : Op C} {answer s'}, Step P s op answer s' →
      Store.firstFailure s'.world.trace ≠ none → answer = nullAnswer op := by
  constructor
  · intro failed after hfailed
    rcases healthy_or_frozen hrun with h | h
    · rw [h.firstFailure] at hfailed
      cases hfailed
    · obtain ⟨failed', after', error, hfirst, hafter, hfreezes, hnames⟩ := h.firstFailure
      rw [hfirst] at hfailed
      cases hfailed
      refine ⟨hafter, ⟨error, hfreezes, hnames⟩, ?_⟩
      rintro op answer s' ⟨fuel, hstep⟩
      rw [perform_of_frozen h.1] at hstep
      cases hstep
      exact ⟨rfl, rfl⟩
  · rintro op answer s' ⟨fuel, hstep⟩ hfailed
    rcases healthy_or_frozen hrun with h | h
    · have hend := perform_end (P := P) h fuel op
      unfold Ensures at hend
      rw [hstep] at hend
      rcases hend with hend | ⟨_, hnull⟩
      · exact absurd hend.firstFailure hfailed
      · exact hnull
    · rw [perform_of_frozen h.1] at hstep
      cases hstep
      rfl

/-- A device that is empty, gives blocks and takes no bytes. -/
def refusingDevice : Platform Unit where
  answer request _ := (match request with
    | .acquire _ => true
    | .dispose _ => true
    | .blockExists _ => false
    | .read _ _ _ => none
    | .append _ _ => false
    | .writeAt _ _ _ => false
    | .size _ => some 0
    | .sealRecord content => some (content, [])
    | .openRecord content _ => (.opened, content)
    | .getDiscardPolicy => .oldest
    | .getCapacityThreshold => 0
    | .onThresholdCrossed => ()
    | .report _ _ _ => (), ())

/-- The state after one write to a store on such a device. -/
def afterRefusedAppend : BlockStore Unit :=
  (perform refusingDevice (C := .small) 0 (.write ⟨[65], by decide⟩)
    (created refusingDevice .small ())).2

theorem refused_append_never_called_again : ∃ failed after,
    Store.firstFailure afterRefusedAppend.world.trace = some (failed, after) ∧
      (∀ e ∈ after, e.isDeviceCall = false) ∧
      ∃ error, afterRefusedAppend.world.trace.filterMap Event.freezes = [error] ∧
        names failed error = true := by
  have hrun : Run (Step refusingDevice) (created refusingDevice .small ())
      [Op.write (C := .small) ⟨[65], by decide⟩] [.wrote .notRetained] afterRefusedAppend :=
    .cons ⟨0, Prod.ext (by decide +kernel) rfl⟩ (.nil _)
  have hfailed : (Store.firstFailure afterRefusedAppend.world.trace).isSome = true := by
    decide +kernel
  obtain ⟨⟨failed, after⟩, hfirst⟩ := Option.isSome_iff_exists.1 hfailed
  obtain ⟨hafter, hfrozen, -⟩ :=
    (failed_device_never_called_again refusingDevice .small () hrun).1 failed after hfirst
  exact ⟨failed, after, hfirst, hafter, hfrozen⟩

end BlockStore

end SolidSyslog.Store
