import SolidSyslog.Store.BlockStore

/-!
# Rules for the operations of the store

What each primitive of the three layers does, so that a proof about an operation follows its text.
-/

namespace SolidSyslog.Store

open Lib

variable {σ : Type} {P : Platform σ}

/-- The world after a call. -/
def World.asked (P : Platform σ) (request : Request) (w : World σ) : World σ :=
  ⟨(P.answer request w.env).2, w.trace ++ [.call request (P.answer request w.env).1]⟩

/-- The world after a note. -/
def World.noted (event : Event) (w : World σ) : World σ :=
  { w with trace := w.trace ++ [event] }

@[simp] theorem World.asked_trace (request : Request) (w : World σ) :
    (w.asked P request).trace = w.trace ++ [.call request (P.answer request w.env).1] :=
  rfl

@[simp] theorem World.noted_trace (event : Event) (w : World σ) :
    (w.noted event).trace = w.trace ++ [event] :=
  rfl

@[simp] theorem World.noted_env (event : Event) (w : World σ) : (w.noted event).env = w.env :=
  rfl

/-- A record of any message fits into a block. -/
theorem Config.recordSize_le_maxBlockSize {C : Config} {length : Nat}
    (h : length ≤ C.tunables.maxMessageSize) : C.recordSize length ≤ C.maxBlockSize := by
  unfold maxBlockSize recordSize
  split <;> omega

theorem Config.validateHeader_bounds {C : Config} {bytes : Bytes} {length : Nat}
    (h : C.validateHeader bytes = some length) :
    0 < length ∧ length ≤ C.tunables.maxMessageSize := by
  unfold validateHeader at h
  split at h
  · dsimp only at h
    split at h
    · next hvalid =>
      cases h
      exact ⟨hvalid.2.2.1, hvalid.2.2.2⟩
    · cases h
  · cases h

@[simp] theorem length_header (length : Nat) : (header length).length = contentHeaderSize :=
  rfl

/-- The header a valid header is. -/
theorem Config.eq_header_of_validateHeader {C : Config} {bytes : Bytes} {length : Nat}
    (h : C.validateHeader bytes = some length) : bytes = header length := by
  unfold validateHeader at h
  split at h
  · next m0 m1 l0 l1 =>
    dsimp only at h
    split at h
    · next hvalid =>
      cases h
      obtain ⟨rfl, rfl, -, -⟩ := hvalid
      have hlow := l0.toNat_lt
      have hhigh := l1.toNat_lt
      have hsum : l0.toNat ||| l1.toNat <<< 8 = l1.toNat * 256 + l0.toNat := by
        rw [Nat.or_comm, ← Nat.shiftLeft_add_eq_or_of_lt (by omega), Nat.shiftLeft_eq]
      have hfirst : UInt8.ofNat ((l1.toNat * 256 + l0.toNat) &&& 0xFF) = l0 := by
        rw [Nat.and_two_pow_sub_one_eq_mod _ 8, ← UInt8.toNat_inj, UInt8.toNat_ofNat']
        omega
      have hsecond : UInt8.ofNat (((l1.toNat * 256 + l0.toNat) >>> 8) &&& 0xFF) = l1 := by
        rw [Nat.and_two_pow_sub_one_eq_mod _ 8, Nat.shiftRight_eq_div_pow, ← UInt8.toNat_inj,
          UInt8.toNat_ofNat']
        omega
      rw [header, hsum, hfirst, hsecond]
    · cases h
  · cases h

namespace BlockSequence

@[simp] theorem noteDeviceFailure_deviceFailed (s : BlockSequence) (error : BlockStoreError) :
    (s.noteDeviceFailure error).deviceFailed = true := by
  unfold noteDeviceFailure
  split
  · assumption
  · rfl

@[simp] theorem noteDeviceFailure_oldestSequence (s : BlockSequence) (error : BlockStoreError) :
    (s.noteDeviceFailure error).oldestSequence = s.oldestSequence := by
  unfold noteDeviceFailure
  split <;> rfl

@[simp] theorem noteDeviceFailure_readSequence (s : BlockSequence) (error : BlockStoreError) :
    (s.noteDeviceFailure error).readSequence = s.readSequence := by
  unfold noteDeviceFailure
  split <;> rfl

@[simp] theorem noteDeviceFailure_writePosition (s : BlockSequence) (error : BlockStoreError) :
    (s.noteDeviceFailure error).writePosition = s.writePosition := by
  unfold noteDeviceFailure
  split <;> rfl

@[simp] theorem noteDeviceFailure_readCursor (s : BlockSequence) (error : BlockStoreError) :
    (s.noteDeviceFailure error).readCursor = s.readCursor := by
  unfold noteDeviceFailure
  split <;> rfl

variable {s : SequenceState σ}

@[simp] theorem ensures_seq {Q : BlockSequence → SequenceState σ → Prop} :
    Ensures seq Q s = Q s.seq s :=
  rfl

@[simp] theorem ensures_setSeq {change : BlockSequence → BlockSequence}
    {Q : Unit → SequenceState σ → Prop} :
    Ensures (setSeq change) Q s = Q () { s with seq := change s.seq } :=
  rfl

theorem ensures_ask {β : Type} {request : Request} {f : request.Answer → Action σ β}
    {Q : β → SequenceState σ → Prop}
    (h : Ensures (f (P.answer request s.world.env).1) Q
      { s with world := s.world.asked P request }) : Ensures (ask P request >>= f) Q s :=
  h

@[simp] theorem ensures_note {event : Event} {Q : Unit → SequenceState σ → Prop} :
    Ensures (note event) Q s = Q () { s with world := s.world.noted event } :=
  rfl

@[simp] theorem ensures_noteRun {Q : Unit → SequenceState σ → Prop} :
    Ensures noteRun Q s =
      Q () { s with world := s.world.noted (.run s.seq.oldestSequence s.seq.writeSequence) } :=
  rfl

theorem ensures_acquireBlock {block : Sequence} {Q : Bool → SequenceState σ → Prop}
    (htrue : (P.answer (.acquire block) s.world.env).1 = true → Q true
      ⟨{ s.seq with blockPresent := Function.update s.seq.blockPresent block true },
        s.world.asked P (.acquire block)⟩)
    (hfalse : (P.answer (.acquire block) s.world.env).1 = false → Q false
      ⟨s.seq, s.world.asked P (.acquire block)⟩) : Ensures (acquireBlock P block) Q s := by
  unfold acquireBlock
  apply ensures_ask
  cases hanswer : (P.answer (.acquire block) s.world.env).1 with
  | true => exact htrue hanswer
  | false => exact hfalse hanswer

theorem ensures_disposeBlock {block : Sequence} {Q : Bool → SequenceState σ → Prop}
    (htrue : (P.answer (.dispose block) s.world.env).1 = true → Q true
      ⟨{ s.seq with blockPresent := Function.update s.seq.blockPresent block false },
        s.world.asked P (.dispose block)⟩)
    (hfalse : (P.answer (.dispose block) s.world.env).1 = false → Q false
      ⟨s.seq, s.world.asked P (.dispose block)⟩) : Ensures (disposeBlock P block) Q s := by
  unfold disposeBlock
  apply ensures_ask
  cases hanswer : (P.answer (.dispose block) s.world.env).1 with
  | true => exact htrue hanswer
  | false => exact hfalse hanswer

/-- The notice of a crossed threshold touches one flag and makes three calls, none of the device. -/
theorem notifyThresholdCrossed_keeps {C : Config} {I : SequenceState σ → Prop} (h : I s)
    (hflag : ∀ t crossed, I t → I { t with seq := { t.seq with thresholdCrossed := crossed } })
    (hask : ∀ t request, request = .getCapacityThreshold ∨
      request = .report .warning .storeThresholdCrossed .thresholdCrossed ∨
      request = .onThresholdCrossed → I t → I { t with world := t.world.asked P request }) :
    Ensures (notifyThresholdCrossed P C) (fun _ s' => I s') s := by
  unfold notifyThresholdCrossed
  apply Ensures.ite
  · intro _
    apply ensures_ask
    have hasked := hask s .getCapacityThreshold (.inl rfl) h
    simp only [ensures_bind, ensures_seq]
    apply Ensures.ite
    · intro _
      exact hflag _ false hasked
    · intro _
      simp only [ensures_bind, ensures_seq]
      apply Ensures.ite
      · intro _
        rw [ensures_bind, ensures_setSeq]
        apply ensures_ask
        apply ensures_ask
        exact hask _ _ (.inr (.inr rfl)) (hask _ _ (.inr (.inl rfl)) (hflag _ true hasked))
      · intro _
        exact hasked
  · intro _
    exact h

end BlockSequence

namespace RecordStore

variable {s : RecordState σ}

@[simp] theorem ensures_records {Q : RecordStore → RecordState σ → Prop} :
    Ensures records Q s = Q s.records s :=
  rfl

@[simp] theorem ensures_setRecords {change : RecordStore → RecordStore}
    {Q : Unit → RecordState σ → Prop} :
    Ensures (setRecords change) Q s = Q () { s with records := change s.records } :=
  rfl

theorem ensures_ask {β : Type} {request : Request} {f : request.Answer → Action σ β}
    {Q : β → RecordState σ → Prop}
    (h : Ensures (f (P.answer request s.world.env).1) Q
      { s with world := s.world.asked P request }) : Ensures (ask P request >>= f) Q s :=
  h

end RecordStore

namespace BlockStore

variable {α : Type} {s : BlockStore σ}

@[simp] theorem ensures_seqOf {Q : BlockSequence → BlockStore σ → Prop} :
    Ensures seqOf Q s = Q s.seq s :=
  rfl

@[simp] theorem ensures_onSeq {action : BlockSequence.Action σ α} {Q : α → BlockStore σ → Prop} :
    Ensures (onSeq action) Q s =
      Ensures action (fun a t => Q a { s with seq := t.seq, world := t.world })
        ⟨s.seq, s.world⟩ :=
  rfl

@[simp] theorem ensures_onRecords {action : RecordStore.Action σ α} {Q : α → BlockStore σ → Prop} :
    Ensures (onRecords action) Q s =
      Ensures action (fun a t => Q a { s with records := t.records, world := t.world })
        ⟨s.records, s.world⟩ :=
  rfl

@[simp] theorem ensures_forgetLastRead {Q : Unit → BlockStore σ → Prop} :
    Ensures (onRecords RecordStore.forgetLastRead) Q s =
      Q () { s with records := { s.records with hasReadRecord := false } } :=
  rfl

@[simp] theorem ensures_report {severity : Severity} {category : Category}
    {error : BlockStoreError} {Q : Unit → BlockStore σ → Prop} :
    Ensures (report P severity category error) Q s =
      Q () { s with world := s.world.asked P (.report severity category error) } :=
  rfl

@[simp] theorem ensures_note {event : Event} {Q : Unit → BlockStore σ → Prop} :
    Ensures (note event) Q s = Q () { s with world := s.world.noted event } :=
  rfl

@[simp] theorem ensures_freeze {failedOperation : BlockStoreError}
    {Q : Unit → BlockStore σ → Prop} :
    Ensures (freeze P failedOperation) Q s =
      Q () { s with
        frozen := true
        world := s.world.asked P (.report .error .storeFrozen failedOperation) } :=
  rfl

theorem ensures_freezeIfDeviceFailed {Q : Bool → BlockStore σ → Prop}
    (hfailed : s.seq.deviceFailed = true →
      Ensures (freeze P s.seq.failedOperation) (fun _ s' => Q true s') s)
    (hfine : s.seq.deviceFailed = false → Q false s) :
    Ensures (freezeIfDeviceFailed P) Q s := by
  unfold freezeIfDeviceFailed
  rw [ensures_bind, ensures_seqOf]
  cases hdevice : s.seq.deviceFailed with
  | true => exact hfailed hdevice
  | false => exact hfine hdevice

/-- A property that no report disturbs but that of a freeze or of a crossed threshold, nor what has
been reported. -/
structure Unreported (P : Platform σ) (I : BlockStore σ → Prop) : Prop where
  report : ∀ s severity category error, category ≠ .storeFrozen →
    category ≠ .storeThresholdCrossed → I s →
    I { s with world := s.world.asked P (.report severity category error) }
  latches : ∀ s loss refusal eviction sealFailure, I s → I { s with
    lossReported := loss
    refusalReported := refusal
    evictionReported := eviction
    sealFailureReported := sealFailure }

namespace Unreported

variable {I : BlockStore σ → Prop}

theorem reportRefusal (hI : Unreported P I) (h : I s) :
    Ensures (reportRefusal P) (fun _ s' => I s') s := by
  unfold BlockStore.reportRefusal
  rw [ensures_bind, ensures_get]
  apply Ensures.ite
  · intro _
    exact hI.latches _ _ true _ _ (hI.report _ _ _ _ (by decide) (by decide) h)
  · intro _
    exact h

theorem reportEviction (hI : Unreported P I) (h : I s) :
    Ensures (reportEviction P) (fun _ s' => I s') s := by
  unfold BlockStore.reportEviction
  rw [ensures_bind, ensures_seqOf]
  apply Ensures.ite
  · intro _
    exact hI.latches _ _ _ false _ h
  · intro _
    rw [ensures_bind, ensures_get]
    apply Ensures.ite
    · intro _
      exact hI.latches _ _ _ true _ (hI.report _ _ _ _ (by decide) (by decide) h)
    · intro _
      exact h

theorem reportSealFailed (hI : Unreported P I) (h : I s) :
    Ensures (reportSealFailed P) (fun _ s' => I s') s := by
  unfold BlockStore.reportSealFailed
  rw [ensures_bind, ensures_get]
  apply Ensures.ite
  · intro _
    exact hI.latches _ _ _ _ true (hI.report _ _ _ _ (by decide) (by decide) h)
  · intro _
    exact h

theorem reportLoss (hI : Unreported P I) (h : I s) (fault : BlockStoreError) :
    Ensures (reportLoss P fault) (fun _ s' => I s') s := by
  unfold BlockStore.reportLoss
  rw [ensures_bind, ensures_get]
  apply Ensures.ite
  · intro _
    exact hI.latches _ true _ _ _ (hI.report _ _ _ _ (by decide) (by decide) h)
  · intro _
    exact h

end Unreported

/-! ## The null store -/

/-- What the null store answers. -/
def nullAnswer {C : Config} : Op C → Answer
  | .write _ => .wrote .notRetained
  | .readNextUnsent _ => .read none
  | .markSent => .marked
  | .hasUnsent => .verdict false
  | .isTransient => .verdict true

theorem perform_of_frozen {C : Config} (h : s.frozen = true) (fuel : Nat) (op : Op C) :
    perform P fuel op s = (nullAnswer op, s) := by
  apply Ensures.eq_mk
  unfold perform
  cases op with
  | write message =>
    unfold write
    simp only [ensures_bind, ensures_get, h]
    exact ⟨rfl, rfl⟩
  | readNextUnsent maxSize =>
    unfold readNextUnsent
    simp only [ensures_bind, ensures_get, h]
    exact ⟨rfl, rfl⟩
  | markSent =>
    unfold markSent
    simp only [ensures_bind, ensures_get, h]
    exact ⟨rfl, rfl⟩
  | hasUnsent =>
    simp only [ensures_bind, ensures_get, hasUnsent, h]
    exact ⟨rfl, rfl⟩
  | isTransient =>
    simp only [ensures_bind, ensures_get, isTransient, h]
    exact ⟨rfl, rfl⟩

end BlockStore

end SolidSyslog.Store
