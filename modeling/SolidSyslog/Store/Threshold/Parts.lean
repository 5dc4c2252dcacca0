import SolidSyslog.Store.Threshold.Monitor
import SolidSyslog.Store.Bounds.Operations

/-!
# The latch of the block sequence

What each operation of the block sequence does to the latch, to the bytes used and to the monitor.
The latch moves in `BlockSequence_NotifyThresholdCrossed` alone; an operation that changes the usage
ends in it, or leaves the latch as it was.
-/

namespace SolidSyslog.Store

open Lib

variable {σ : Type} {P : Platform σ} {C : Config} {threshold n : Nat}

/-- The threshold is a constant. -/
def Platform.HasThreshold (P : Platform σ) (threshold : Nat) : Prop :=
  ∀ env, (P.answer .getCapacityThreshold env).1 = threshold

namespace BlockSequence

variable {s s' : SequenceState σ}

/-- The latch is up exactly when the bytes used are at or above a threshold that is not zero. -/
def LatchSettled (C : Config) (threshold : Nat) (q : BlockSequence) : Prop :=
  q.thresholdCrossed = (C.hasThreshold && isAboveThreshold (q.usedBytes C) threshold)

/-- The monitor has the latch and the run as the sequence does, and so many seals have failed. -/
structure Watched (C : Config) (n : Nat) (s : SequenceState σ) : Prop where
  latched : Latched C s.world.trace s.seq.thresholdCrossed
  run : (monitor C s.world.trace).run = some (s.seq.oldestSequence, s.seq.writeSequence)
  off : C.hasThreshold = false → s.seq.thresholdCrossed = false
  seals : failedSeals s.world.trace = n

/-- What the latch and the bytes used depend on is as it was. -/
structure SameUse (q q' : BlockSequence) : Prop where
  thresholdCrossed : q'.thresholdCrossed = q.thresholdCrossed
  atCapacity : q'.atCapacity = q.atCapacity
  oldestSequence : q'.oldestSequence = q.oldestSequence
  writeSequence : q'.writeSequence = q.writeSequence
  writePosition : q'.writePosition = q.writePosition

theorem SameUse.refl (q : BlockSequence) : SameUse q q :=
  ⟨rfl, rfl, rfl, rfl, rfl⟩

theorem SameUse.trans {q q' q'' : BlockSequence} (h : SameUse q q') (h' : SameUse q' q'') :
    SameUse q q'' :=
  ⟨h'.thresholdCrossed.trans h.thresholdCrossed, h'.atCapacity.trans h.atCapacity,
    h'.oldestSequence.trans h.oldestSequence, h'.writeSequence.trans h.writeSequence,
    h'.writePosition.trans h.writePosition⟩

theorem SameUse.noteDeviceFailure (q : BlockSequence) (error : BlockStoreError) :
    SameUse q (q.noteDeviceFailure error) := by
  unfold BlockSequence.noteDeviceFailure
  split <;> exact ⟨rfl, rfl, rfl, rfl, rfl⟩

theorem SameUse.usedBytes {q q' : BlockSequence} (h : SameUse q q') :
    q'.usedBytes C = q.usedBytes C := by
  unfold BlockSequence.usedBytes blockCount
  rw [h.atCapacity, h.oldestSequence, h.writeSequence, h.writePosition]

theorem LatchSettled.same {q q' : BlockSequence} (h : LatchSettled C threshold q)
    (hsame : SameUse q q') :
    LatchSettled C threshold q' := by
  unfold LatchSettled
  rw [hsame.thresholdCrossed, hsame.usedBytes]
  exact h

theorem Watched.still (h : Watched C n s) (hsame : SameUse s.seq s'.seq)
    (htrace : Extends (fun event => event.isStill = true) s.world.trace s'.world.trace) :
    Watched C n s' := by
  refine ⟨?_, ?_, ?_, (failedSeals_of_still htrace).trans h.seals⟩
  · rw [hsame.thresholdCrossed]
    exact h.latched.silent (htrace.mono fun _ => silent_of_still)
  · rw [run_of_still htrace, h.run, hsame.oldestSequence, hsame.writeSequence]
  · rw [hsame.thresholdCrossed]
    exact h.off

/-- The run is noted. -/
theorem watched_noteRun (hlatched : Latched C s.world.trace s.seq.thresholdCrossed)
    (hoff : C.hasThreshold = false → s.seq.thresholdCrossed = false)
    (hseals : failedSeals s.world.trace = n) :
    Watched C n { s with
      world := s.world.noted (.run s.seq.oldestSequence s.seq.writeSequence) } := by
  have hnoted : failedSeals (s.world.noted
      (.run s.seq.oldestSequence s.seq.writeSequence)).trace = n := by
    rw [World.noted_trace, failedSeals_append, hseals]
    rfl
  refine ⟨hlatched.concat rfl, ?_, hoff, hnoted⟩
  rw [World.noted_trace, monitor_concat]
  rfl

/-- The run is noted after it has changed. -/
theorem Watched.noteRun (h : Watched C n s) {q : BlockSequence} {w : World σ}
    (hlatch : q.thresholdCrossed = s.seq.thresholdCrossed)
    (hstill : Extends (fun event => event.isStill = true) s.world.trace w.trace) :
    Watched C n ⟨q, w.noted (.run q.oldestSequence q.writeSequence)⟩ := by
  refine watched_noteRun (s := ⟨q, w⟩) ?_ ?_ ((failedSeals_of_still hstill).trans h.seals)
  · dsimp only
    rw [hlatch]
    exact h.latched.silent (hstill.mono fun _ => silent_of_still)
  · dsimp only
    rw [hlatch]
    exact h.off

/-- The monitor has the bytes used as the sequence has. -/
theorem usedBytes_eq_monitor (h : Watched C n s)
    (hsize : sizesKnown s.world.trace s.seq.writeSequence = some s.seq.writePosition)
    (hrefused : (monitor C s.world.trace).refused = s.seq.atCapacity) :
    (monitor C s.world.trace).usedBytes C = s.seq.usedBytes C := by
  unfold Monitor.usedBytes usedBytes blockCount
  rw [hrefused, h.run, monitor_sizes]
  dsimp only
  rw [hsize, Option.getD_some, Nat.add_sub_cancel]

theorem not_isAbove_of_below {used threshold : Nat} (h : threshold = 0 ∨ used < threshold) :
    isAboveThreshold used threshold = false := by
  rcases h with rfl | hless
  · rfl
  · simp [isAboveThreshold, hless]

theorem isAbove_of_not_below {used threshold : Nat} (h : ¬ (threshold = 0 ∨ used < threshold)) :
    isAboveThreshold used threshold = true := by
  push Not at h
  simpa [isAboveThreshold] using h

/-- The latch is set to what the bytes used ask for, and a rise is announced. -/
theorem notifyThresholdCrossed_watched (hP : P.HasThreshold threshold) (h : Watched C n s)
    (hused : (monitor C s.world.trace).usedBytes C = s.seq.usedBytes C) :
    Ensures (notifyThresholdCrossed P C)
      (fun _ s' => Watched C n s' ∧ LatchSettled C threshold s'.seq) s := by
  unfold notifyThresholdCrossed
  apply Ensures.ite
  · intro hon
    have hoff : C.hasThreshold = false → ∀ latch : Bool, latch = false := fun hno =>
      absurd (hno.symm.trans hon) Bool.false_ne_true
    apply ensures_ask
    simp only [hP s.world.env]
    have hasked := h.latched.asked threshold
    rw [hused] at hasked
    obtain ⟨hlatch, hdue, hcalls⟩ := hasked
    have htrace : (s.world.asked P .getCapacityThreshold).trace =
        s.world.trace ++ [.call .getCapacityThreshold threshold] := by
      rw [World.asked_trace, hP]
    have hrun : (monitor C (s.world.asked P .getCapacityThreshold).trace).run =
        some (s.seq.oldestSequence, s.seq.writeSequence) := by
      rw [htrace, monitor_concat, ← h.run]
      rfl
    have hseals : failedSeals (s.world.asked P .getCapacityThreshold).trace = n := by
      rw [htrace, failedSeals_append, h.seals]
      rfl
    rw [ensures_bind, ensures_seq]
    apply Ensures.ite
    · intro hbelow
      have habove : isAboveThreshold (s.seq.usedBytes C) threshold = false :=
        not_isAbove_of_below hbelow
      rw [ensures_setSeq]
      rw [habove] at hlatch hdue
      refine ⟨⟨⟨?_, ?_, ?_⟩, hrun, fun hno => hoff hno _, hseals⟩, ?_⟩
      · rw [htrace, hlatch]
      · rw [htrace, hdue]
        rfl
      · rw [htrace]
        exact hcalls
      · change false = (C.hasThreshold && isAboveThreshold (s.seq.usedBytes C) threshold)
        rw [habove, Bool.and_false]
    · intro hnotBelow
      have habove : isAboveThreshold (s.seq.usedBytes C) threshold = true :=
        isAbove_of_not_below hnotBelow
      rw [habove] at hlatch hdue
      rw [ensures_bind, ensures_seq]
      cases hcrossed : s.seq.thresholdCrossed with
      | false =>
        rw [hcrossed] at hdue
        rw [Bool.not_false, if_pos rfl, ensures_bind, ensures_setSeq]
        apply ensures_ask
        apply ensures_ask
        rw [ensures_pure]
        have hannounced := Latched.announced hlatch hdue hcalls
        refine ⟨⟨?_, ?_, fun hno => hoff hno _, ?_⟩, ?_⟩
        · dsimp only
          rw [World.asked_trace, World.asked_trace, htrace]
          exact hannounced
        · dsimp only
          rw [World.asked_trace, World.asked_trace, monitor_concat, monitor_concat]
          exact hrun
        · dsimp only
          rw [World.asked_trace, World.asked_trace, failedSeals_append, failedSeals_append, hseals]
          rfl
        · change true = (C.hasThreshold && isAboveThreshold (s.seq.usedBytes C) threshold)
          rw [habove, hon, Bool.and_true]
      | true =>
        rw [hcrossed] at hdue
        rw [Bool.not_true, if_neg Bool.false_ne_true, ensures_pure]
        refine ⟨⟨⟨?_, ?_, ?_⟩, hrun, fun hno => hoff hno _, hseals⟩, ?_⟩
        · dsimp only
          rw [htrace, hlatch, hcrossed]
        · dsimp only
          rw [htrace, hdue]
          rfl
        · dsimp only
          rw [htrace]
          exact hcalls
        · change s.seq.thresholdCrossed =
            (C.hasThreshold && isAboveThreshold (s.seq.usedBytes C) threshold)
          rw [habove, hon, hcrossed, Bool.and_true]
  · intro hno
    refine ⟨h, ?_⟩
    have hoff : C.hasThreshold = false := by simpa using hno
    unfold LatchSettled
    rw [hoff, Bool.false_and]
    exact h.off hoff

/-! ### Reading -/

theorem readBlockSizeOf_use (s : SequenceState σ) :
    Ensures (readBlockSizeOf P) (fun _ s' => SameUse s.seq s'.seq ∧
      Extends (fun event => event.isStill = true) s.world.trace s'.world.trace) s := by
  unfold readBlockSizeOf
  rw [ensures_bind, ensures_seq]
  apply Ensures.ite
  · intro _
    exact ⟨.refl _, .refl _⟩
  · intro _
    apply Ensures.ite
    · intro _
      exact ⟨.refl _, .refl _⟩
    · intro _
      apply ensures_ask
      have hasked : Extends (fun event => Event.isStill event = true) s.world.trace
          (s.world.asked P (.size s.seq.readSequence)).trace :=
        (Extends.refl _).concat rfl
      cases (P.answer (.size s.seq.readSequence) s.world.env).1 with
      | some size => exact ⟨⟨rfl, rfl, rfl, rfl, rfl⟩, hasked⟩
      | none =>
        refine ⟨?_, hasked⟩
        have hunknown : SameUse s.seq { s.seq with readBlockSizeKnown := false } :=
          ⟨rfl, rfl, rfl, rfl, rfl⟩
        exact hunknown.trans (.noteDeviceFailure _ _)

theorem nextPresentSequence_still (s : SequenceState σ) (current : Sequence) :
    Ensures (nextPresentSequence current) (fun _ s' => s'.seq = s.seq ∧
      Extends (fun event => event.isStill = true) s.world.trace s'.world.trace) s := by
  unfold nextPresentSequence
  rw [ensures_bind, ensures_seq]
  split
  · exact ⟨rfl, .refl _⟩
  · exact ⟨rfl, (Extends.refl _).concat rfl⟩

/-- A block disposed of while it was read: the run is noted and the latch set anew. -/
theorem advancePastDisposedReadBlock_watched (hP : P.HasThreshold threshold)
    (hground : Grounded P False C s) (h : Watched C n s)
    (hne : s.seq.writeSequence ≠ s.seq.readSequence)
    (hanswer : (P.answer (.dispose s.seq.readSequence) s.world.env).1 = true) :
    Ensures (advancePastDisposedReadBlock P C)
      (fun _ s' => Watched C n s' ∧ LatchSettled C threshold s'.seq)
      ⟨{ s.seq with
          blockPresent := Function.update s.seq.blockPresent s.seq.readSequence false },
        s.world.asked P (.dispose s.seq.readSequence)⟩ := by
  have hpresent : Function.update s.seq.blockPresent s.seq.readSequence false
      s.seq.writeSequence = true := by
    rw [Function.update_of_ne hne, hground.present]
  have hdisposed : Extends (fun event => Event.isStill event = true) s.world.trace
      (s.world.asked P (.dispose s.seq.readSequence)).trace := (Extends.refl _).concat rfl
  unfold advancePastDisposedReadBlock
  rw [ensures_bind, ensures_seq]
  apply (nextPresentSequence_ends hpresent (hground.readsOldest ▸ hne)).bind
  rintro next _ ⟨rfl, -⟩
  simp only [ensures_bind, ensures_setSeq, ensures_noteRun]
  have hnoted : Watched C n
      ⟨{ ({ s.seq with
            blockPresent := Function.update s.seq.blockPresent s.seq.readSequence false
            oldestSequence := next } : BlockSequence).startReadingBlock next with
          atCapacity := false },
        (s.world.asked P (.dispose s.seq.readSequence)).noted (.run next s.seq.writeSequence)⟩ :=
    h.noteRun rfl hdisposed
  apply notifyThresholdCrossed_watched hP hnoted
  · apply usedBytes_eq_monitor hnoted
    · exact (hground.dropped hne hanswer).position
    · rw [World.noted_trace, monitor_concat]
      rfl

theorem disposeReadBlock_watched (hP : P.HasThreshold threshold)
    (hground : Grounded P False C s) (h : Watched C n s)
    (hne : s.seq.writeSequence ≠ s.seq.readSequence) :
    Ensures (disposeReadBlock P C) (fun disposed s' => Watched C n s' ∧
      (disposed = true → LatchSettled C threshold s'.seq)) s := by
  unfold disposeReadBlock
  rw [ensures_bind, ensures_seq, ensures_bind]
  apply ensures_disposeBlock
  · intro hanswer
    apply (advancePastDisposedReadBlock_watched hP hground h hne hanswer).bind
    rintro _ s' ⟨h', hsettled⟩
    exact ⟨h', fun _ => hsettled⟩
  · intro _
    refine ⟨h.still (SameUse.noteDeviceFailure _ _) ?_, nofun⟩
    exact (Extends.refl _).concat rfl

/-- A read block with nothing left to send goes, or everything stays. -/
theorem disposeReadBlockIfDrained_watched (hP : P.HasThreshold threshold)
    (hground : Grounded P False C s) (h : Watched C n s) :
    Ensures (disposeReadBlockIfDrained P C) (fun _ s' => Watched C n s' ∧
      (LatchSettled C threshold s.seq → s'.seq.deviceFailed = false →
        LatchSettled C threshold s'.seq)) s := by
  unfold disposeReadBlockIfDrained
  rw [ensures_bind, ensures_seq]
  apply Ensures.ite
  · intro _
    exact ⟨h, fun hsettled _ => hsettled⟩
  · intro hother
    apply ((readBlockSizeOf_grounded hground).and (readBlockSizeOf_use s)).bind
    rintro size s₁ ⟨⟨hground₁, hasked⟩, hsame, hstill⟩
    have h₁ : Watched C n s₁ := h.still hsame hstill
    cases size with
    | none => exact ⟨h₁, fun hsettled _ => hsettled.same hsame⟩
    | some size =>
      dsimp only
      rw [ensures_bind, ensures_seq]
      apply Ensures.ite
      · intro _
        have hstays := hasked.stays nofun
        have hne : s₁.seq.writeSequence ≠ s₁.seq.readSequence := by
          rw [hstays.writeSequence, hstays.readSequence]
          exact fun heq => hother (isReadBlockActiveWrite_iff.2 heq.symm)
        apply ((disposeReadBlock_grounded hground₁ hne).and
          (disposeReadBlock_watched hP hground₁ h₁ hne)).mono
        rintro disposed s₂ ⟨⟨-, -, -, hrefused⟩, h₂, hsettled₂⟩
        refine ⟨h₂, fun _ hfine => ?_⟩
        cases disposed with
        | true => exact hsettled₂ rfl
        | false => exact absurd ((hrefused rfl).symm.trans hfine) (by decide)
      · intro _
        exact ⟨h₁, fun hsettled _ => hsettled.same hsame⟩

/-! ### Writing -/

theorem discardOldestBlock_watched (h : Watched C n s) :
    Ensures (discardOldestBlock P) (fun _ s' => Watched C n s') s := by
  unfold discardOldestBlock
  rw [ensures_bind, ensures_seq, ensures_bind]
  apply ensures_disposeBlock
  · intro _
    rw [if_pos rfl, ensures_bind, ensures_setSeq, ensures_bind, ensures_seq]
    apply (nextPresentSequence_still _ _).bind
    rintro next ⟨_, world₁⟩ ⟨rfl, hstill⟩
    simp only [ensures_bind, ensures_setSeq, ensures_noteRun, ensures_pure]
    have hdisposed : Extends (fun event => Event.isStill event = true) s.world.trace
        (s.world.asked P (.dispose s.seq.oldestSequence)).trace := (Extends.refl _).concat rfl
    exact h.noteRun rfl (hdisposed.trans hstill)
  · intro _
    refine h.still (SameUse.noteDeviceFailure _ _) ?_
    exact (Extends.refl _).concat rfl

theorem acquireEmptyBlock_watched (h : Watched C n s) (block : Sequence) :
    Ensures (acquireEmptyBlock P block) (fun acquired s' => Watched C n s' ∧
      (acquired = false → s'.seq.deviceFailed = true)) s := by
  unfold acquireEmptyBlock
  apply ensures_ask
  have hasked : Watched C n { s with world := s.world.asked P (.blockExists block) } :=
    h.still (.refl _) ((Extends.refl _).concat rfl)
  have hcleared : Ensures
      (if (P.answer (.blockExists block) s.world.env).1 then disposeBlock P block else pure true)
      (fun _ s' => Watched C n s') { s with world := s.world.asked P (.blockExists block) } := by
    apply Ensures.ite
    · intro _
      apply ensures_disposeBlock
      all_goals
        intro _
        exact hasked.still ⟨rfl, rfl, rfl, rfl, rfl⟩ ((Extends.refl _).concat rfl)
    · intro _
      exact hasked
  apply Ensures.bind hcleared
  intro cleared s₁ h₁
  apply Ensures.ite
  · intro _
    rw [ensures_bind]
    apply ensures_acquireBlock
    · intro _
      exact ⟨h₁.still ⟨rfl, rfl, rfl, rfl, rfl⟩ ((Extends.refl _).concat rfl), nofun⟩
    · intro _
      exact ⟨h₁.still (SameUse.noteDeviceFailure _ _) ((Extends.refl _).concat rfl),
        fun _ => noteDeviceFailure_deviceFailed _ _⟩
  · intro _
    exact ⟨h₁.still (SameUse.noteDeviceFailure _ _) (.refl _),
      fun _ => noteDeviceFailure_deviceFailed _ _⟩

theorem rotateToNextBlock_watched (hP : P.HasThreshold threshold)
    (hground : Grounded P False C s) (h : Watched C n s) :
    Ensures (rotateToNextBlock P C) (fun rotated s' => Watched C n s' ∧
      (rotated.1 = false → s'.seq.deviceFailed = true)) s := by
  unfold rotateToNextBlock
  rw [ensures_bind, ensures_seq]
  apply ((acquireEmptyBlock_grounded hground ⟨nextSequence_ne _, False.elim⟩).and
    (acquireEmptyBlock_watched h _)).bind
  rintro acquired s₁ ⟨⟨hground₁, hacquired⟩, h₁, hrefused⟩
  apply Ensures.ite
  · intro htrue
    obtain ⟨hstays, hfresh⟩ := hacquired htrue
    simp only [ensures_bind, ensures_setSeq, ensures_noteRun]
    have hadvanced := hground₁.advanced hfresh False.elim
    have hnoted : Watched C n
        ⟨{ s₁.seq.advanceWriteToNewBlock (nextSequence s.seq.writeSequence) with
            evictedUnsent := false },
          s₁.world.noted (.run s₁.seq.oldestSequence (nextSequence s.seq.writeSequence))⟩ :=
      h₁.noteRun rfl (.refl _)
    apply (disposeReadBlockIfDrained_watched hP hadvanced hnoted).mono
    rintro drained s₂ ⟨h₂, -⟩
    simp only [ensures_seq]
    apply Ensures.ite
    · intro _
      apply (discardOldestBlock_watched h₂).bind
      intro evicted s₃ h₃
      exact ⟨h₃, nofun⟩
    · intro _
      exact ⟨h₂, nofun⟩
  · intro hno
    exact ⟨h₁, fun _ => hrefused (by simpa using hno)⟩

/-- A full store that refuses has just had the policy's answer. -/
theorem storeIsFull_watched (h : Watched C n s) :
    Ensures (storeIsFull P C) (fun full s' => Watched C n s' ∧ s'.seq = s.seq ∧
      (full = true → (monitor C s'.world.trace).refused = true)) s := by
  unfold storeIsFull
  rw [ensures_bind, ensures_seq]
  apply Ensures.ite
  · intro _
    apply ensures_ask
    rw [ensures_pure]
    refine ⟨h.still (.refl _) ((Extends.refl _).concat rfl), rfl, fun hfull => ?_⟩
    rw [World.asked_trace, monitor_concat]
    exact hfull
  · intro _
    exact ⟨h, rfl, nofun⟩

/-- A refusal settles the latch; a block with room leaves it as it was; a new block leaves it to the
record that comes. -/
theorem prepareForWrite_watched (hP : P.HasThreshold threshold) (hground : Grounded P False C s)
    (h : Watched C n s) (recordSize : Nat) :
    Ensures (prepareForWrite P C recordSize) (fun prepared s' => Watched C n s' ∧
      (prepared.1 = false → s'.seq.deviceFailed = false → LatchSettled C threshold s'.seq) ∧
      (s.seq.blockIsFull C recordSize = false → s' = s)) s := by
  unfold prepareForWrite
  rw [ensures_bind, ensures_seq]
  apply Ensures.ite
  · intro hfull
    apply ((storeIsFull_grounded hground).and (storeIsFull_watched h)).bind
    rintro full s₁ ⟨⟨hground₁, -, -⟩, h₁, hseq, hrefused⟩
    apply Ensures.ite
    · intro hrefuses
      rw [ensures_bind, ensures_setSeq, ensures_bind]
      have hcapacity : Watched C n { s₁ with seq := { s₁.seq with atCapacity := true } } :=
        ⟨h₁.latched, h₁.run, h₁.off, h₁.seals⟩
      apply (notifyThresholdCrossed_watched hP hcapacity ?_).mono
      · rintro _ s₂ ⟨h₂, hsettled⟩
        rw [ensures_pure]
        exact ⟨h₂, fun _ _ => hsettled, fun hroom => absurd (hroom.symm.trans hfull) (by decide)⟩
      · exact usedBytes_eq_monitor hcapacity hground₁.position (hrefused hrefuses)
    · intro _
      apply (rotateToNextBlock_watched hP hground₁ h₁).mono
      rintro rotated s₂ ⟨h₂, hfailed⟩
      refine ⟨h₂, fun hno hfine => ?_, fun hroom => absurd (hroom.symm.trans hfull) (by decide)⟩
      exact absurd ((hfailed hno).symm.trans hfine) (by decide)
  · intro _
    exact ⟨h, nofun, fun _ => rfl⟩

theorem noteRecordWritten_watched (hP : P.HasThreshold threshold) (h : Watched C n s)
    {recordSize : Nat} (hsize : sizesKnown s.world.trace s.seq.writeSequence =
      some (s.seq.writePosition + recordSize))
    (hrefused : (monitor C s.world.trace).refused = false) :
    Ensures (noteRecordWritten P C recordSize)
      (fun _ s' => Watched C n s' ∧ LatchSettled C threshold s'.seq) s := by
  unfold noteRecordWritten
  simp only [ensures_bind, ensures_setSeq]
  have hwritten : Watched C n { s with seq := { s.seq with
      writePosition := s.seq.writePosition + recordSize, atCapacity := false } } :=
    ⟨h.latched, h.run, h.off, h.seals⟩
  exact notifyThresholdCrossed_watched hP hwritten (usedBytes_eq_monitor hwritten hsize hrefused)

/-! ### Opening -/

theorem scanForBlockPresence_use {numbers : List Sequence} {lastPresent : Option Sequence} :
    Ensures (scanForBlockPresence P lastPresent numbers) (fun _ s' =>
      SameUse s.seq s'.seq ∧
      Extends (fun event => event.isStill = true) s.world.trace s'.world.trace) s := by
  induction numbers generalizing lastPresent s with
  | nil => exact ⟨.refl _, .refl _⟩
  | cons block rest ih =>
    unfold scanForBlockPresence
    apply ensures_ask
    rw [ensures_bind, ensures_setSeq]
    apply ih.mono
    rintro last s' ⟨hsame, htrace⟩
    have hasked : Extends (fun event => Event.isStill event = true) s.world.trace
        (s.world.asked P (.blockExists block)).trace := (Extends.refl _).concat rfl
    have hpresent : SameUse s.seq { s.seq with
        blockPresent := Function.update s.seq.blockPresent block
          (P.answer (.blockExists block) s.world.env).1 } := ⟨rfl, rfl, rfl, rfl, rfl⟩
    exact ⟨hpresent.trans hsame, hasked.trans htrace⟩

theorem scanForExistingBlocks_use (hs : s.seq = initial) (htrace : Latched C s.world.trace false)
    (hseals : failedSeals s.world.trace = n) :
    Ensures (scanForExistingBlocks P) (fun _ s' => Latched C s'.world.trace false ∧
      failedSeals s'.world.trace = n ∧ s'.seq.thresholdCrossed = false ∧
        s'.seq.atCapacity = false) s := by
  unfold scanForExistingBlocks
  apply scanForBlockPresence_use.bind
  rintro last s₁ ⟨hsame, hstill⟩
  have hlatched := htrace.silent (hstill.mono fun _ => silent_of_still)
  have hseals₁ : failedSeals s₁.world.trace = n := (failedSeals_of_still hstill).trans hseals
  have hcrossed : s₁.seq.thresholdCrossed = false := by
    rw [hsame.thresholdCrossed, hs]
    rfl
  have hcapacity : s₁.seq.atCapacity = false := by
    rw [hsame.atCapacity, hs]
    rfl
  cases last with
  | none => exact ⟨hlatched, hseals₁, hcrossed, hcapacity⟩
  | some last => exact ⟨hlatched, hseals₁, hcrossed, hcapacity⟩

theorem openBlocks_watched (hP : P.HasThreshold threshold) (hs : s.seq = initial)
    (htrace : Latched C s.world.trace false) (hseals : failedSeals s.world.trace = n) :
    Ensures (openBlocks P C) (fun opened s' =>
      opened = true → Watched C n s' ∧ LatchSettled C threshold s'.seq) s := by
  unfold openBlocks
  apply ((scanForExistingBlocks_use hs htrace hseals).and (scanForExistingBlocks_present hs)).bind
  rintro found s₁ ⟨⟨hlatched, hseals₁, hcrossed, hcapacity⟩, -, -, -, -, -, hfresh⟩
  have hoff : C.hasThreshold = false → s₁.seq.thresholdCrossed = false := fun _ => hcrossed
  cases found with
  | true =>
    rw [if_pos rfl, ensures_bind, ensures_noteRun, ensures_bind, ensures_seq]
    have hnoted := watched_noteRun (C := C) (hcrossed ▸ hlatched) hoff hseals₁
    apply ensures_ask
    dsimp only [World.noted_env]
    cases hanswer : (P.answer (.size s₁.seq.writeSequence) s₁.world.env).1 with
    | none => rintro ⟨⟩
    | some position =>
      dsimp only
      rw [ensures_bind, ensures_setSeq]
      have hopened : Watched C n
          ⟨{ s₁.seq with writePosition := position },
            (s₁.world.noted (.run s₁.seq.oldestSequence s₁.seq.writeSequence)).asked P
              (.size s₁.seq.writeSequence)⟩ := by
        have hasked : Watched C n
            ⟨s₁.seq, (s₁.world.noted (.run s₁.seq.oldestSequence s₁.seq.writeSequence)).asked P
              (.size s₁.seq.writeSequence)⟩ :=
          hnoted.still (.refl _) ((Extends.refl _).concat rfl)
        exact ⟨hasked.latched, hasked.run, hasked.off, hasked.seals⟩
      apply (notifyThresholdCrossed_watched hP hopened ?_).bind
      · intro _ s' h' _
        exact h'
      · apply usedBytes_eq_monitor hopened
        · dsimp only
          rw [World.asked_trace, sizesKnown_concat, World.noted_env, hanswer]
          exact Function.update_self ..
        · dsimp only
          rw [World.asked_trace, monitor_concat, hcapacity]
          rfl
  | false =>
    obtain ⟨hwrite, hposition⟩ := hfresh rfl
    rw [if_neg Bool.false_ne_true, ensures_bind]
    apply ensures_acquireBlock
    · intro hanswer
      rw [if_pos rfl, ensures_bind, ensures_noteRun]
      have hacquired : Latched C (s₁.world.asked P (.acquire 0)).trace s₁.seq.thresholdCrossed := by
        rw [hcrossed]
        exact hlatched.concat rfl
      have hseals₂ : failedSeals (s₁.world.asked P (.acquire 0)).trace = n :=
        (failedSeals_of_still ((Extends.refl _).concat rfl)).trans hseals₁
      have hnoted := watched_noteRun (s := ⟨{ s₁.seq with
        blockPresent := Function.update s₁.seq.blockPresent 0 true },
        s₁.world.asked P (.acquire 0)⟩) hacquired hoff hseals₂
      apply (notifyThresholdCrossed_watched hP hnoted ?_).bind
      · intro _ s' h' _
        exact h'
      · apply usedBytes_eq_monitor hnoted
        · dsimp only
          rw [World.noted_trace, sizesKnown_concat, World.asked_trace, sizesKnown_concat, hanswer,
            hwrite, hposition]
          simp [Event.learn]
        · dsimp only
          rw [World.noted_trace, monitor_concat, hcapacity]
          rfl
    · intro _
      rintro ⟨⟩

end BlockSequence

end SolidSyslog.Store
