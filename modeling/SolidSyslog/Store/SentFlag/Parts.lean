import SolidSyslog.Store.SentFlag.Trace

/-!
# The parts of the store and the record handed out

What each operation of the block sequence and of the record store does to the block being read, and
so to the record handed out from it. Nothing here depends on what the device answers.
-/

namespace SolidSyslog.Store

open Lib

variable {σ : Type} {P : Platform σ} {C : Config}

/-! ## The block sequence -/

namespace BlockSequence

variable {s s' s'' : SequenceState σ}

/-- The read position and its block's record handed out are as they were. -/
structure Undisturbed (C : Config) (s s' : SequenceState σ) : Prop where
  readSequence : s'.seq.readSequence = s.seq.readSequence
  readCursor : s'.seq.readCursor = s.seq.readCursor
  oldestSequence : s'.seq.oldestSequence = s.seq.oldestSequence
  leaves : World.Leaves C s.seq.readSequence s.world s'.world

theorem Undisturbed.refl (s : SequenceState σ) : Undisturbed C s s :=
  ⟨rfl, rfl, rfl, .refl _⟩

theorem Undisturbed.trans (h : Undisturbed C s s') (h' : Undisturbed C s' s'') :
    Undisturbed C s s'' where
  readSequence := h'.readSequence.trans h.readSequence
  readCursor := h'.readCursor.trans h.readCursor
  oldestSequence := h'.oldestSequence.trans h.oldestSequence
  leaves := h.leaves.trans (h.readSequence ▸ h'.leaves)

/-- The flags written so far lie before the read cursor. -/
structure Marked (C : Config) (s : SequenceState σ) : Prop where
  marks : Always (MarksRecord C) s.world.trace
  readsOldest : s.seq.readSequence = s.seq.oldestSequence
  passed : ∀ flag ∈ flagsWritten s.world.trace,
    flag.1 = s.seq.readSequence ∧ flag.2 < s.seq.readCursor

theorem Marked.undisturbed (h : Marked C s) (h' : Undisturbed C s s') : Marked C s' where
  marks := h'.leaves.marks h.marks
  readsOldest := by rw [h'.readSequence, h'.oldestSequence, h.readsOldest]
  passed flag hflag := by
    rw [h'.readSequence, h'.readCursor]
    exact h.passed flag (h'.leaves.flags flag hflag)

theorem notifyThresholdCrossed_undisturbed (s : SequenceState σ) :
    Ensures (notifyThresholdCrossed P C) (fun _ s' => Undisturbed C s s') s := by
  apply notifyThresholdCrossed_keeps (I := fun t => Undisturbed C s t) (.refl s)
  · intro t crossed ht
    exact ⟨ht.readSequence, ht.readCursor, ht.oldestSequence, ht.leaves⟩
  · intro t request hrequest ht
    refine ⟨ht.readSequence, ht.readCursor, ht.oldestSequence, ht.leaves.trans ?_⟩
    apply World.leaves_asked
    rcases hrequest with rfl | rfl | rfl <;> rfl

theorem marked_of_unflagged (h : s.world.Unflagged C)
    (hread : s.seq.readSequence = s.seq.oldestSequence) : Marked C s :=
  ⟨h.marks, hread, by simp [h.none]⟩

/-- The flags of the block being read go with it. -/
theorem Marked.flags_touched (h : Marked C s) :
    (flagsWritten s.world.trace).filter (·.1 ≠ s.seq.readSequence) = [] := by
  rw [List.filter_eq_nil_iff]
  intro flag hflag
  simp [(h.passed flag hflag).1]

/-- The block being read is acquired or disposed of. -/
theorem Marked.touched (h : Marked C s) {request : Request}
    (hrequest : request = .acquire s.seq.readSequence ∨ request = .dispose s.seq.readSequence) :
    (s.world.asked P request).Unflagged C where
  marks := by
    rcases hrequest with rfl | rfl <;> exact h.marks.concat trivial
  none := by
    rw [World.asked_trace, flagsWritten, List.foldl_append, ← flagsWritten]
    rcases hrequest with rfl | rfl <;> exact h.flags_touched

theorem Marked.noteDeviceFailure (h : Marked C s) (error : BlockStoreError) :
    Marked C { s with seq := s.seq.noteDeviceFailure error } :=
  h.undisturbed ⟨by simp, by simp, by simp, .refl _⟩

theorem nextPresentSequence_undisturbed (s : SequenceState σ) (current : Sequence) :
    Ensures (nextPresentSequence current) (fun _ s' => Undisturbed C s s') s := by
  unfold nextPresentSequence
  rw [ensures_bind, ensures_seq]
  split
  · exact .refl s
  · exact ⟨rfl, rfl, rfl, World.leaves_noted rfl⟩

theorem advancePastDisposedReadBlock_marked (h : s.world.Unflagged C) :
    Ensures (advancePastDisposedReadBlock P C)
      (fun _ s' => Marked C s' ∧ s'.seq.readCursor = 0) s := by
  unfold advancePastDisposedReadBlock
  rw [ensures_bind, ensures_seq]
  apply Ensures.bind (nextPresentSequence_undisturbed s _)
  intro next s₁ h₁
  have hleaves : World.Leaves C s₁.seq.readSequence s₁.world
      (s₁.world.noted (.run next s₁.seq.writeSequence)) := World.leaves_noted rfl
  have hnoted := (h.leaves h₁.leaves).leaves hleaves
  simp only [ensures_bind, ensures_setSeq, ensures_noteRun]
  apply (notifyThresholdCrossed_undisturbed _).mono
  intro _ s₂ h₂
  exact ⟨(marked_of_unflagged (s := ⟨_, _⟩) hnoted rfl).undisturbed h₂, h₂.readCursor⟩

theorem disposeReadBlock_marked (h : Marked C s) :
    Ensures (disposeReadBlock P C) (fun disposed s' => Marked C s' ∧
      (disposed = false → s'.seq.deviceFailed = true) ∧
      (disposed = true → s'.seq.readCursor = 0)) s := by
  unfold disposeReadBlock
  rw [ensures_bind, ensures_seq, ensures_bind]
  have htouched := h.touched (P := P) (.inr rfl)
  apply ensures_disposeBlock
  · intro _
    apply Ensures.bind (advancePastDisposedReadBlock_marked htouched)
    intro _ s₁ h₁
    exact ⟨h₁.1, nofun, fun _ => h₁.2⟩
  · intro _
    have hmarked : Marked C ⟨s.seq, s.world.asked P (.dispose s.seq.readSequence)⟩ :=
      marked_of_unflagged htouched h.readsOldest
    exact ⟨hmarked.noteDeviceFailure _, fun _ => noteDeviceFailure_deviceFailed _ _, nofun⟩

theorem readBlockSizeOf_undisturbed (s : SequenceState σ) :
    Ensures (readBlockSizeOf P) (fun size s' => Undisturbed C s s' ∧
      (size = none → s'.seq.deviceFailed = true) ∧
      (∀ n, size = some n → s'.seq.readIsBehindWrite = false → n = s'.seq.writePosition)) s := by
  unfold readBlockSizeOf
  rw [ensures_bind, ensures_seq]
  apply Ensures.ite
  · intro _
    rw [ensures_pure]
    exact ⟨.refl s, nofun, by rintro n ⟨⟩ _; rfl⟩
  · intro hother
    have hbehind : s.seq.readIsBehindWrite = true := by
      simpa [isReadBlockActiveWrite, readIsBehindWrite] using hother
    apply Ensures.ite
    · intro _
      refine ⟨.refl s, nofun, fun _ _ hcaught => ?_⟩
      exact absurd (hbehind.symm.trans hcaught) (by decide)
    · intro _
      apply ensures_ask
      have hleaves : World.Leaves C s.seq.readSequence s.world
          (s.world.asked P (.size s.seq.readSequence)) := World.leaves_asked rfl
      cases (P.answer (.size s.seq.readSequence) s.world.env).1 with
      | some size =>
        simp only [ensures_bind, ensures_setSeq, ensures_pure]
        refine ⟨⟨rfl, rfl, rfl, hleaves⟩, nofun, fun _ _ hcaught => ?_⟩
        exact absurd (hbehind.symm.trans hcaught) (by decide)
      | none =>
        simp only [ensures_bind, ensures_setSeq, ensures_pure]
        exact ⟨⟨by simp, by simp, by simp, hleaves⟩, by simp, nofun⟩

theorem disposeReadBlockIfDrained_marked (h : Marked C s) :
    Ensures (disposeReadBlockIfDrained P C) (fun changed s' => Marked C s' ∧
      (changed = false → s'.seq.deviceFailed = false → Undisturbed C s s')) s := by
  unfold disposeReadBlockIfDrained
  rw [ensures_bind, ensures_seq]
  apply Ensures.ite
  · intro _
    exact ⟨h, fun _ _ => .refl s⟩
  · intro _
    apply Ensures.bind (readBlockSizeOf_undisturbed s)
    intro size s₁ h₁
    have hmarked := h.undisturbed h₁.1
    cases size with
    | none =>
      rw [ensures_pure]
      refine ⟨hmarked, fun _ hfine => ?_⟩
      rw [h₁.2.1 rfl] at hfine
      cases hfine
    | some size =>
      rw [ensures_bind, ensures_seq]
      apply Ensures.ite
      · intro _
        apply (disposeReadBlock_marked hmarked).mono
        intro disposed s₂ h₂
        refine ⟨h₂.1, fun hkept hfine => ?_⟩
        rw [h₂.2.1 hkept] at hfine
        cases hfine
      · intro _
        exact ⟨hmarked, fun _ _ => h₁.1⟩

theorem discardOldestBlock_marked (h : Marked C s) :
    Ensures (discardOldestBlock P) (fun changed s' => Marked C s' ∧
      (changed = false → s'.seq.deviceFailed = true)) s := by
  unfold discardOldestBlock
  rw [ensures_bind, ensures_seq, ← h.readsOldest, ensures_bind]
  have htouched := h.touched (P := P) (.inr rfl)
  apply ensures_disposeBlock
  · intro _
    rw [if_pos rfl, ensures_bind, ensures_setSeq, ensures_bind, ensures_seq]
    apply Ensures.bind (nextPresentSequence_undisturbed _ _)
    intro next s₁ h₁
    simp only [ensures_bind, ensures_setSeq, ensures_noteRun, ensures_pure]
    have hleaves : World.Leaves C s₁.seq.readSequence s₁.world
        (s₁.world.noted (.run next s₁.seq.writeSequence)) := World.leaves_noted rfl
    exact ⟨marked_of_unflagged ((htouched.leaves h₁.leaves).leaves hleaves) rfl, nofun⟩
  · intro _
    have hmarked : Marked C ⟨s.seq, s.world.asked P (.dispose s.seq.readSequence)⟩ :=
      marked_of_unflagged htouched h.readsOldest
    exact ⟨hmarked.noteDeviceFailure _, fun _ => noteDeviceFailure_deviceFailed _ _⟩

/-- The read position is as it was, and so is its block's record handed out if the block is not
the one that was reworked. -/
structure Reworked (C : Config) (block : Sequence) (s s' : SequenceState σ) : Prop where
  readSequence : s'.seq.readSequence = s.seq.readSequence
  readCursor : s'.seq.readCursor = s.seq.readCursor
  oldestSequence : s'.seq.oldestSequence = s.seq.oldestSequence
  marked : Marked C s → Marked C s'
  leaves : block ≠ s.seq.readSequence → World.Leaves C s.seq.readSequence s.world s'.world

namespace Reworked

variable {block : Sequence}

theorem trans (h : Reworked C block s s') (h' : Reworked C block s' s'') :
    Reworked C block s s'' where
  readSequence := h'.readSequence.trans h.readSequence
  readCursor := h'.readCursor.trans h.readCursor
  oldestSequence := h'.oldestSequence.trans h.oldestSequence
  marked hs := h'.marked (h.marked hs)
  leaves hother := (h.leaves hother).trans (h.readSequence ▸ h'.leaves (h.readSequence ▸ hother))

theorem of_undisturbed (h : Undisturbed C s s') : Reworked C block s s' :=
  ⟨h.readSequence, h.readCursor, h.oldestSequence, fun hs => hs.undisturbed h, fun _ => h.leaves⟩

theorem undisturbed (h : Reworked C block s s') (hother : block ≠ s.seq.readSequence) :
    Undisturbed C s s' :=
  ⟨h.readSequence, h.readCursor, h.oldestSequence, h.leaves hother⟩

/-- A block is acquired or disposed of. -/
theorem touched {request : Request} (hrequest : request = .acquire block ∨ request = .dispose block)
    {present : Sequence → Bool} :
    Reworked C block s
      ⟨{ s.seq with blockPresent := present }, s.world.asked P request⟩ where
  readSequence := rfl
  readCursor := rfl
  oldestSequence := rfl
  leaves hother := by
    rcases hrequest with rfl | rfl
    · exact World.leaves_acquired hother
    · exact World.leaves_disposed hother
  marked hs := by
    by_cases hblock : block = s.seq.readSequence
    · exact marked_of_unflagged (hs.touched (hblock ▸ hrequest)) hs.readsOldest
    · rcases hrequest with rfl | rfl
      · exact hs.undisturbed ⟨rfl, rfl, rfl, World.leaves_acquired hblock⟩
      · exact hs.undisturbed ⟨rfl, rfl, rfl, World.leaves_disposed hblock⟩

theorem noteDeviceFailure (h : Reworked C block s s') (error : BlockStoreError) :
    Reworked C block s { s' with seq := s'.seq.noteDeviceFailure error } :=
  h.trans (of_undisturbed ⟨by simp, by simp, by simp, .refl _⟩)

end Reworked

theorem acquireEmptyBlock_reworked (s : SequenceState σ) (block : Sequence) :
    Ensures (acquireEmptyBlock P block) (fun _ s' => Reworked C block s s') s := by
  unfold acquireEmptyBlock
  apply ensures_ask
  have hasked : Reworked C block s { s with world := s.world.asked P (.blockExists block) } :=
    .of_undisturbed ⟨rfl, rfl, rfl, World.leaves_asked rfl⟩
  have hcleared : Ensures
      (if (P.answer (.blockExists block) s.world.env).1 then disposeBlock P block else pure true)
      (fun _ s' => Reworked C block s s')
      { s with world := s.world.asked P (.blockExists block) } := by
    apply Ensures.ite
    · intro _
      apply ensures_disposeBlock
      · intro _
        exact hasked.trans (.touched (.inr rfl))
      · intro _
        exact hasked.trans (.touched (.inr rfl))
    · intro _
      exact hasked
  apply Ensures.bind hcleared
  intro cleared s₁ h₁
  apply Ensures.ite
  · intro _
    rw [ensures_bind]
    apply ensures_acquireBlock
    · intro _
      exact h₁.trans (.touched (.inl rfl))
    · intro _
      exact (h₁.trans (.touched (.inl rfl))).noteDeviceFailure _
  · intro _
    exact h₁.noteDeviceFailure _

theorem rotateToNextBlock_marked (h : Marked C s) :
    Ensures (rotateToNextBlock P C) (fun outcome s' => Marked C s' ∧
      (outcome.1 = false → outcome.2 = false) ∧
      (outcome.2 = false → s'.seq.deviceFailed = false →
        nextSequence s.seq.writeSequence ≠ s.seq.readSequence → Undisturbed C s s')) s := by
  unfold rotateToNextBlock
  rw [ensures_bind, ensures_seq]
  apply Ensures.bind (acquireEmptyBlock_reworked s _)
  intro acquired s₁ h₁
  apply Ensures.ite
  · intro _
    simp only [ensures_bind, ensures_setSeq, ensures_noteRun]
    have hadvanced : Reworked C (nextSequence s.seq.writeSequence) s
        ⟨{ s₁.seq.advanceWriteToNewBlock (nextSequence s.seq.writeSequence) with
            evictedUnsent := false },
          s₁.world.noted (.run s₁.seq.oldestSequence (nextSequence s.seq.writeSequence))⟩ :=
      h₁.trans (.of_undisturbed ⟨rfl, rfl, rfl, World.leaves_noted rfl⟩)
    apply (disposeReadBlockIfDrained_marked (hadvanced.marked h)).mono
    intro drained s₂ h₂
    simp only [ensures_seq]
    apply Ensures.ite
    · intro _
      apply Ensures.bind (discardOldestBlock_marked h₂.1)
      intro evicted s₃ h₃
      rw [ensures_pure]
      refine ⟨h₃.1, nofun, fun hkept hfine => ?_⟩
      have hevicted : evicted = false := by simp_all
      rw [h₃.2 hevicted] at hfine
      cases hfine
    · intro _
      refine ⟨h₂.1, nofun, fun hkept hfine hother => ?_⟩
      exact (hadvanced.undisturbed hother).trans (h₂.2 hkept hfine)
  · intro _
    exact ⟨h₁.marked h, fun _ => rfl, fun _ _ hother => h₁.undisturbed hother⟩

theorem blockCount_of_next_eq_oldest {q : BlockSequence}
    (h : nextSequence q.writeSequence = q.oldestSequence) : q.blockCount = modulus := by
  rw [blockCount, ← h, nextSequence]
  exact ahead_next_start _

/-- A record of this size would go to a new block on the number of the block being read, which takes
all the numbers: the write block is full and the policy gives up the oldest. -/
def StartsOver (P : Platform σ) (C : Config) (s : SequenceState σ) (recordSize : Nat) : Prop :=
  s.seq.blockIsFull C recordSize = true ∧
    nextSequence s.seq.writeSequence = s.seq.readSequence ∧
    (P.answer .getDiscardPolicy s.world.env).1 = .oldest

theorem storeIsFull_undisturbed (s : SequenceState σ) :
    Ensures (storeIsFull P C) (fun full s' => Undisturbed C s s' ∧ s'.seq = s.seq ∧
      (full = false → C.maxBlocks ≤ s.seq.blockCount →
        (P.answer .getDiscardPolicy s.world.env).1 = .oldest)) s := by
  unfold storeIsFull
  rw [ensures_bind, ensures_seq]
  apply Ensures.ite
  · intro _
    apply ensures_ask
    rw [ensures_pure]
    exact ⟨⟨rfl, rfl, rfl, World.leaves_asked rfl⟩, rfl, fun hroom _ => by simpa using hroom⟩
  · intro hbelow
    exact ⟨.refl s, rfl, fun _ hat => absurd hat hbelow⟩

theorem prepareForWrite_marked (h : Marked C s) (recordSize : Nat) :
    Ensures (prepareForWrite P C recordSize) (fun outcome s' => Marked C s' ∧
      (outcome.1 = false → outcome.2 = false) ∧
      (outcome.2 = false → s'.seq.deviceFailed = false → ¬ StartsOver P C s recordSize →
        Undisturbed C s s')) s := by
  unfold prepareForWrite
  rw [ensures_bind, ensures_seq]
  apply Ensures.ite
  · intro hblockFull
    apply Ensures.bind (storeIsFull_undisturbed s)
    intro full s₁ h₁
    obtain ⟨h₁, hsame, hroom⟩ := h₁
    have hmarked := h.undisturbed h₁
    apply Ensures.ite
    · intro _
      rw [ensures_bind, ensures_setSeq]
      apply Ensures.bind (notifyThresholdCrossed_undisturbed _)
      intro _ s₂ h₂
      have hfull : Undisturbed C s ⟨{ s₁.seq with atCapacity := true }, s₁.world⟩ :=
        ⟨h₁.readSequence, h₁.readCursor, h₁.oldestSequence, h₁.leaves⟩
      exact ⟨h.undisturbed (hfull.trans h₂), fun _ => rfl, fun _ _ _ => hfull.trans h₂⟩
    · intro hfull
      apply (rotateToNextBlock_marked hmarked).mono
      intro outcome s₂ h₂
      refine ⟨h₂.1, h₂.2.1, fun hkept hfine hsafe => h₁.trans (h₂.2.2 hkept hfine ?_)⟩
      rw [hsame]
      intro hnext
      have hcount := blockCount_of_next_eq_oldest (hnext.trans h.readsOldest)
      have hceiling : C.maxBlocks ≤ s.seq.blockCount := by
        rw [hcount]
        exact C.maxBlocks_le.trans (Nat.sub_le _ _)
      exact hsafe ⟨hblockFull, hnext, hroom (by simpa using hfull) hceiling⟩
  · intro _
    exact ⟨h, nofun, fun _ _ _ => .refl s⟩

theorem noteRecordWritten_undisturbed (s : SequenceState σ) (recordSize : Nat) :
    Ensures (noteRecordWritten P C recordSize) (fun _ s' => Undisturbed C s s') s := by
  unfold noteRecordWritten
  simp only [ensures_bind, ensures_setSeq]
  apply (notifyThresholdCrossed_undisturbed _).mono
  intro _ s₁ h₁
  exact ⟨h₁.readSequence, h₁.readCursor, h₁.oldestSequence, h₁.leaves⟩

theorem noteRun_undisturbed (s : SequenceState σ) :
    Ensures noteRun (fun _ s' => Undisturbed C s s') s :=
  ⟨rfl, rfl, rfl, World.leaves_noted rfl⟩

theorem acquireBlock_reworked (s : SequenceState σ) (block : Sequence) :
    Ensures (acquireBlock P block) (fun _ s' => Reworked C block s s') s := by
  apply ensures_acquireBlock
  · intro _
    exact .touched (.inl rfl)
  · intro _
    exact .touched (.inl rfl)

theorem scanForBlockPresence_unflagged (blocks : List Sequence) (lastPresent : Option Sequence)
    (h : s.world.Unflagged C) :
    Ensures (scanForBlockPresence P lastPresent blocks) (fun _ s' => s'.world.Unflagged C ∧
      s'.seq.readSequence = s.seq.readSequence ∧ s'.seq.oldestSequence = s.seq.oldestSequence ∧
      s'.seq.readCursor = s.seq.readCursor) s := by
  induction blocks generalizing lastPresent s with
  | nil => exact ⟨h, rfl, rfl, rfl⟩
  | cons block rest ih =>
    unfold scanForBlockPresence
    apply ensures_ask
    have hleaves : World.Leaves C s.seq.readSequence s.world
        (s.world.asked P (.blockExists block)) := World.leaves_asked rfl
    rw [ensures_bind, ensures_setSeq]
    exact ih _ (h.leaves hleaves)

theorem scanForExistingBlocks_marked (h : s.world.Unflagged C)
    (hread : s.seq.readSequence = s.seq.oldestSequence) (hcursor : s.seq.readCursor = 0) :
    Ensures (scanForExistingBlocks P) (fun _ s' => s'.world.Unflagged C ∧
      s'.seq.readSequence = s'.seq.oldestSequence ∧ s'.seq.readCursor = 0) s := by
  unfold scanForExistingBlocks
  apply Ensures.bind (scanForBlockPresence_unflagged (List.finRange modulus) none h)
  intro lastPresent s₁ h₁
  cases lastPresent with
  | none =>
    rw [ensures_pure]
    obtain ⟨hunflagged, hread₁, holdest₁, hcursor₁⟩ := h₁
    exact ⟨hunflagged, by rw [hread₁, holdest₁, hread], hcursor₁.trans hcursor⟩
  | some last => exact ⟨h₁.1, rfl, rfl⟩

theorem openBlocks_marked (h : s.world.Unflagged C)
    (hread : s.seq.readSequence = s.seq.oldestSequence) (hcursor : s.seq.readCursor = 0) :
    Ensures (openBlocks P C) (fun _ s' => Marked C s' ∧ s'.seq.readCursor = 0) s := by
  unfold openBlocks
  apply Ensures.bind (scanForExistingBlocks_marked h hread hcursor)
  intro found s₁ h₁
  obtain ⟨hunflagged, hread₁, hcursor₁⟩ := h₁
  have hmarked := marked_of_unflagged hunflagged hread₁
  apply Ensures.ite
  · intro _
    rw [ensures_bind, ensures_noteRun, ensures_bind, ensures_seq]
    apply ensures_ask
    have hasked : Undisturbed C s₁ ⟨s₁.seq, (s₁.world.noted
        (.run s₁.seq.oldestSequence s₁.seq.writeSequence)).asked P
        (.size s₁.seq.writeSequence)⟩ :=
      ⟨rfl, rfl, rfl, (World.leaves_noted rfl).trans (World.leaves_asked rfl)⟩
    dsimp only
    split
    · rw [ensures_bind, ensures_setSeq]
      apply Ensures.bind (notifyThresholdCrossed_undisturbed _)
      intro _ s₂ h₂
      refine ⟨(hmarked.undisturbed hasked).undisturbed
        ⟨h₂.readSequence, h₂.readCursor, h₂.oldestSequence, h₂.leaves⟩, ?_⟩
      exact h₂.readCursor.trans hcursor₁
    · rw [ensures_bind, ensures_setSeq, ensures_pure]
      exact ⟨(hmarked.undisturbed hasked).noteDeviceFailure _, by simpa using hcursor₁⟩
  · intro _
    apply Ensures.bind (acquireBlock_reworked s₁ 0)
    intro acquired s₂ h₂
    apply Ensures.ite
    · intro _
      apply Ensures.bind (noteRun_undisturbed s₂)
      intro _ s₃ h₃
      apply Ensures.bind (notifyThresholdCrossed_undisturbed s₃)
      intro _ s₄ h₄
      have hopened := h₃.trans h₄
      refine ⟨(h₂.marked hmarked).undisturbed hopened, ?_⟩
      exact (hopened.readCursor.trans h₂.readCursor).trans hcursor₁
    · intro _
      have hfailed := h₂.noteDeviceFailure .openFailed
      exact ⟨hfailed.marked hmarked, hfailed.readCursor.trans hcursor₁⟩

end BlockSequence

/-! ## The record store -/

namespace RecordStore

variable {s : RecordState σ}

/-- Every block's record handed out is as it was. -/
def Idle (C : Config) (s s' : RecordState σ) : Prop :=
  s'.records = s.records ∧ ∀ block, World.Leaves C block s.world s'.world

theorem Idle.refl (s : RecordState σ) : Idle C s s :=
  ⟨rfl, fun _ => .refl _⟩

theorem Idle.trans {s s' s'' : RecordState σ} (h : Idle C s s') (h' : Idle C s' s'') :
    Idle C s s'' :=
  ⟨h'.1.trans h.1, fun block => (h.2 block).trans (h'.2 block)⟩

theorem idle_asked {request : Request}
    (h : (Event.call request (P.answer request s.world.env).1).isIdle = true) :
    Idle C s { s with world := s.world.asked P request } :=
  ⟨rfl, fun _ => World.leaves_asked h⟩

theorem readSpan_idle (block : Sequence) (offset count dataSize : Nat) :
    Ensures (readSpan P block offset count dataSize) (fun outcome s' => Idle C s s' ∧
      ∀ result, outcome = .error result → recordExtentIsKnown result = false) s := by
  unfold readSpan
  apply Ensures.ite
  · intro _
    apply ensures_ask
    have hasked : Idle C s { s with world := s.world.asked P (.read block offset count) } :=
      idle_asked rfl
    split
    · rw [ensures_pure]
      exact ⟨hasked, nofun⟩
    · rw [ensures_pure]
      exact ⟨hasked, by rintro _ ⟨⟩; rfl⟩
  · intro _
    rw [ensures_pure]
    exact ⟨.refl s, by rintro _ ⟨⟩; rfl⟩

theorem readHeader_idle (block : Sequence) (offset dataSize : Nat) :
    Ensures (readHeader P C block offset dataSize) (fun outcome s' => Idle C s s' ∧
      (∀ result, outcome = .error result → recordExtentIsKnown result = false) ∧
      (outcome ≠ .error .endOfData → offset < dataSize)) s := by
  unfold readHeader
  apply Ensures.ite
  · intro hin
    apply Ensures.bind (readSpan_idle _ _ _ _)
    intro outcome s₁ h₁
    rcases outcome with result | bytes
    · rw [ensures_pure]
      exact ⟨h₁.1, by rintro _ ⟨⟩; exact h₁.2 _ rfl, fun _ => hin⟩
    · dsimp only
      split
      · rw [ensures_pure]
        exact ⟨h₁.1, nofun, fun _ => hin⟩
      · rw [ensures_pure]
        exact ⟨h₁.1, by rintro _ ⟨⟩; rfl, fun _ => hin⟩
  · intro _
    rw [ensures_pure]
    exact ⟨.refl s, by rintro _ ⟨⟩; rfl, fun hne => absurd rfl hne⟩

theorem readRecordExtent_idle (block : Sequence) (offset dataSize : Nat) :
    Ensures (readRecordExtent P C block offset dataSize) (fun extent s' => Idle C s s' ∧
      (∀ result, extent = .error result → recordExtentIsKnown result = false) ∧
      (extent ≠ .error .endOfData → offset < dataSize)) s := by
  unfold readRecordExtent
  apply Ensures.bind (readHeader_idle _ _ _)
  intro outcome s₁ h₁
  obtain ⟨hidle, hunknown, hin⟩ := h₁
  rcases outcome with result | length
  · rw [ensures_pure]
    refine ⟨hidle, ?_, fun hne => hin ?_⟩
    · rintro _ ⟨⟩
      exact hunknown _ rfl
    · rintro ⟨⟩
      exact hne rfl
  · rw [ensures_pure]
    refine ⟨hidle, ?_, fun _ => hin nofun⟩
    intro result hresult
    split at hresult
    · cases hresult
    · cases hresult
      rfl

theorem openRecord_idle (content trailer : Bytes) :
    Ensures (openRecord P content trailer) (fun _ s' => Idle C s s') s := by
  unfold openRecord
  apply ensures_ask
  have hasked : Idle C s { s with world := s.world.asked P (.openRecord content trailer) } :=
    idle_asked rfl
  dsimp only
  split <;> exact hasked

theorem validateRecord_idle (block : Sequence) (offset dataSize length : Nat) :
    Ensures (validateRecord P C block offset dataSize length) (fun _ s' => Idle C s s') s := by
  unfold validateRecord
  apply Ensures.bind (readSpan_idle _ _ _ _)
  intro message s₁ h₁
  rcases message with result | message
  · exact h₁.1
  apply Ensures.bind (readSpan_idle _ _ _ _)
  intro tail s₂ h₂
  have hidle := h₁.1.trans h₂.1
  rcases tail with result | tail
  · exact hidle
  apply Ensures.ite
  · intro _
    exact hidle
  · intro _
    apply (openRecord_idle _ _).mono
    intro _ s₃ h₃
    exact hidle.trans h₃

/-- What a read leaves behind: no write, and the record it found as the one to mark. -/
structure ReadLeaves (C : Config) (block : Sequence) (offset dataSize : Nat) (s : RecordState σ)
    (found : Found) (s' : RecordState σ) : Prop where
  leaves : ∀ other, World.Leaves C other s.world s'.world
  known : recordExtentIsKnown found.result = true →
    s'.records = ⟨true, block, C.sentFlagOffset offset found.length⟩
  unknown : recordExtentIsKnown found.result = false → s'.records = s.records
  inside : found.result = .corrupt → offset < dataSize

theorem read_leaves (block : Sequence) (offset dataSize maxSize : Nat) :
    Ensures (read P C block offset dataSize maxSize)
      (fun found s' => ReadLeaves C block offset dataSize s found s') s := by
  unfold read
  apply Ensures.bind (readRecordExtent_idle _ _ _)
  intro extent s₁ h₁
  obtain ⟨hidle₁, hunknown, hin⟩ := h₁
  rcases extent with result | length
  · rw [ensures_pure]
    have hresult := hunknown result rfl
    refine ⟨hidle₁.2, fun hknown => ?_, fun _ => hidle₁.1, ?_⟩
    · rw [hresult] at hknown
      cases hknown
    · rintro rfl
      exact hin nofun
  apply Ensures.bind (validateRecord_idle _ _ _ _)
  intro verdict s₂ h₂
  obtain ⟨result, message⟩ := verdict
  have hidle := hidle₁.trans h₂
  dsimp only
  split
  · next hknown =>
    rw [ensures_bind, rememberCurrentRecord, ensures_setRecords, ensures_pure]
    refine ⟨hidle.2, fun _ => rfl, fun hunknown' => ?_, fun _ => hin nofun⟩
    rw [hknown] at hunknown'
    cases hunknown'
  · next hknown =>
    rw [ensures_pure]
    exact ⟨hidle.2, fun hknown' => absurd hknown' hknown, fun _ => hidle.1, fun _ => hin nofun⟩

theorem append_idle (block : Sequence) (data : Bytes) :
    Ensures (append P C block data) (fun _ s' => Idle C s s') s := by
  have hassembled : Ensures (assembleRecord P C data) (fun _ s' => Idle C s s') s := by
    unfold assembleRecord
    apply ensures_ask
    have hasked : Idle C s { s with
        world := s.world.asked P (.sealRecord (header (toUint16 data.length) ++ data)) } :=
      idle_asked rfl
    split <;> exact hasked
  unfold append
  apply Ensures.bind hassembled
  intro assembled s₁ h₁
  cases assembled with
  | none => exact h₁
  | some bytes =>
    apply ensures_ask
    exact h₁.trans (idle_asked rfl)

theorem findFirstUnsentLoop_idle (block : Sequence) (blockSize cursor fuel : Nat) :
    Ensures (findFirstUnsentLoop P C block blockSize cursor fuel) (fun outcome s' => Idle C s s' ∧
      (outcome.2 = .corrupt → outcome.1 = blockSize)) s := by
  induction fuel generalizing cursor s with
  | zero => exact ⟨.refl s, nofun⟩
  | succ fuel ih =>
    unfold findFirstUnsentLoop
    apply Ensures.ite
    · intro _
      apply Ensures.bind (readRecordExtent_idle _ _ _)
      intro extent s₁ h₁
      rcases extent with result | length
      · cases result <;> first | exact ⟨h₁.1, fun _ => rfl⟩ | exact ⟨h₁.1, nofun⟩
      apply Ensures.bind (readSpan_idle _ _ _ _)
      intro flag s₂ h₂
      have hidle := h₁.1.trans h₂.1
      rcases flag with result | flag
      · cases result <;> first | exact ⟨hidle, fun _ => rfl⟩ | exact ⟨hidle, nofun⟩
      apply Ensures.ite
      · intro _
        apply (ih _).mono
        intro _ s₃ h₃
        exact ⟨hidle.trans h₃.1, h₃.2⟩
      · intro _
        exact ⟨hidle, nofun⟩
    · intro _
      exact ⟨.refl s, nofun⟩

theorem scanToEndLoop_idle (block : Sequence) (blockSize position fuel : Nat) :
    Ensures (scanToEndLoop P C block blockSize position fuel) (fun _ s' => Idle C s s') s := by
  induction fuel generalizing position s with
  | zero => exact .refl s
  | succ fuel ih =>
    unfold scanToEndLoop
    apply Ensures.ite
    · intro _
      apply Ensures.bind (readRecordExtent_idle _ _ _)
      intro extent s₁ h₁
      rcases extent with result | length
      · cases result <;> exact h₁.1
      apply (ih _).mono
      intro _ s₂ h₂
      exact h₁.1.trans h₂
    · intro _
      exact .refl s

end RecordStore

/-- A write that would start a new block on the number of the block being read. -/
def BlockStore.TakesReadBlock (P : Platform σ) (s : BlockStore σ) (op : Op C) : Prop :=
  ∃ message, op = .write message ∧ s.frozen = false ∧ 0 < message.bytes.length ∧
    BlockSequence.StartsOver P C ⟨s.seq, s.world⟩ (C.recordSize (toUint16 message.bytes.length))

end SolidSyslog.Store
