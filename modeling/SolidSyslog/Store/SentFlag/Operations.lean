import SolidSyslog.Store.SentFlag.Parts
import SolidSyslog.Lib.Run

/-!
# What the store writes in place

The sent flag of the record handed out last is the only thing the store writes in place. The store
remembers that record until it marks it or leaves its block; the one way it writes elsewhere is a
write that starts over on the number of the block being read.
-/

namespace SolidSyslog.Store

open Lib

variable {σ : Type} {P : Platform σ} {C : Config}

namespace BlockStore

variable {s s' : BlockStore σ}

/-- The record the store would mark is the one handed out last, and its flag lies after every flag
written. -/
def Remembered (C : Config) (s : BlockStore σ) : Prop :=
  s.records.hasReadRecord = true → s.records.lastReadBlockIndex = s.seq.readSequence ∧
    (∃ start length, markable s.world.trace = some (s.records.lastReadBlockIndex, start, length) ∧
      s.records.lastSentFlagOffset = C.sentFlagOffset start length) ∧
    ∀ flag ∈ flagsWritten s.world.trace, flag.2 < s.records.lastSentFlagOffset

/-- The flags are as they should be, in a store that is not frozen. -/
structure Flagged (C : Config) (s : BlockStore σ) : Prop where
  marked : BlockSequence.Marked C ⟨s.seq, s.world⟩
  remembered : Remembered C s

/-- The flags are as they should be, or the store is frozen. -/
def FlaggedOrFrozen (C : Config) (s : BlockStore σ) : Prop :=
  Always (MarksRecord C) s.world.trace ∧ (s.frozen = false → Flagged C s)

theorem Flagged.orFrozen (h : Flagged C s) : FlaggedOrFrozen C s :=
  ⟨h.marked.marks, fun _ => h⟩

theorem freeze_orFrozen (h : Always (MarksRecord C) s.world.trace) (error : BlockStoreError) :
    Ensures (freeze P error) (fun _ s' => FlaggedOrFrozen C s' ∧ s'.frozen = true) s :=
  ⟨⟨h.concat trivial, nofun⟩, rfl⟩

/-- What reads, reports and the like do to a store whose flags are as they should be. -/
theorem Flagged.leaves (h : Flagged C s) (hread : s'.seq.readSequence = s.seq.readSequence)
    (hcursor : s.seq.readCursor ≤ s'.seq.readCursor)
    (holdest : s'.seq.oldestSequence = s.seq.oldestSequence)
    (hrecords : s'.records = s.records ∨ s'.records.hasReadRecord = false)
    (hleaves : World.Leaves C s.seq.readSequence s.world s'.world) : Flagged C s' where
  marked := {
    marks := hleaves.marks h.marked.marks
    readsOldest := by
      rw [hread, holdest]
      exact h.marked.readsOldest
    passed := by
      intro flag hflag
      obtain ⟨hblock, hpassed⟩ := h.marked.passed flag (hleaves.flags flag hflag)
      exact ⟨hblock.trans hread.symm, lt_of_lt_of_le hpassed hcursor⟩ }
  remembered := by
    intro hhas
    rcases hrecords with hrecords | hforgot
    · rw [hrecords] at hhas ⊢
      obtain ⟨hblock, ⟨start, length, hhanded, hoffset⟩, hflags⟩ := h.remembered hhas
      refine ⟨hblock.trans hread.symm, ⟨start, length, ?_, hoffset⟩, fun flag hflag =>
        hflags flag (hleaves.flags flag hflag)⟩
      rw [hblock] at hhanded ⊢
      exact hleaves.markable _ _ hhanded
    · rw [hforgot] at hhas
      cases hhas

theorem Flagged.report (h : Flagged C s) {severity : Severity} {category : Category}
    {error : BlockStoreError} :
    Flagged C { s with world := s.world.asked P (.report severity category error) } :=
  h.leaves rfl le_rfl rfl (.inl rfl) (World.leaves_asked rfl)

theorem Flagged.onSeq {t : SequenceState σ} (h : Flagged C s)
    (ht : BlockSequence.Undisturbed C ⟨s.seq, s.world⟩ t) :
    Flagged C { s with seq := t.seq, world := t.world } :=
  h.leaves ht.readSequence ht.readCursor.ge ht.oldestSequence (.inl rfl) ht.leaves

/-- Forgetting the record read last is right wherever the read position is. -/
theorem flagged_of_forgotten (h : BlockSequence.Marked C ⟨s.seq, s.world⟩)
    (hforgot : s.records.hasReadRecord = false) : Flagged C s :=
  ⟨h, fun hhas => by rw [hforgot] at hhas; cases hhas⟩

theorem forgetLastRead_flagged (h : BlockSequence.Marked C ⟨s.seq, s.world⟩) :
    Ensures (onRecords RecordStore.forgetLastRead) (fun _ s' => Flagged C s') s :=
  flagged_of_forgotten h rfl

theorem flagged_unreported : Unreported P (Flagged (σ := σ) C) where
  report _ _ _ _ _ _ h := h.report
  latches _ _ _ _ _ h := ⟨h.marked, h.remembered⟩

theorem freezeIfDeviceFailed_orFrozen (h : Always (MarksRecord C) s.world.trace) :
    Ensures (freezeIfDeviceFailed P) (fun froze s' =>
      if froze then FlaggedOrFrozen C s' ∧ s'.frozen = true
      else s' = s ∧ s.seq.deviceFailed = false) s := by
  apply ensures_freezeIfDeviceFailed
  · intro _
    exact freeze_orFrozen h _
  · intro hfine
    exact ⟨rfl, hfine⟩

theorem appendRecord_orFrozen (h : Flagged C s) (recordSize : Nat) (data : Bytes) :
    Ensures (appendRecord P C recordSize data) (fun _ s' => FlaggedOrFrozen C s') s := by
  unfold appendRecord
  rw [ensures_bind, ensures_seqOf, ensures_bind, ensures_onRecords]
  apply (RecordStore.append_idle _ _).mono
  intro result t ht
  have happended : Flagged C { s with records := t.records, world := t.world } :=
    h.leaves rfl le_rfl rfl (.inl ht.1) (ht.2 _)
  cases result with
  | succeeded =>
    unfold settleAppend
    rw [ensures_bind, ensures_onSeq]
    apply (BlockSequence.noteRecordWritten_undisturbed _ _).mono
    intro _ u hu
    have hnoted := happended.onSeq hu
    exact Flagged.orFrozen ⟨hnoted.marked, hnoted.remembered⟩
  | deviceFailed =>
    unfold settleAppend
    apply Ensures.bind (freeze_orFrozen happended.marked.marks _)
    intro _ s₁ h₁
    exact h₁.1
  | sealFailed =>
    unfold settleAppend
    apply Ensures.bind (flagged_unreported.reportSealFailed happended)
    intro _ s₁ h₁
    exact h₁.orFrozen

/-- A write of the data would start over on the block whose record the store would mark. -/
def StartsOverOnRead (P : Platform σ) (C : Config) (s : BlockStore σ) (data : Bytes) : Prop :=
  s.records.hasReadRecord = true ∧
    BlockSequence.StartsOver P C ⟨s.seq, s.world⟩ (C.recordSize (toUint16 data.length))

theorem storeRecord_orFrozen (h : Flagged C s) (data : Bytes)
    (hsafe : ¬ StartsOverOnRead P C s data) :
    Ensures (storeRecord P C data) (fun _ s' => FlaggedOrFrozen C s') s := by
  unfold storeRecord
  rw [ensures_bind, ensures_onSeq]
  apply (BlockSequence.prepareForWrite_marked h.marked _).mono
  intro outcome t ht
  obtain ⟨prepared, changed⟩ := outcome
  obtain ⟨hmarked, hrefused, hkept⟩ := ht
  have hflagged (hfine : t.seq.deviceFailed = false) (hunchanged : changed = false) :
      Flagged C { s with seq := t.seq, world := t.world } := by
    cases hhas : s.records.hasReadRecord with
    | true => exact h.onSeq (hkept hunchanged hfine fun hover => hsafe ⟨hhas, hover⟩)
    | false => exact flagged_of_forgotten hmarked hhas
  apply Ensures.bind (freezeIfDeviceFailed_orFrozen hmarked.marks)
  intro froze s₁ h₁
  cases froze with
  | true => exact h₁.1
  | false =>
    obtain ⟨rfl, hfine⟩ := h₁
    rw [if_neg (by decide)]
    apply Ensures.ite
    · intro hunprepared
      have hunchanged : changed = false := hrefused (by simpa using hunprepared)
      apply Ensures.bind (flagged_unreported.reportRefusal (hflagged hfine hunchanged))
      intro _ s₂ h₂
      exact h₂.orFrozen
    · intro _
      have hkeeps : Unreported P fun u : BlockStore σ =>
          BlockSequence.Marked C ⟨u.seq, u.world⟩ ∧ (changed = false → Flagged C u) := {
        report := fun u _ _ _ _ _ hu =>
          ⟨hu.1.undisturbed ⟨rfl, rfl, rfl, World.leaves_asked rfl⟩, fun hc => (hu.2 hc).report⟩
        latches := fun u _ _ _ _ hu =>
          ⟨hu.1, fun hc => ⟨(hu.2 hc).marked, (hu.2 hc).remembered⟩⟩ }
      apply Ensures.bind (hkeeps.reportEviction ⟨hmarked, hflagged hfine⟩)
      intro _ s₂ h₂
      apply Ensures.ite
      · intro _
        apply Ensures.bind (forgetLastRead_flagged h₂.1)
        intro _ s₃ h₃
        exact appendRecord_orFrozen h₃ _ _
      · intro hunchanged
        exact appendRecord_orFrozen (h₂.2 (by simpa using hunchanged)) _ _

theorem write_orFrozen (h : Flagged C s) (data : Bytes)
    (hsafe : ¬ StartsOverOnRead P C s data) :
    Ensures (write P C data) (fun _ s' => FlaggedOrFrozen C s') s := by
  unfold write
  rw [ensures_bind, ensures_get]
  apply Ensures.ite
  · intro _
    exact h.orFrozen
  · intro _
    apply Ensures.ite
    · intro _
      exact storeRecord_orFrozen h data hsafe
    · intro _
      exact h.orFrozen

/-! ## Reading and marking -/

/-- The store is not frozen and its flags are as they should be. -/
def Live (C : Config) (s : BlockStore σ) : Prop :=
  s.frozen = false ∧ Flagged C s

theorem Live.orFrozen (h : Live C s) : FlaggedOrFrozen C s :=
  h.2.orFrozen

theorem live_unreported {q : BlockSequence} :
    Unreported P fun s : BlockStore σ => Live C s ∧ s.seq = q where
  report _ _ _ _ _ _ h := ⟨⟨h.1.1, h.1.2.report⟩, h.2⟩
  latches _ _ _ _ _ h := ⟨⟨h.1.1, h.1.2.marked, h.1.2.remembered⟩, h.2⟩

theorem readNextBlockIfBehind_orFrozen (h : Live C s) :
    Ensures (readNextBlockIfBehind P C) (fun movedOn s' =>
      if movedOn then Live C s' ∧ s'.seq.readCursor = 0
      else FlaggedOrFrozen C s' ∧ (s'.seq.deviceFailed = true ∨
        s' = s ∧ s.seq.readIsBehindWrite = false)) s := by
  unfold readNextBlockIfBehind
  rw [ensures_bind, ensures_seqOf]
  apply Ensures.ite
  · intro _
    rw [ensures_bind, ensures_onSeq]
    apply (BlockSequence.disposeReadBlock_marked h.2.marked).mono
    intro disposed t ht
    rw [ensures_bind, ensures_forgetLastRead, ensures_bind]
    apply ensures_freezeIfDeviceFailed
    · intro hfailed
      exact ⟨⟨ht.1.marks.concat trivial, nofun⟩, .inl hfailed⟩
    · intro hfine
      have hdisposed : disposed = true := by
        by_contra hkept
        rw [ht.2.1 (by simpa using hkept)] at hfine
        cases hfine
      exact ⟨⟨h.1, flagged_of_forgotten ht.1 rfl⟩, ht.2.2 hdisposed⟩
  · intro hcaught
    exact ⟨h.orFrozen, .inr ⟨rfl, by simpa using hcaught⟩⟩

theorem abandonRestOfReadBlock_orFrozen (h : Live C s)
    (hcursor : s.seq.readIsBehindWrite = false → s.seq.readCursor ≤ s.seq.writePosition) :
    Ensures (abandonRestOfReadBlock P C) (fun movedOn s' =>
      if movedOn then Live C s' ∧ s'.seq.readCursor = 0 else FlaggedOrFrozen C s' ∧
        (s'.seq.deviceFailed = true ∨ Live C s')) s := by
  unfold abandonRestOfReadBlock
  apply Ensures.bind (readNextBlockIfBehind_orFrozen h)
  intro movedOn s₁ h₁
  rw [ensures_bind, ensures_seqOf]
  cases movedOn with
  | true =>
    apply Ensures.ite
    · intro _
      apply Ensures.bind (live_unreported.reportLoss ⟨h₁.1, rfl⟩ _)
      intro _ s₂ h₂
      exact ⟨h₂.1, (congrArg BlockSequence.readCursor h₂.2).trans h₁.2⟩
    · intro _
      exact h₁
  | false =>
    obtain ⟨horFrozen, hwhy⟩ := h₁
    apply Ensures.ite
    · intro hfine
      rcases hwhy with hfailed | ⟨rfl, hcaught⟩
      · simp [hfailed] at hfine
      · apply Ensures.bind (live_unreported.reportLoss ⟨h, rfl⟩ _)
        intro _ s₂ h₂
        obtain ⟨⟨hunfrozen, hflagged⟩, hsame⟩ := h₂
        have hwrite := hcursor hcaught
        rw [← hsame] at hwrite
        have habandoned : Flagged C { s₂ with
            seq := (s₂.seq.setReadCursor s₂.seq.writePosition).markWriteBlockCorrupt } :=
          hflagged.leaves rfl hwrite rfl (.inl rfl) (.refl _)
        exact ⟨habandoned.orFrozen, .inr ⟨hunfrozen, habandoned⟩⟩
    · intro hfailed
      rw [ensures_pure]
      exact ⟨horFrozen, .inl (by simpa using hfailed)⟩

/-- What a record looked for says of the store: what it found is what the store would mark. -/
structure FlagsFound (C : Config) (found : RecordStore.Found) (s : BlockStore σ) : Prop where
  unfrozen : s.frozen = false
  marked : BlockSequence.Marked C ⟨s.seq, s.world⟩
  known : RecordStore.recordExtentIsKnown found.result = true → s.records =
    ⟨true, s.seq.readSequence, C.sentFlagOffset s.seq.readCursor found.length⟩
  unknown : RecordStore.recordExtentIsKnown found.result = false → Remembered C s
  inside : found.result = .corrupt → s.seq.readIsBehindWrite = false →
    s.seq.readCursor ≤ s.seq.writePosition

theorem readCurrent_found (h : Live C s) (maxSize : Nat) :
    Ensures (readCurrent P C maxSize) (fun found s' => FlagsFound C found s') s := by
  unfold readCurrent
  rw [ensures_bind, ensures_onSeq]
  apply (BlockSequence.readBlockSizeOf_undisturbed (C := C) ⟨s.seq, s.world⟩).mono
  intro size t ht
  obtain ⟨hundisturbed, hfailed, hsize⟩ := ht
  have hflagged := h.2.onSeq hundisturbed
  cases size with
  | none =>
    rw [ensures_pure]
    exact ⟨h.1, hflagged.marked, nofun, fun _ => hflagged.remembered, nofun⟩
  | some size =>
    dsimp only
    rw [ensures_bind, ensures_seqOf, ensures_onRecords]
    apply (RecordStore.read_leaves _ _ _ _).mono
    intro found u hu
    have hread (hrecords : u.records = s.records) :
        Flagged C { s with seq := t.seq, records := u.records, world := u.world } :=
      hflagged.leaves rfl le_rfl rfl (.inl hrecords) (hu.leaves _)
    refine ⟨h.1, ?_, hu.known, fun hunknown => (hread (hu.unknown hunknown)).remembered, ?_⟩
    · exact hflagged.marked.undisturbed ⟨rfl, rfl, rfl, hu.leaves _⟩
    · intro hcorrupt hcaught
      have hinside := hu.inside hcorrupt
      rw [hsize size rfl hcaught] at hinside
      exact hinside.le

theorem FlagsFound.live {found : RecordStore.Found} (h : FlagsFound C found s)
    (hunknown : RecordStore.recordExtentIsKnown found.result = false) : Live C s :=
  ⟨h.unfrozen, h.marked, h.unknown hunknown⟩

theorem lt_sentFlagOffset (start length : Nat) : start < C.sentFlagOffset start length := by
  simp only [Config.sentFlagOffset, trailerOffset, contentHeaderSize]
  omega

/-- A record stepped past leaves the cursor after it and nothing to mark. -/
theorem stepPastCurrent_live {found : RecordStore.Found} (h : FlagsFound C found s)
    (hknown : RecordStore.recordExtentIsKnown found.result = true) :
    Ensures stepPastCurrent (fun again s' => again = true ∧ Live C s') s := by
  have hrecords := h.known hknown
  unfold stepPastCurrent
  refine ⟨rfl, h.unfrozen, flagged_of_forgotten ⟨h.marked.marks, h.marked.readsOldest, ?_⟩ rfl⟩
  intro flag hflag
  obtain ⟨hblock, hpassed⟩ := h.marked.passed flag hflag
  refine ⟨hblock, ?_⟩
  change flag.2 < s.records.lastSentFlagOffset + 1
  rw [hrecords]
  exact Nat.lt_succ_of_lt (hpassed.trans (lt_sentFlagOffset _ _))

/-- A note or a report leaves what was found. -/
theorem FlagsFound.leaves {found : RecordStore.Found} (h : FlagsFound C found s) {world : World σ}
    (hleaves : World.Leaves C s.seq.readSequence s.world world) :
    FlagsFound C found { s with world := world } where
  unfrozen := h.unfrozen
  marked := h.marked.undisturbed ⟨rfl, rfl, rfl, hleaves⟩
  known := h.known
  unknown hunknown := by
    have hleft : Flagged C { s with world := world } :=
      (h.live hunknown).2.leaves rfl le_rfl rfl (.inl rfl) hleaves
    exact hleft.remembered
  inside := h.inside

theorem flagsFound_unreported {found : RecordStore.Found} :
    Unreported P (FlagsFound (σ := σ) C found) where
  report _ _ _ _ _ _ h := h.leaves (World.leaves_asked rfl)
  latches _ _ _ _ _ h := ⟨h.unfrozen, h.marked, h.known, h.unknown, h.inside⟩

/-- How a turn of the read loop ends. -/
def FlagTurn (C : Config) (found : RecordStore.Found) (again : Bool) (s : BlockStore σ) : Prop :=
  if again then Live C s
  else FlagsFound C found s ∧ (found.result = .succeeded ∨
      RecordStore.recordExtentIsKnown found.result = false) ∨
    FlaggedOrFrozen C s ∧ found.result ≠ .succeeded ∧ found.result ≠ .deviceFailed

theorem stepPast_flagTurn {found : RecordStore.Found} (h : FlagsFound C found s) :
    Ensures (stepPast P C found) (fun again s' => FlagTurn C found again s') s := by
  obtain ⟨result, length, bytes⟩ := found
  unfold stepPast
  cases result with
  | rejected =>
    dsimp only
    rw [ensures_bind, ensures_seqOf, ensures_bind, ensures_seqOf, ensures_bind, ensures_note]
    unfold stepPastRejected
    apply Ensures.bind (flagsFound_unreported.reportLoss (h.leaves (World.leaves_noted rfl)) _)
    intro _ s₁ h₁
    apply (stepPastCurrent_live h₁ rfl).mono
    rintro _ s₂ ⟨rfl, h₂⟩
    exact h₂
  | finishedWith =>
    apply (stepPastCurrent_live h rfl).mono
    rintro _ s₁ ⟨rfl, h₁⟩
    exact h₁
  | endOfData =>
    apply (readNextBlockIfBehind_orFrozen (h.live rfl)).mono
    intro movedOn s₁ h₁
    cases movedOn with
    | true => exact h₁.1
    | false => exact .inr ⟨h₁.1, by simp, by simp⟩
  | corrupt =>
    apply (abandonRestOfReadBlock_orFrozen (h.live rfl) (h.inside rfl)).mono
    intro movedOn s₁ h₁
    cases movedOn with
    | true => exact h₁.1
    | false => exact .inr ⟨h₁.1, by simp, by simp⟩
  | succeeded => exact .inl ⟨h, .inl rfl⟩
  | couldNotOpen => exact .inl ⟨h, .inr rfl⟩
  | deviceFailed => exact .inl ⟨h, .inr rfl⟩

theorem readLoop_flagTurn (h : Live C s) (maxSize fuel : Nat) :
    Ensures (readLoop P C maxSize fuel) (fun found s' =>
      match found with
      | none => Live C s'
      | some found => FlagTurn C found false s') s := by
  induction fuel generalizing s with
  | zero => exact h
  | succ fuel ih =>
    unfold readLoop
    apply Ensures.bind (readCurrent_found h maxSize)
    intro found s₁ h₁
    apply Ensures.bind (stepPast_flagTurn h₁)
    intro again s₂ h₂
    cases again with
    | true => exact ih h₂
    | false => exact h₂

/-- Handing a record out makes it the one to mark. -/
theorem FlagsFound.handOut {found : RecordStore.Found} (h : FlagsFound C found s)
    (hread : found.result = .succeeded) : Flagged C { s with
      lossReported := false
      world := s.world.noted (.handedOut s.seq.readSequence s.seq.readCursor found.length) } := by
  have hrecords := h.known (by rw [hread]; rfl)
  have hhanded : markable (s.world.noted
      (.handedOut s.seq.readSequence s.seq.readCursor found.length)).trace =
      some (s.seq.readSequence, s.seq.readCursor, found.length) := by
    simp [markable]
  have hflags : flagsWritten (s.world.noted
      (.handedOut s.seq.readSequence s.seq.readCursor found.length)).trace =
      flagsWritten s.world.trace := by
    simp [flagsWritten]
  refine ⟨⟨h.marked.marks.concat trivial, h.marked.readsOldest, ?_⟩, fun _ => ⟨?_, ?_, ?_⟩⟩
  · rw [hflags]
    exact h.marked.passed
  · exact congrArg RecordStore.lastReadBlockIndex hrecords
  · refine ⟨s.seq.readCursor, found.length, ?_, congrArg RecordStore.lastSentFlagOffset hrecords⟩
    rw [hhanded, hrecords]
  · intro flag hflag
    rw [hflags] at hflag
    rw [hrecords]
    exact (h.marked.passed flag hflag).2.trans (lt_sentFlagOffset _ _)

theorem settleRead_orFrozen {found : RecordStore.Found} (h : FlagTurn C found false s) :
    Ensures (settleRead P found) (fun _ s' => FlaggedOrFrozen C s') s := by
  obtain ⟨result, length, bytes⟩ := found
  rcases h with ⟨h, hknown⟩ | ⟨h, hunread, hfine⟩
  · unfold settleRead
    cases result with
    | succeeded => exact (h.handOut rfl).orFrozen
    | deviceFailed =>
      dsimp only
      rw [ensures_bind]
      apply ensures_freezeIfDeviceFailed
      · intro _
        exact (freeze_orFrozen h.marked.marks _).1
      · intro _
        exact (freeze_orFrozen h.marked.marks _).1
    | rejected => simp [RecordStore.recordExtentIsKnown] at hknown
    | finishedWith => simp [RecordStore.recordExtentIsKnown] at hknown
    | _ => exact (h.live rfl).orFrozen
  · unfold settleRead
    cases result with
    | succeeded => exact absurd rfl hunread
    | deviceFailed => exact absurd rfl hfine
    | _ => exact h

theorem readNextUnsent_orFrozen (h : Live C s) (fuel maxSize : Nat) :
    Ensures (readNextUnsent P C fuel maxSize) (fun _ s' => FlaggedOrFrozen C s') s := by
  unfold readNextUnsent
  rw [ensures_bind, ensures_get]
  apply Ensures.ite
  · intro _
    exact h.orFrozen
  · intro _
    rw [ensures_bind, ensures_seqOf]
    apply Ensures.ite
    · intro _
      apply Ensures.bind (readLoop_flagTurn h maxSize fuel)
      intro found s₁ h₁
      cases found with
      | none => exact Live.orFrozen h₁
      | some found =>
        apply Ensures.bind (settleRead_orFrozen h₁)
        intro _ s₂ h₂
        exact h₂
    · intro _
      exact h.orFrozen

/-- The mark goes to the record handed out last. -/
theorem Flagged.marksRecord (h : Flagged C s) (hhas : s.records.hasReadRecord = true)
    (answer : Bool) : MarksRecord C s.world.trace (.call (.writeAt s.records.lastReadBlockIndex
      s.records.lastSentFlagOffset [sentFlagSent]) answer) := by
  obtain ⟨-, ⟨start, length, hhanded, hoffset⟩, hflags⟩ := h.remembered hhas
  refine ⟨rfl, ⟨start, length, hhanded, ?_⟩, fun hflag => ?_⟩
  · rw [hoffset]
    rfl
  · exact absurd (hflags _ hflag) (lt_irrefl _)

/-- What marking the record read last leaves. -/
def FlagMark (C : Config) (result : MarkResult) (s : BlockStore σ) : Prop :=
  match result with
  | .nothingRead => Live C s
  | .deviceFailed => Always (MarksRecord C) s.world.trace
  | .succeeded nextCursor => s.records.hasReadRecord = false ∧
      BlockSequence.Marked C ⟨s.seq.setReadCursor nextCursor, s.world⟩

theorem markLastReadAsSent_flagMark (h : Live C s) :
    Ensures (onRecords (RecordStore.markLastReadAsSent P))
      (fun result s' => FlagMark C result s') s := by
  rw [ensures_onRecords]
  unfold RecordStore.markLastReadAsSent
  rw [ensures_bind, RecordStore.ensures_records]
  apply Ensures.ite
  · intro hhas
    apply RecordStore.ensures_ask
    have hmarks := h.2.marked.marks.concat (h.2.marksRecord hhas
      (P.answer (.writeAt s.records.lastReadBlockIndex s.records.lastSentFlagOffset
        [sentFlagSent]) s.world.env).1)
    obtain ⟨hblock, -, hflags⟩ := h.2.remembered hhas
    have hmarked : BlockSequence.Marked C ⟨s.seq.setReadCursor (s.records.lastSentFlagOffset + 1),
        s.world.asked P (.writeAt s.records.lastReadBlockIndex s.records.lastSentFlagOffset
          [sentFlagSent])⟩ := by
      refine ⟨hmarks, h.2.marked.readsOldest, ?_⟩
      intro flag hflag
      rw [World.asked_trace, flagsWritten, List.foldl_append, ← flagsWritten] at hflag
      rcases List.mem_cons.1 hflag with rfl | hflag
      · exact ⟨hblock, Nat.lt_succ_self _⟩
      · exact ⟨(h.2.marked.passed flag hflag).1, Nat.lt_succ_of_lt (hflags flag hflag)⟩
    apply Ensures.ite
    · intro _
      exact ⟨rfl, hmarked⟩
    · intro _
      exact hmarks
  · intro _
    exact h

theorem markSent_orFrozen (h : Live C s) :
    Ensures (markSent P C) (fun _ s' => FlaggedOrFrozen C s') s := by
  unfold markSent
  rw [ensures_bind, ensures_get]
  apply Ensures.ite
  · intro _
    exact h.orFrozen
  · intro _
    apply Ensures.bind (markLastReadAsSent_flagMark h)
    intro result s₁ h₁
    cases result with
    | nothingRead => exact Live.orFrozen h₁
    | deviceFailed => exact (freeze_orFrozen h₁ _).1
    | succeeded nextCursor =>
      obtain ⟨hforgot, hmarked⟩ := h₁
      dsimp only
      rw [ensures_bind, ensures_modify, ensures_bind, ensures_onSeq]
      apply (BlockSequence.disposeReadBlockIfDrained_marked hmarked).mono
      intro changed t ht
      rw [ensures_bind]
      apply ensures_freezeIfDeviceFailed
      · intro _
        exact (freeze_orFrozen ht.1.marks _).1
      · intro _
        apply Ensures.ite
        · intro _
          apply (forgetLastRead_flagged ht.1).mono
          intro _ s₂ h₂
          exact h₂.orFrozen
        · intro _
          have hflagged : Flagged C { s₁ with seq := t.seq, world := t.world } :=
            flagged_of_forgotten ht.1 hforgot
          exact hflagged.orFrozen

/-! ## Starting -/

/-- With the cursor at the start of its block, the store has written no flag in it. -/
theorem Live.setReadCursor (h : Live C s) (hcursor : s.seq.readCursor = 0) (cursor : Nat) :
    Live C { s with seq := s.seq.setReadCursor cursor } :=
  ⟨h.1, h.2.leaves rfl (by rw [hcursor]; exact Nat.zero_le _) rfl (.inl rfl) (.refl _)⟩

theorem scanReadBlock_orFrozen (h : Live C s) (hcursor : s.seq.readCursor = 0) :
    Ensures (scanReadBlock P C) (fun result s' =>
      if result = .deviceFailed then FlaggedOrFrozen C s' else Live C s' ∧
        (result = .corrupt → s'.seq.readIsBehindWrite = false →
          s'.seq.readCursor ≤ s'.seq.writePosition)) s := by
  unfold scanReadBlock
  rw [ensures_bind, ensures_onSeq]
  apply (BlockSequence.readBlockSizeOf_undisturbed (C := C) ⟨s.seq, s.world⟩).mono
  intro size t ht
  obtain ⟨hundisturbed, -, hsize⟩ := ht
  have hflagged := h.2.onSeq hundisturbed
  cases size with
  | none =>
    apply Ensures.bind (freeze_orFrozen hflagged.marked.marks _)
    intro _ s₁ h₁
    exact h₁.1
  | some size =>
    dsimp only
    rw [ensures_bind, ensures_seqOf, ensures_bind, ensures_onRecords]
    apply (RecordStore.findFirstUnsentLoop_idle _ _ _ _).mono
    intro outcome u hu
    obtain ⟨cursor, result⟩ := outcome
    obtain ⟨hidle, hend⟩ := hu
    rw [ensures_bind, ensures_modify]
    have hscanned : Live C { s with seq := t.seq, records := u.records, world := u.world } :=
      ⟨h.1, hflagged.leaves rfl le_rfl rfl (.inl hidle.1) (hidle.2 _)⟩
    have hmoved := hscanned.setReadCursor (hundisturbed.readCursor.trans hcursor) cursor
    apply Ensures.ite
    · intro hfailed
      apply Ensures.bind (freeze_orFrozen hmoved.2.marked.marks _)
      intro _ s₁ h₁
      obtain rfl : result = .deviceFailed := by simpa using hfailed
      exact h₁.1
    · intro hfine
      rw [ensures_pure, if_neg (by simpa using hfine)]
      refine ⟨hmoved, fun hcorrupt hcaught => ?_⟩
      have hcursor : cursor = size := hend hcorrupt
      exact (hcursor.trans (hsize size rfl hcaught)).le

theorem checkWriteBlock_orFrozen (h : Live C s) :
    Ensures (checkWriteBlock P C) (fun _ s' => FlaggedOrFrozen C s') s := by
  unfold checkWriteBlock
  rw [ensures_bind, ensures_seqOf, ensures_bind, ensures_onRecords]
  apply (RecordStore.scanToEndLoop_idle _ _ _ _).mono
  intro result t ht
  have hscanned : Flagged C { s with records := t.records, world := t.world } :=
    h.2.leaves rfl le_rfl rfl (.inl ht.1) (ht.2 _)
  cases result with
  | deviceFailed => exact (freeze_orFrozen hscanned.marked.marks _).1
  | clean => exact hscanned.orFrozen
  | corrupt =>
    have hcorrupt : Flagged C { s with
        seq := s.seq.markWriteBlockCorrupt
        records := t.records
        world := t.world } := hscanned.leaves rfl le_rfl rfl (.inl rfl) (.refl _)
    exact hcorrupt.orFrozen

theorem resumeLoop_orFrozen (h : Live C s) (hcursor : s.seq.readCursor = 0) (fuel : Nat) :
    Ensures (resumeLoop P C fuel) (fun result s' => FlaggedOrFrozen C s' ∧
      (result ≠ .deviceFailed → s'.seq.deviceFailed = true ∨ Live C s')) s := by
  induction fuel generalizing s with
  | zero =>
    have hnoted : Flagged C { s with world := s.world.noted .endless } :=
      h.2.leaves rfl le_rfl rfl (.inl rfl) (World.leaves_noted rfl)
    exact ⟨hnoted.orFrozen, fun _ => .inr ⟨h.1, hnoted⟩⟩
  | succ fuel ih =>
    unfold resumeLoop
    apply Ensures.bind (scanReadBlock_orFrozen h hcursor)
    intro result s₁ h₁
    cases result with
    | deviceFailed => exact ⟨h₁, fun hfine => absurd rfl hfine⟩
    | clean => exact ⟨h₁.1.orFrozen, fun _ => .inr h₁.1⟩
    | corrupt =>
      apply Ensures.bind (abandonRestOfReadBlock_orFrozen h₁.1 (h₁.2 rfl))
      intro movedOn s₂ h₂
      cases movedOn with
      | true => exact ih h₂.1 h₂.2
      | false => exact ⟨h₂.1, fun _ => h₂.2⟩

theorem initialise_orFrozen (h : Live C s) (hunflagged : s.world.Unflagged C)
    (hread : s.seq.readSequence = s.seq.oldestSequence) (hcursor : s.seq.readCursor = 0)
    (hforgot : s.records.hasReadRecord = false) :
    Ensures (initialise P C) (fun _ s' => FlaggedOrFrozen C s') s := by
  unfold initialise
  rw [ensures_bind, ensures_onSeq]
  apply (BlockSequence.openBlocks_marked hunflagged hread hcursor).mono
  intro opened t ht
  have hlive : Live C { s with seq := t.seq, world := t.world } :=
    ⟨h.1, flagged_of_forgotten ht.1 hforgot⟩
  apply Ensures.ite
  · intro _
    unfold resumeFromExistingBlock
    apply Ensures.bind (resumeLoop_orFrozen hlive ht.2 _)
    intro result s₁ h₁
    rw [ensures_bind, ensures_seqOf]
    apply Ensures.ite
    · intro hfine
      simp only [Bool.and_eq_true, bne_iff_ne, ne_eq, Bool.not_eq_eq_eq_not, Bool.not_true]
        at hfine
      rcases h₁.2 hfine.1 with hfailed | hlive₁
      · rw [hfailed] at hfine
        cases hfine.2
      · exact checkWriteBlock_orFrozen hlive₁
    · intro _
      exact h₁.1
  · intro _
    exact (freeze_orFrozen ht.1.marks _).1

theorem created_orFrozen (P : Platform σ) (C : Config) (env : σ) :
    FlaggedOrFrozen C (created P C env) := by
  have hempty : World.Unflagged C (⟨env, []⟩ : World σ) := ⟨.nil, rfl⟩
  have hinitial : Live C (initial (σ := σ) ⟨env, []⟩) :=
    ⟨rfl, flagged_of_forgotten (BlockSequence.marked_of_unflagged hempty rfl) rfl⟩
  change Ensures (create P C) (fun _ s' => FlaggedOrFrozen C s') (initial ⟨env, []⟩)
  unfold create
  apply Ensures.ite
  · intro _
    rw [ensures_bind, ensures_report]
    apply initialise_orFrozen (s := { initial ⟨env, []⟩ with world := _ }) _ _ rfl rfl rfl
    · exact ⟨rfl, hinitial.2.report⟩
    · exact hempty.leaves (World.leaves_asked rfl : World.Leaves C 0 _ _)
  · intro _
    exact initialise_orFrozen hinitial hempty rfl rfl rfl

/-! ## Runs -/

/-- A call that would start over on the block whose record the store would mark. -/
def StartsOver (P : Platform σ) (s : BlockStore σ) : Op C → Prop
  | .write message => StartsOverOnRead P C s message.bytes
  | _ => False

theorem perform_orFrozen (h : FlaggedOrFrozen C s) (fuel : Nat) (op : Op C)
    (hsafe : ¬ StartsOver P s op) :
    Ensures (perform P fuel op) (fun _ s' => FlaggedOrFrozen C s') s := by
  cases hfrozen : s.frozen with
  | true =>
    unfold Ensures
    rw [perform_of_frozen hfrozen]
    exact h
  | false =>
    have hlive : Live C s := ⟨hfrozen, h.2 hfrozen⟩
    unfold perform
    cases op with
    | write message =>
      apply Ensures.bind (write_orFrozen hlive.2 message.bytes hsafe)
      intro _ s₁ h₁
      exact h₁
    | readNextUnsent maxSize =>
      apply Ensures.bind (readNextUnsent_orFrozen hlive fuel maxSize)
      intro outcome s₁ h₁
      cases outcome with
      | none => exact h₁
      | some bytes => exact h₁
    | markSent =>
      apply Ensures.bind (markSent_orFrozen hlive)
      intro _ s₁ h₁
      exact h₁
    | hasUnsent => exact h
    | isTransient => exact h

def Event.isWriteAt : Event → Bool
  | .call (.writeAt _ _ _) _ => true
  | _ => false

/-- The store after one write, one read and one mark, on a device that was empty. -/
def markedOne : BlockStore Media :=
  (perform (ramDevice .oldest) (C := .small) 1 .markSent
    (perform (ramDevice .oldest) (C := .small) 1 (.readNextUnsent 64)
      (perform (ramDevice .oldest) (C := .small) 1 (.write (.one 65))
        (created (ramDevice .oldest) .small .empty)).2).2).2

/-- One record in each block, and a torn one in the last. -/
def everyBlock : Media :=
  fun block => some (if block = 99 then [0xA5] else [0xA5, 0x5A, 1, 0, 65, 0xFF])

/-- The store after it has handed out the record of block 0. -/
def handedOutOfFull : BlockStore Media :=
  (perform (ramDevice .oldest) (C := .small) 1 (.readNextUnsent 64)
    (created (ramDevice .oldest) .small everyBlock)).2

/-- The store after the next write started over on block 0. -/
def startedOver : BlockStore Media :=
  (perform (ramDevice .oldest) (C := .small) 1 (.write (.one 66)) handedOutOfFull).2

/-- The store after the mark meant for the record handed out. -/
def markedAfterStartingOver : BlockStore Media :=
  (perform (ramDevice .oldest) (C := .small) 1 .markSent startedOver).2

theorem markable_of_marksRecord {before : List Event} {event : Event}
    (h : MarksRecord C before event) (hwrite : Event.isWriteAt event = true) :
    markable before ≠ none := by
  unfold Event.isWriteAt at hwrite
  split at hwrite
  · obtain ⟨-, ⟨start, length, hhanded, -⟩, -⟩ := h
    rw [hhanded]
    simp
  · cases hwrite

end BlockStore

end SolidSyslog.Store
