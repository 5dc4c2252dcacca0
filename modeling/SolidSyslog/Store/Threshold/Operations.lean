import SolidSyslog.Store.Threshold.Parts
import SolidSyslog.Store.Bounds.Operations
import SolidSyslog.Store.Freeze.Operations

/-!
# The latch of the store

Every call of the store that does not freeze it leaves the latch where the bytes used ask for it,
but for a write that starts a new block and then has its seal fail: it changes the bytes used and
leaves before the latch is looked at.
-/

namespace SolidSyslog.Store.BlockStore

open Lib

variable {σ : Type} {P : Platform σ} {C : Config} {threshold n : Nat} {s s' : BlockStore σ}

/-- The monitor has the latch as the store does, and the latch is where the bytes used ask for
it. -/
structure Tally (C : Config) (threshold n : Nat) (s : BlockStore σ) : Prop where
  watched : BlockSequence.Watched C n ⟨s.seq, s.world⟩
  settled : BlockSequence.LatchSettled C threshold s.seq

/-- The store is frozen or the latch is where it should be. -/
def FrozenOrTally (C : Config) (threshold n : Nat) (s : BlockStore σ) : Prop :=
  s.frozen = true ∨ Tally C threshold n s

/-- What the latch depends on is as it was, and only still events came. -/
structure Stilled (s s' : BlockStore σ) : Prop where
  same : BlockSequence.SameUse s.seq s'.seq
  frozen : s'.frozen = s.frozen
  trace : Extends (fun event => event.isStill = true) s.world.trace s'.world.trace

theorem Stilled.refl (s : BlockStore σ) : Stilled s s :=
  ⟨.refl _, rfl, .refl _⟩

theorem still_of_report {severity : Severity} {category : Category} {error : BlockStoreError}
    (h : category ≠ .storeThresholdCrossed) :
    Event.isStill (.call (.report severity category error) ()) = true := by
  cases category <;> first | rfl | exact absurd rfl h

theorem stilled_unreported (s : BlockStore σ) : Unreported P (Stilled s) where
  report _ _ _ _ _ hcategory h := ⟨h.same, h.frozen, h.trace.concat (still_of_report hcategory)⟩
  latches _ _ _ _ _ h := ⟨h.same, h.frozen, h.trace⟩

theorem frozen_unreported : Unreported (σ := σ) P (fun s => s.frozen = true) where
  report _ _ _ _ _ _ h := h
  latches _ _ _ _ _ h := h

theorem Tally.stilled (h : Tally C threshold n s) (hstill : Stilled s s') :
    Tally C threshold n s' :=
  ⟨h.watched.still hstill.same hstill.trace, h.settled.same hstill.same⟩

theorem still_of_looksAt {block : Sequence} {dataSize : Nat} {event : Event}
    (h : event.LooksAt C block dataSize) : event.isStill = true := by
  rcases event with ⟨request, answer⟩ | _ | _ | _ | _
  · cases request <;> first | rfl | exact h.elim
  all_goals exact h.elim

/-! ## Reading -/

theorem readNextBlockIfBehind_tally (hP : P.HasThreshold threshold) (hstands : Stands P False C s)
    (h : Tally C threshold n s) :
    Ensures (readNextBlockIfBehind P C) (fun _ s' => FrozenOrTally C threshold n s') s := by
  unfold readNextBlockIfBehind
  rw [ensures_bind, ensures_seqOf]
  apply Ensures.ite
  · intro hbehind
    have hne := BlockSequence.readIsBehindWrite_iff.1 hbehind
    rw [ensures_bind, ensures_onSeq]
    apply ((BlockSequence.disposeReadBlock_grounded hstands.seq hne.symm).and
      (BlockSequence.disposeReadBlock_watched hP hstands.seq h.watched hne.symm)).mono
    rintro disposed ⟨seq₁, world₁⟩ ⟨⟨-, -, -, hrefused⟩, hwatched, hsettled⟩
    rw [ensures_bind, ensures_forgetLastRead, ensures_bind]
    apply ensures_freezeIfDeviceFailed
    · intro _
      rw [ensures_freeze]
      exact .inl rfl
    · intro hfine
      refine .inr ⟨hwatched, hsettled ?_⟩
      by_contra hnot
      exact Bool.false_ne_true (hfine.symm.trans (hrefused (by simpa using hnot)))
  · intro _
    exact .inr h

theorem abandonRestOfReadBlock_tally (hP : P.HasThreshold threshold)
    (hstands : Stands P False C s) (h : Tally C threshold n s) :
    Ensures (abandonRestOfReadBlock P C) (fun _ s' => FrozenOrTally C threshold n s') s := by
  unfold abandonRestOfReadBlock
  apply (readNextBlockIfBehind_tally hP hstands h).bind
  intro movedOn s₁ h₁
  rw [ensures_bind, ensures_seqOf]
  apply Ensures.ite
  · intro _
    have hreported : Ensures (reportLoss P .recordCorrupt)
        (fun _ s' => FrozenOrTally C threshold n s') s₁ := by
      rcases h₁ with hfrozen | htally
      · apply (frozen_unreported.reportLoss hfrozen .recordCorrupt).mono
        intro _ s₂ hfrozen₂
        exact .inl hfrozen₂
      · apply ((stilled_unreported s₁).reportLoss (.refl s₁) .recordCorrupt).mono
        intro _ s₂ hstill
        exact .inr (htally.stilled hstill)
    apply hreported.bind
    intro _ s₂ h₂
    apply Ensures.ite
    · intro _
      refine h₂.imp id fun htally => ?_
      exact htally.stilled ⟨⟨rfl, rfl, rfl, rfl, rfl⟩, rfl, .refl _⟩
    · intro _
      exact h₂
  · intro _
    exact h₁

theorem readCurrent_stilled (s : BlockStore σ) (maxSize : Nat) :
    Ensures (readCurrent P C maxSize) (fun _ s' => Stilled s s') s := by
  unfold readCurrent
  rw [ensures_bind, ensures_onSeq]
  apply (BlockSequence.readBlockSizeOf_use _).mono
  rintro size ⟨seq₁, world₁⟩ ⟨hsame, hstill⟩
  cases size with
  | none => exact ⟨hsame, rfl, hstill⟩
  | some size =>
    dsimp only
    rw [ensures_bind, ensures_seqOf, ensures_onRecords]
    apply RecordStore.read_looked.mono
    rintro found ⟨records', world'⟩ hlooked
    exact ⟨hsame, rfl, hstill.trans (hlooked.looks.mono fun _ => still_of_looksAt)⟩

theorem stepPastCurrent_tally (h : Tally C threshold n s) :
    Ensures stepPastCurrent (fun _ s' => FrozenOrTally C threshold n s') s :=
  .inr (h.stilled ⟨⟨rfl, rfl, rfl, rfl, rfl⟩, rfl, .refl _⟩)

theorem stepPast_tally (hP : P.HasThreshold threshold) (hstands : Stands P False C s)
    (h : Tally C threshold n s) (found : RecordStore.Found) :
    Ensures (stepPast P C found) (fun _ s' => FrozenOrTally C threshold n s') s := by
  unfold stepPast
  cases found.result with
  | rejected =>
    dsimp only
    rw [ensures_bind, ensures_seqOf, ensures_bind, ensures_seqOf, ensures_bind, ensures_note]
    unfold stepPastRejected
    have hnoted : Stilled s { s with
        world := s.world.noted (.steppedPast s.seq.readSequence s.seq.readCursor
          found.length) } :=
      ⟨.refl _, rfl, (Extends.refl _).concat rfl⟩
    apply Ensures.bind ((stilled_unreported s).reportLoss hnoted .recordRejected)
    intro _ s₂ hstill
    exact stepPastCurrent_tally (h.stilled hstill)
  | finishedWith => exact stepPastCurrent_tally h
  | endOfData => exact readNextBlockIfBehind_tally hP hstands h
  | corrupt => exact abandonRestOfReadBlock_tally hP hstands h
  | succeeded => exact .inr h
  | couldNotOpen => exact .inr h
  | deviceFailed => exact .inr h

theorem readLoop_tally (hP : P.HasThreshold threshold) (hstands : Stands P False C s)
    (h : Tally C threshold n s) (maxSize fuel : Nat) :
    Ensures (readLoop P C maxSize fuel) (fun _ s' => FrozenOrTally C threshold n s') s := by
  induction fuel generalizing s with
  | zero => exact .inr h
  | succ fuel ih =>
    unfold readLoop
    apply ((readCurrent_sighted hstands maxSize).and (readCurrent_stilled s maxSize)).bind
    rintro found s₁ ⟨⟨hcopied, -, -, hsight⟩, hstill⟩
    have h₁ := h.stilled hstill
    by_cases hfailed : found.result = .deviceFailed
    · have hstop : stepPast P C found = pure false := by
        unfold stepPast
        rw [hfailed]
      rw [hstop]
      exact .inr h₁
    · obtain ⟨size, hsighted⟩ := hsight hfailed
      apply ((stepPast_turn hcopied hsighted hfailed).and
        (stepPast_tally hP hsighted.stands h₁ found)).bind
      rintro goesOn s₂ ⟨⟨hon, -⟩, h₂⟩
      apply Ensures.ite
      · intro hgoes
        have hstands₂ := (hon hgoes).1
        rcases h₂ with hfrozen | htally
        · exact absurd (hfrozen.symm.trans hstands₂.live) (by decide)
        · exact ih hstands₂ htally
      · intro _
        exact h₂

theorem settleRead_tally (h : FrozenOrTally C threshold n s) (found : RecordStore.Found) :
    Ensures (settleRead P found) (fun _ s' => FrozenOrTally C threshold n s') s := by
  unfold settleRead
  cases found.result with
  | succeeded =>
    refine h.imp id fun htally => htally.stilled ⟨.refl _, rfl, ?_⟩
    exact (Extends.refl _).concat rfl
  | deviceFailed =>
    dsimp only
    rw [ensures_bind]
    apply ensures_freezeIfDeviceFailed
    · intro _
      rw [ensures_freeze]
      exact .inl rfl
    · intro _
      exact .inl rfl
  | _ => exact h

theorem readNextUnsent_tally (hP : P.HasThreshold threshold) (hstands : Stands P False C s)
    (h : Tally C threshold n s) (fuel maxSize : Nat) :
    Ensures (readNextUnsent P C fuel maxSize) (fun _ s' => FrozenOrTally C threshold n s') s := by
  unfold readNextUnsent
  rw [ensures_bind, ensures_get, hstands.live, if_neg Bool.false_ne_true, ensures_bind,
    ensures_seqOf]
  apply Ensures.ite
  · intro _
    apply (readLoop_tally hP hstands h maxSize fuel).bind
    intro outcome s₁ h₁
    cases outcome with
    | none => exact h₁
    | some found =>
      apply (settleRead_tally h₁ found).bind
      intro _ s₂ h₂
      exact h₂
  · intro _
    exact .inr h

/-! ## Marking -/

theorem markSent_tally (hP : P.HasThreshold threshold) (hstands : Stands P False C s)
    (h : Tally C threshold n s) :
    Ensures (markSent P C) (fun _ s' => FrozenOrTally C threshold n s') s := by
  unfold markSent
  rw [ensures_bind, ensures_get, hstands.live, if_neg Bool.false_ne_true, ensures_bind,
    ensures_onRecords]
  unfold RecordStore.markLastReadAsSent
  rw [ensures_bind, RecordStore.ensures_records]
  apply Ensures.ite
  · intro _
    apply RecordStore.ensures_ask
    have hstill : Extends (fun event => Event.isStill event = true) s.world.trace
        (s.world.asked P (.writeAt s.records.lastReadBlockIndex s.records.lastSentFlagOffset
          [sentFlagSent])).trace := (Extends.refl _).concat rfl
    have hgrounded := hstands.flagWritten s.records.lastReadBlockIndex
      s.records.lastSentFlagOffset (s.records.lastSentFlagOffset + 1) [sentFlagSent]
    cases (P.answer (.writeAt s.records.lastReadBlockIndex s.records.lastSentFlagOffset
        [sentFlagSent]) s.world.env).1 with
    | true =>
      rw [if_pos rfl, ensures_bind, RecordStore.ensures_setRecords, ensures_pure]
      dsimp only
      rw [ensures_bind, ensures_modify, ensures_bind, ensures_onSeq]
      have hwatched : BlockSequence.Watched C n
          ⟨s.seq.setReadCursor (s.records.lastSentFlagOffset + 1),
            s.world.asked P (.writeAt s.records.lastReadBlockIndex s.records.lastSentFlagOffset
              [sentFlagSent])⟩ :=
        h.watched.still ⟨rfl, rfl, rfl, rfl, rfl⟩ hstill
      apply (BlockSequence.disposeReadBlockIfDrained_watched hP hgrounded hwatched).mono
      rintro changed ⟨seq₂, world₂⟩ ⟨hwatched₂, hsettled⟩
      rw [ensures_bind]
      apply ensures_freezeIfDeviceFailed
      · intro _
        rw [ensures_freeze]
        exact .inl rfl
      · intro hfine
        have htally : BlockSequence.LatchSettled C threshold seq₂ :=
          hsettled (h.settled.same ⟨rfl, rfl, rfl, rfl, rfl⟩) hfine
        apply Ensures.ite
        · intro _
          exact .inr ⟨hwatched₂, htally⟩
        · intro _
          exact .inr ⟨hwatched₂, htally⟩
    | false => exact .inl rfl
  · intro _
    exact .inr h

/-! ## Writing -/

/-- What an append adds to the trace. -/
theorem append_events {r : RecordState σ} {block : Sequence} {data : Bytes} :
    Ensures (RecordStore.append P C block data) (fun result r' =>
      (result = .sealFailed → ∃ content,
        r'.world.trace = r.world.trace ++ [.call (.sealRecord content) none]) ∧
      (result ≠ .sealFailed →
        Extends (fun event => event.isStill = true) r.world.trace r'.world.trace ∧
        (monitor C r'.world.trace).refused = false)) r := by
  unfold RecordStore.append RecordStore.assembleRecord
  rw [ensures_bind]
  apply RecordStore.ensures_ask
  cases hseal : (P.answer (.sealRecord (header (toUint16 data.length) ++ data)) r.world.env).1 with
  | none =>
    refine ⟨fun _ => ⟨header (toUint16 data.length) ++ data, ?_⟩, fun hno => absurd rfl hno⟩
    change (r.world.asked P _).trace = _
    rw [World.asked_trace, hseal]
  | some outcome =>
    obtain ⟨content, trailer⟩ := outcome
    dsimp only
    rw [ensures_pure]
    apply RecordStore.ensures_ask
    rw [ensures_pure]
    have hsealed : Event.isStill (.call (.sealRecord (header (toUint16 data.length) ++ data))
        (P.answer (.sealRecord (header (toUint16 data.length) ++ data)) r.world.env).1) = true := by
      rw [hseal]
      rfl
    have hfirst : Extends (fun event => Event.isStill event = true) r.world.trace
        (r.world.asked P (.sealRecord (header (toUint16 data.length) ++ data))).trace :=
      (Extends.refl _).concat hsealed
    refine ⟨?_, fun _ => ⟨hfirst.concat rfl, ?_⟩⟩
    · split <;> nofun
    · rw [World.asked_trace, monitor_concat]
      rfl

/-- A record was added and the latch looked at, or its seal failed and nothing else changed. -/
theorem appendRecord_tally (hP : P.HasThreshold threshold) (hstands : Stands P False C s)
    (h : BlockSequence.Watched C n ⟨s.seq, s.world⟩) {data : Bytes}
    (hdata : data.length ≤ C.tunables.maxMessageSize)
    (hroom : s.seq.writePosition + C.recordSize data.length ≤ C.maxBlockSize) :
    Ensures (appendRecord P C (C.recordSize data.length) data) (fun _ s' =>
      FrozenOrTally C threshold n s' ∨
      (BlockSequence.Watched C (n + 1) ⟨s'.seq, s'.world⟩ ∧
        BlockSequence.SameUse s.seq s'.seq)) s := by
  unfold appendRecord
  rw [ensures_bind, ensures_seqOf, ensures_bind, ensures_onRecords]
  apply ((RecordStore.append_bounds hstands.seq.calls hdata hstands.seq.position hroom).and
    append_events).mono
  rintro result ⟨records₁, world₁⟩ ⟨⟨-, -, -, hsucceeded⟩, hfailed, hother⟩
  unfold settleAppend
  cases result with
  | succeeded =>
    obtain ⟨hstill, hrefused⟩ := hother nofun
    have hsize : sizesKnown world₁.trace s.seq.writeSequence =
        some (s.seq.writePosition + C.recordSize data.length) := by
      have happended := hsucceeded rfl
      have hposition : sizesKnown s.world.trace s.seq.writeSequence = some s.seq.writePosition :=
        hstands.seq.position
      dsimp only at happended
      rw [happended, Function.update_self, hposition]
      rfl
    have hwatched : BlockSequence.Watched C n ⟨s.seq, world₁⟩ := h.still (.refl _) hstill
    dsimp only
    rw [ensures_bind, ensures_onSeq]
    apply (BlockSequence.noteRecordWritten_watched hP hwatched hsize hrefused).mono
    rintro _ ⟨seq₂, world₂⟩ ⟨hwatched₂, hsettled⟩
    exact .inl (.inr ⟨hwatched₂, hsettled⟩)
  | deviceFailed => exact .inl (.inl rfl)
  | sealFailed =>
    obtain ⟨content, htrace⟩ := hfailed rfl
    dsimp only at htrace
    have hwatched : BlockSequence.Watched C (n + 1) ⟨s.seq, world₁⟩ := by
      refine ⟨?_, ?_, h.off, ?_⟩
      · dsimp only
        rw [htrace]
        exact h.latched.concat rfl
      · dsimp only
        rw [htrace, monitor_concat]
        exact h.run
      · dsimp only
        rw [htrace, failedSeals_append]
        exact congrArg (· + 1) h.seals
    dsimp only
    apply Ensures.bind ((stilled_unreported _).reportSealFailed (.refl _))
    intro _ s₂ hstill
    exact .inr ⟨hwatched.still hstill.same hstill.trace, hstill.same⟩

theorem storeRecord_tally (hP : P.HasThreshold threshold) (hstands : Stands P False C s)
    (h : Tally C threshold n s) {data : Bytes}
    (hdata : data.length ≤ C.tunables.maxMessageSize) :
    Ensures (storeRecord P C data) (fun _ s' => FrozenOrTally C threshold n s' ∨
      (BlockSequence.Watched C (n + 1) ⟨s'.seq, s'.world⟩ ∧
        (s.seq.blockIsFull C (C.recordSize (toUint16 data.length)) = false →
          BlockSequence.LatchSettled C threshold s'.seq))) s := by
  have hlength : toUint16 data.length = data.length :=
    toUint16_of_le (hdata.trans (C.tunables.maxMessageSize_le.trans (by decide)))
  have hfits : C.recordSize (toUint16 data.length) ≤ C.maxBlockSize := by
    rw [hlength]
    exact Config.recordSize_le_maxBlockSize hdata
  unfold storeRecord
  dsimp only
  rw [ensures_bind, ensures_onSeq]
  apply ((BlockSequence.prepareForWrite_grounded hstands.seq hfits False.elim).and
    (BlockSequence.prepareForWrite_watched hP hstands.seq h.watched _)).mono
  rintro ⟨prepared, changed⟩ ⟨seq₁, world₁⟩ ⟨⟨hground, hroom⟩, hwatched, hrefused, hunfull⟩
  dsimp only
  rw [ensures_bind]
  apply ensures_freezeIfDeviceFailed
  · intro _
    rw [ensures_freeze]
    exact .inl (.inl rfl)
  · intro hfine
    have hstands₁ : Stands P False C { s with seq := seq₁, world := world₁ } :=
      ⟨hground, hfine, hstands.live⟩
    rw [if_neg Bool.false_ne_true]
    apply Ensures.ite
    · intro hno
      apply Ensures.bind ((stilled_unreported _).reportRefusal (.refl _))
      intro _ s₂ hstill
      refine .inl (.inr ⟨hwatched.still hstill.same hstill.trace, ?_⟩)
      exact BlockSequence.LatchSettled.same (hrefused (by simpa using hno) hfine) hstill.same
    · intro hprepared
      apply Ensures.bind (((stilled_unreported _).reportEviction (.refl _)).and
        ((plainly_unreported _).reportEviction (.refl _)))
      rintro _ s₂ ⟨hstill, hplain⟩
      have hroom₂ : s₂.seq.writePosition + C.recordSize data.length ≤ C.maxBlockSize := by
        rw [hplain.seq, ← hlength]
        exact hroom (by simpa using hprepared)
      have hstands₂ := hstands₁.plainly hplain
      have hwatched₂ : BlockSequence.Watched C n ⟨s₂.seq, s₂.world⟩ :=
        hwatched.still hstill.same hstill.trace
      have hsettled : s.seq.blockIsFull C (C.recordSize (toUint16 data.length)) = false →
          BlockSequence.LatchSettled C threshold s₂.seq := by
        intro hpartial
        have heq : seq₁ = s.seq := congrArg SequenceState.seq (hunfull hpartial)
        exact BlockSequence.LatchSettled.same (heq ▸ h.settled) hstill.same
      have hend : ∀ s₃ : BlockStore σ, (FrozenOrTally C threshold n s₃ ∨
          (BlockSequence.Watched C (n + 1) ⟨s₃.seq, s₃.world⟩ ∧
            BlockSequence.SameUse s₂.seq s₃.seq)) → FrozenOrTally C threshold n s₃ ∨
          (BlockSequence.Watched C (n + 1) ⟨s₃.seq, s₃.world⟩ ∧
            (s.seq.blockIsFull C (C.recordSize (toUint16 data.length)) = false →
              BlockSequence.LatchSettled C threshold s₃.seq)) :=
        fun s₃ h₃ => h₃.imp_right fun hfailed =>
          ⟨hfailed.1, fun hpartial => (hsettled hpartial).same hfailed.2⟩
      rw [hlength] at hend ⊢
      apply Ensures.ite
      · intro _
        rw [ensures_bind, ensures_forgetLastRead]
        refine Ensures.mono (appendRecord_tally (n := n) hP ?_ ?_ hdata ?_) fun _ => hend
        · exact ⟨hstands₂.seq, hstands₂.fine, hstands₂.live⟩
        · exact hwatched₂
        · exact hroom₂
      · intro _
        exact (appendRecord_tally hP hstands₂ hwatched₂ hdata hroom₂).mono fun _ => hend

/-! ## Starting -/

theorem scanReadBlock_tally (h : Tally C threshold n s) :
    Ensures (scanReadBlock P C) (fun _ s' => FrozenOrTally C threshold n s') s := by
  unfold scanReadBlock
  rw [ensures_bind, ensures_onSeq]
  apply (BlockSequence.readBlockSizeOf_use _).mono
  rintro size ⟨seq₁, world₁⟩ ⟨hsame, hstill⟩
  cases size with
  | none => exact .inl rfl
  | some size =>
    dsimp only
    rw [ensures_bind, ensures_seqOf, ensures_bind, ensures_onRecords]
    unfold RecordStore.findFirstUnsent
    apply RecordStore.findFirstUnsentLoop_looks.mono
    rintro ⟨cursor, scanned⟩ ⟨records₂, world₂⟩ ⟨-, hlooks⟩
    have hstill₂ := hstill.trans (hlooks.mono fun _ => still_of_looksAt)
    dsimp only
    rw [ensures_bind, ensures_modify]
    apply Ensures.ite
    · intro _
      exact .inl rfl
    · intro _
      refine .inr (h.stilled ⟨?_, rfl, hstill₂⟩)
      exact hsame.trans ⟨rfl, rfl, rfl, rfl, rfl⟩

theorem resumeLoop_tally (hP : P.HasThreshold threshold) (hstands : Stands P False C s)
    (h : Tally C threshold n s) (fuel : Nat) :
    Ensures (resumeLoop P C fuel) (fun _ s' => FrozenOrTally C threshold n s') s := by
  induction fuel generalizing s with
  | zero => exact .inr (h.stilled ⟨.refl _, rfl, (Extends.refl _).concat rfl⟩)
  | succ fuel ih =>
    unfold resumeLoop
    apply ((scanReadBlock_kept hstands).and (scanReadBlock_tally h)).bind
    rintro scanned s₁ ⟨⟨-, hfine⟩, h₁⟩
    apply Ensures.ite
    · intro hcorrupt
      have hscanned : scanned = .corrupt := by simpa using hcorrupt
      have hstands₁ := (hfine (by rw [hscanned]; rintro ⟨⟩)).1
      rcases h₁ with hfrozen | htally
      · exact absurd (hfrozen.symm.trans hstands₁.live) (by decide)
      · apply ((abandonRestOfReadBlock_kept hstands₁).and
          (abandonRestOfReadBlock_tally hP hstands₁ htally)).bind
        rintro movedOn s₂ ⟨⟨-, hmoved, -⟩, h₂⟩
        apply Ensures.ite
        · intro hon
          have hstands₂ := (hmoved hon).1
          rcases h₂ with hfrozen | htally₂
          · exact absurd (hfrozen.symm.trans hstands₂.live) (by decide)
          · exact ih hstands₂ htally₂
        · intro _
          exact h₂
    · intro _
      exact h₁

theorem checkWriteBlock_tally (h : FrozenOrTally C threshold n s) :
    Ensures (checkWriteBlock P C) (fun _ s' => FrozenOrTally C threshold n s') s := by
  unfold checkWriteBlock
  rw [ensures_bind, ensures_seqOf]
  dsimp only
  rw [ensures_bind, ensures_onRecords]
  unfold RecordStore.scanToEnd
  apply RecordStore.scanToEndLoop_looks.mono
  rintro result ⟨records₁, world₁⟩ ⟨-, hlooks⟩
  have hstill := hlooks.mono fun _ => still_of_looksAt
  cases result with
  | deviceFailed => exact .inl rfl
  | corrupt =>
    exact h.imp id fun htally => htally.stilled ⟨⟨rfl, rfl, rfl, rfl, rfl⟩, rfl, hstill⟩
  | clean => exact h.imp id fun htally => htally.stilled ⟨.refl _, rfl, hstill⟩

theorem initialise_tally (hP : P.HasThreshold threshold) {w : World σ}
    (hcalls : Always (WithinBounds P False C) w.trace) (hlatched : Latched C w.trace false)
    (hseals : failedSeals w.trace = n) :
    Ensures (initialise P C) (fun _ s' => FrozenOrTally C threshold n s') (initial w) := by
  unfold initialise
  rw [ensures_bind, ensures_onSeq]
  apply ((BlockSequence.openBlocks_grounded rfl hcalls).and
    (BlockSequence.openBlocks_watched hP rfl hlatched hseals)).mono
  rintro opened ⟨seq₁, world₁⟩ ⟨⟨-, hopened⟩, hwatched⟩
  apply Ensures.ite
  · intro htrue
    obtain ⟨hground, hfine⟩ := hopened htrue
    have hstands : Stands P False C { initial w with seq := seq₁, world := world₁ } :=
      ⟨hground, hfine, rfl⟩
    have htally : Tally C threshold n { initial w with seq := seq₁, world := world₁ } :=
      ⟨(hwatched htrue).1, (hwatched htrue).2⟩
    unfold resumeFromExistingBlock
    apply (resumeLoop_tally hP hstands htally _).bind
    intro result s₂ h₂
    rw [ensures_bind, ensures_seqOf]
    apply Ensures.ite
    · intro _
      exact checkWriteBlock_tally h₂
    · intro _
      exact h₂
  · intro _
    exact .inl rfl

theorem created_tally (hP : P.HasThreshold threshold) (env : σ) :
    FrozenOrTally C threshold 0 (created P C env) := by
  have hcreate : Ensures (create P C) (fun _ s' => FrozenOrTally C threshold 0 s')
      (initial ⟨env, []⟩) := by
    unfold create
    apply Ensures.ite
    · intro _
      rw [ensures_bind, ensures_report]
      exact initialise_tally hP (Always.nil.concat trivial) (latched_nil.concat rfl) rfl
    · intro _
      exact initialise_tally hP Always.nil latched_nil rfl
  exact hcreate

/-! ## Runs -/

/-- A write that finds its block full for the record and then has its seal fail. -/
def FailsSealInNewBlock (s : BlockStore σ) (op : Op C) (s' : BlockStore σ) : Prop :=
  ∃ message, op = .write message ∧
    s.seq.blockIsFull C (C.recordSize (toUint16 message.bytes.length)) = true ∧
    failedSeals s.world.trace < failedSeals s'.world.trace

theorem perform_tally (hP : P.HasThreshold threshold) (hstands : Stands P False C s)
    (h : Tally C threshold n s) (fuel : Nat) (op : Op C) :
    Ensures (perform P fuel op) (fun _ s' => s'.frozen = true ∨
      ((∃ n', BlockSequence.Watched C n' ⟨s'.seq, s'.world⟩) ∧
        (¬ FailsSealInNewBlock s op s' → BlockSequence.LatchSettled C threshold s'.seq))) s := by
  have hend : ∀ s' : BlockStore σ, FrozenOrTally C threshold n s' → s'.frozen = true ∨
      ((∃ n', BlockSequence.Watched C n' ⟨s'.seq, s'.world⟩) ∧
        (¬ FailsSealInNewBlock s op s' → BlockSequence.LatchSettled C threshold s'.seq)) :=
    fun s' h' => h'.imp id fun htally => ⟨⟨n, htally.watched⟩, fun _ => htally.settled⟩
  unfold perform
  cases op with
  | write message =>
    unfold write
    rw [ensures_bind, ensures_bind, ensures_get, hstands.live, if_neg Bool.false_ne_true]
    apply Ensures.ite
    · intro _
      apply (storeRecord_tally hP hstands h message.fits).mono
      rintro result s₁ (h₁ | ⟨hwatched, hunfull⟩)
      · exact hend s₁ h₁
      · refine .inr ⟨⟨n + 1, hwatched⟩, fun hnot => hunfull ?_⟩
        by_contra hfull
        refine hnot ⟨message, rfl, by simpa using hfull, ?_⟩
        have hbefore : failedSeals s.world.trace = n := h.watched.seals
        have hafter : failedSeals s₁.world.trace = n + 1 := hwatched.seals
        change failedSeals s.world.trace < failedSeals s₁.world.trace
        omega
    · intro _
      exact hend s (.inr h)
  | readNextUnsent maxSize =>
    apply (readNextUnsent_tally hP hstands h fuel maxSize).bind
    intro outcome s₁ h₁
    cases outcome <;> exact hend s₁ h₁
  | markSent =>
    apply (markSent_tally hP hstands h).bind
    intro _ s₁ h₁
    exact hend s₁ h₁
  | hasUnsent => exact hend s (.inr h)
  | isTransient => exact hend s (.inr h)

/-- The store is within bounds, and frozen or with its latch where it should be. -/
structure Counted (P : Platform σ) (C : Config) (threshold : Nat) (s : BlockStore σ) : Prop where
  kept : Kept P False C s
  tally : s.frozen = true ∨ ∃ n, Tally C threshold n s

theorem step_counted (hP : P.HasThreshold threshold) (h : Counted P C threshold s) {op : Op C}
    {answer : Answer} (hstep : Step P s op answer s') (hsealed : ¬ FailsSealInNewBlock s op s') :
    Counted P C threshold s' := by
  obtain ⟨fuel, hperform⟩ := hstep
  rcases h.tally with hfrozen | ⟨n, htally⟩
  · rw [perform_of_frozen hfrozen] at hperform
    cases hperform
    exact h
  · cases hlive : s.frozen with
    | true =>
      rw [perform_of_frozen hlive] at hperform
      cases hperform
      exact h
    | false =>
      have hends := (perform_kept h.kept fuel op False.elim).and
        (perform_tally hP (h.kept.stands hlive) htally fuel op)
      unfold Ensures at hends
      rw [hperform] at hends
      refine ⟨hends.1, hends.2.imp_right ?_⟩
      rintro ⟨⟨n', hwatched⟩, hsettled⟩
      exact ⟨n', hwatched, hsettled hsealed⟩

/-- A store whose device has not failed is not frozen. -/
theorem not_frozen_of_working {env : σ} {ops : List (Op C)} {answers : List Answer}
    (hrun : Run (Step P) (created P C env) ops answers s)
    (hdevice : ∀ e ∈ s.world.trace, e.isFailure = false) : s.frozen = false := by
  rcases healthy_or_frozen hrun with hhealthy | hfrozen
  · exact hhealthy.2.2
  · have hsays := phase_says s.world.trace
    rw [hfrozen.2] at hsays
    obtain ⟨before, failed, answer, between, frozen, error, after, htrace, hfail, -⟩ := hsays
    have hworks := hdevice (.call failed answer) (by simp [htrace])
    exact absurd (hworks.symm.trans hfail) (by decide)

/-- With a constant threshold and a device that does not fail, from any media and with any answers
of the policies, in every run in which no seal fails for a record that finds its block full: the
latch is up exactly when the bytes used are at or above a threshold that is not zero, and the event
and the callback came whenever the latch went up and at no other time. -/
theorem latch_follows_usage (hP : P.HasThreshold threshold) (env : σ) {ops : List (Op C)}
    {answers : List Answer}
    (hrun : Run (fun s op answer s' => Step P s op answer s' ∧ ¬ FailsSealInNewBlock s op s')
      (created P C env) ops answers s)
    (hdevice : ∀ e ∈ s.world.trace, e.isFailure = false) :
    s.seq.thresholdCrossed =
        (C.hasThreshold && isAboveThreshold (s.seq.usedBytes C) threshold) ∧
      Latched C s.world.trace s.seq.thresholdCrossed := by
  have hcounted : Counted P C threshold s := by
    apply hrun.invariant (D := fun _ => True) (I := Counted P C threshold)
    · exact fun _ _ => trivial
    · exact ⟨created_kept P C env, (created_tally hP env).imp_right fun htally => ⟨0, htally⟩⟩
    · rintro s op answer s' - h ⟨hstep, hsealed⟩
      exact step_counted hP h hstep hsealed
  have hlive := not_frozen_of_working (hrun.mono fun hstep => hstep.1) hdevice
  rcases hcounted.tally with hfrozen | ⟨n, htally⟩
  · exact absurd (hfrozen.symm.trans hlive) (by decide)
  · exact ⟨htally.settled, htally.watched.latched⟩

/-- A device in memory with a threshold, whose policy seals no record of twenty bytes. -/
def pickyDevice (threshold : Nat) : Platform Media where
  answer
    | .getCapacityThreshold, m => (threshold, m)
    | .sealRecord content, m => (if content.length = 24 then none else some (content, []), m)
    | request, m => (ramDevice .oldest).answer request m

/-- Two blocks of 69 bytes, with a threshold. -/
def thresholdConfig : Config :=
  { Config.small with hasThreshold := true }

/-- A record of sixty bytes for the first block. -/
def sixtyBytes : Op thresholdConfig :=
  .write ⟨List.replicate 55 65, by decide⟩

/-- A record that finds no room in what is left of it and that the policy does not seal. -/
def unsealedBytes : Op thresholdConfig :=
  .write ⟨List.replicate 20 66, by decide⟩

/-- The store with sixty bytes in its first block. -/
def sixtyBytesIn (threshold : Nat) : BlockStore Media :=
  (perform (pickyDevice threshold) 1 sixtyBytes
    (created (pickyDevice threshold) thresholdConfig Media.empty)).2

theorem latch_follows_usage_above : (sixtyBytesIn 60).seq.thresholdCrossed = true ∧
    (sixtyBytesIn 60).seq.thresholdCrossed = (thresholdConfig.hasThreshold &&
      isAboveThreshold ((sixtyBytesIn 60).seq.usedBytes thresholdConfig) 60) := by
  have hsealed : ¬ FailsSealInNewBlock (created (pickyDevice 60) thresholdConfig Media.empty)
      sixtyBytes (sixtyBytesIn 60) := by
    rintro ⟨message, -, -, hless⟩
    have hnone : failedSeals (sixtyBytesIn 60).world.trace = 0 := by decide +kernel
    omega
  have hworks : ∀ e ∈ (sixtyBytesIn 60).world.trace, e.isFailure = false := by decide +kernel
  exact ⟨by decide +kernel, (latch_follows_usage (P := pickyDevice 60) (fun _ => rfl) Media.empty
    (.cons ⟨⟨1, rfl⟩, hsealed⟩ (.nil _)) hworks).1⟩

/-! ## A rise that is not announced

Sixty of the 69 bytes of the first block are used and the threshold is 65. A record of 25 bytes
starts a second block, so 69 bytes are used; its seal fails, and the latch stays down. -/

/-- The store after the write whose seal failed. -/
def sealFailedIn : BlockStore Media :=
  (perform (pickyDevice 65) 1 unsealedBytes (sixtyBytesIn 65)).2

theorem rise_not_announced :
    Run (Step (pickyDevice 65)) (created (pickyDevice 65) thresholdConfig Media.empty)
      [sixtyBytes, unsealedBytes] [.wrote .kept, .wrote .lost] sealFailedIn ∧
    (∀ e ∈ sealFailedIn.world.trace, e.isFailure = false) ∧
    sealFailedIn.seq.usedBytes thresholdConfig = 69 ∧
    sealFailedIn.seq.thresholdCrossed ≠ (thresholdConfig.hasThreshold &&
      isAboveThreshold (sealFailedIn.seq.usedBytes thresholdConfig) 65) := by
  refine ⟨.cons ⟨1, Prod.ext ?_ rfl⟩ (.cons ⟨1, Prod.ext ?_ rfl⟩ (.nil _)), ?_, ?_, ?_⟩
  all_goals decide +kernel

end SolidSyslog.Store.BlockStore
