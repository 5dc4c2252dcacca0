import SolidSyslog.Store.Bounds.Parts
import SolidSyslog.Store.Records
import Mathlib.Data.ENat.Basic
import Mathlib.Data.Prod.Lex

/-!
# The read loop within bounds

One turn of the loop of `BlockStore_ReadNextUnsent` either stops, or leaves the read block for one
nearer the write block, or moves the cursor on within a block whose size does not change under it.
-/

namespace SolidSyslog.Store.BlockStore

open Lib

variable {σ : Type} {P : Platform σ} {C : Config} {G : Prop} {s s' : BlockStore σ}

/-! ## States -/

/-- The store's sequence is grounded, no call of the device has failed and the store is not
frozen. -/
structure Stands (P : Platform σ) (G : Prop) (C : Config) (s : BlockStore σ) : Prop where
  seq : BlockSequence.Grounded P G C ⟨s.seq, s.world⟩
  fine : s.seq.deviceFailed = false
  live : s.frozen = false

/-- Nothing was out of bounds, and the store stands or is frozen. -/
structure Kept (P : Platform σ) (G : Prop) (C : Config) (s : BlockStore σ) : Prop where
  calls : Always (WithinBounds P G C) s.world.trace
  stands : s.frozen = false → Stands P G C s

theorem Stands.kept (h : Stands P G C s) : Kept P G C s :=
  ⟨h.seq.calls, fun _ => h⟩

/-- Plain events leave a store standing that has its sequence as it was. -/
theorem Stands.plain (h : Stands P G C s) (hseq : s'.seq = s.seq) (hfrozen : s'.frozen = s.frozen)
    (htrace : Extends (Event.isPlain · = true) s.world.trace s'.world.trace) : Stands P G C s' := by
  refine ⟨h.seq.plain ?_ ?_ ?_ htrace, ?_, ?_⟩
  · dsimp only
    rw [hseq]
    exact .refl _
  · dsimp only
    rw [hseq]
  · dsimp only
    rw [hseq]
    exact fun hknown => ⟨hknown, rfl⟩
  · rw [hseq, h.fine]
  · rw [hfrozen, h.live]

theorem Stands.setReadCursor (h : Stands P G C s) (cursor : Nat) :
    Stands P G C { s with seq := s.seq.setReadCursor cursor } :=
  ⟨⟨h.seq.readsOldest, h.seq.present, h.seq.position, h.seq.size, h.seq.calls⟩, h.fine, h.live⟩

theorem Stands.markWriteBlockCorrupt (h : Stands P G C s) :
    Stands P G C { s with seq := s.seq.markWriteBlockCorrupt } :=
  ⟨⟨h.seq.readsOldest, h.seq.present, h.seq.position, h.seq.size, h.seq.calls⟩, h.fine, h.live⟩

/-- The store has its sequence as it was, after plain events only. -/
structure Plainly (s s' : BlockStore σ) : Prop where
  seq : s'.seq = s.seq
  records : s'.records = s.records
  frozen : s'.frozen = s.frozen
  trace : Extends (Event.isPlain · = true) s.world.trace s'.world.trace

theorem plainly_unreported (s : BlockStore σ) : Unreported P (Plainly s) where
  report _ _ _ _ _ _ h := ⟨h.seq, h.records, h.frozen, h.trace.concat rfl⟩
  latches _ _ _ _ _ h := ⟨h.seq, h.records, h.frozen, h.trace⟩

theorem Plainly.refl (s : BlockStore σ) : Plainly s s :=
  ⟨rfl, rfl, rfl, .refl _⟩

theorem Stands.plainly (h : Stands P G C s) (hplain : Plainly s s') : Stands P G C s' :=
  h.plain hplain.seq hplain.frozen hplain.trace

/-- A freeze keeps what there is to keep of a store. -/
theorem kept_freeze (h : Always (WithinBounds P G C) s.world.trace) (error : BlockStoreError) :
    Ensures (freeze P error) (fun _ s' => Kept P G C s' ∧ s'.frozen = true) s := by
  rw [ensures_freeze]
  exact ⟨⟨h.concat trivial, nofun⟩, rfl⟩

/-- A store whose sequence may have noted a failure. -/
theorem freezeIfDeviceFailed_kept (h : BlockSequence.Grounded P G C ⟨s.seq, s.world⟩)
    (hlive : s.frozen = false) :
    Ensures (freezeIfDeviceFailed P) (fun failed s' => Kept P G C s' ∧
      (failed = true → s'.frozen = true ∧ s'.seq.deviceFailed = true) ∧
      (failed = false → s' = s ∧ Stands P G C s')) s := by
  apply ensures_freezeIfDeviceFailed
  · intro hfailed
    rw [ensures_freeze]
    exact ⟨⟨h.calls.concat trivial, nofun⟩, fun _ => ⟨rfl, hfailed⟩, nofun⟩
  · intro hfine
    have hstands : Stands P G C s := ⟨h, hfine, hlive⟩
    exact ⟨hstands.kept, nofun, fun _ => ⟨rfl, hstands⟩⟩

/-! ## Leaving a block -/

/-- The read block was left for one nearer the write block. -/
def MovedOn (s s' : BlockStore σ) : Prop :=
  BlockSequence.Left ⟨s.seq, s.world⟩ ⟨s'.seq, s'.world⟩

theorem readNextBlockIfBehind_kept (h : Stands P G C s) :
    Ensures (readNextBlockIfBehind P C) (fun movedOn s' => Kept P G C s' ∧
      (movedOn = true → Stands P G C s' ∧ MovedOn s s') ∧
      (movedOn = false → (s'.frozen = true ∧ s'.seq.deviceFailed = true) ∨
        (s' = s ∧ s.seq.readSequence = s.seq.writeSequence))) s := by
  unfold readNextBlockIfBehind
  rw [ensures_bind, ensures_seqOf]
  apply Ensures.ite
  · intro hbehind
    have hne := BlockSequence.readIsBehindWrite_iff.1 hbehind
    rw [ensures_bind, ensures_onSeq]
    apply (BlockSequence.disposeReadBlock_grounded h.seq hne.symm).mono
    rintro disposed ⟨seq₁, world₁⟩ ⟨h₁, -, hleft, hrefused⟩
    rw [ensures_bind, ensures_forgetLastRead]
    refine Ensures.bind (freezeIfDeviceFailed_kept (G := G) (C := C) ?_ ?_) ?_
    · exact h₁
    · exact h.live
    rintro failed s' ⟨hkept, hfailed, hfine⟩
    cases failed with
    | true => exact ⟨hkept, nofun, fun _ => .inl (hfailed rfl)⟩
    | false =>
      obtain ⟨rfl, hstands⟩ := hfine rfl
      refine ⟨hkept, fun _ => ⟨hstands, hleft ?_⟩, nofun⟩
      by_contra hnot
      have hdevice := hrefused (by simpa using hnot)
      exact Bool.false_ne_true (hstands.fine.symm.trans hdevice)
  · intro hcaught
    have heq : s.seq.readSequence = s.seq.writeSequence := by
      rwa [BlockSequence.readIsBehindWrite_iff, not_not] at hcaught
    exact ⟨h.kept, nofun, fun _ => .inr ⟨rfl, heq⟩⟩

theorem hasUnsent_of_end {q : BlockSequence} (hread : q.readSequence = q.writeSequence)
    (hcursor : q.writePosition ≤ q.readCursor) : q.hasUnsent = false := by
  simp [BlockSequence.hasUnsent, BlockSequence.readIsBehindWrite, hread, hcursor]

theorem abandonRestOfReadBlock_kept (h : Stands P G C s) :
    Ensures (abandonRestOfReadBlock P C) (fun movedOn s' => Kept P G C s' ∧
      (movedOn = true → Stands P G C s' ∧ MovedOn s s') ∧
      (movedOn = false → (s'.frozen = true ∧ s'.seq.deviceFailed = true) ∨
        (Stands P G C s' ∧ s'.seq.hasUnsent = false))) s := by
  unfold abandonRestOfReadBlock
  apply (readNextBlockIfBehind_kept h).bind
  rintro movedOn s₁ ⟨hkept, hmoved, hstayed⟩
  rw [ensures_bind, ensures_seqOf]
  cases movedOn with
  | true =>
    obtain ⟨h₁, hleft⟩ := hmoved rfl
    rw [h₁.fine]
    apply Ensures.bind ((plainly_unreported s₁).reportLoss (.refl s₁) .recordCorrupt)
    intro _ s₂ hplain
    have h₂ := h₁.plainly hplain
    refine ⟨h₂.kept, fun _ => ⟨h₂, ?_, ?_, ?_, ?_, ?_⟩, nofun⟩
    · exact (congrArg BlockSequence.writeSequence hplain.seq).trans hleft.writeSequence
    · exact (congrArg BlockSequence.writePosition hplain.seq).trans hleft.writePosition
    · exact (congrArg BlockSequence.deviceFailed hplain.seq).trans hleft.deviceFailed
    · have hread : s₂.seq.readSequence = s₁.seq.readSequence := by rw [hplain.seq]
      change ahead s₂.seq.readSequence _ < _
      rw [hread]
      exact hleft.nearer
    · exact hleft.trace.trans (hplain.trace.mono fun _ => spares_of_plain)
  | false =>
    rcases hstayed rfl with ⟨hfrozen, hdevice⟩ | ⟨rfl, heq⟩
    · rw [hdevice]
      exact ⟨hkept, nofun, fun _ => .inl ⟨hfrozen, hdevice⟩⟩
    · rw [h.fine]
      apply Ensures.bind ((plainly_unreported s₁).reportLoss (.refl s₁) .recordCorrupt)
      intro _ s₂ hplain
      have h₂ := (((h.plainly hplain).setReadCursor s₂.seq.writePosition)).markWriteBlockCorrupt
      refine ⟨h₂.kept, nofun, fun _ => .inr ⟨h₂, hasUnsent_of_end ?_ (le_refl _)⟩⟩
      change s₂.seq.readSequence = s₂.seq.writeSequence
      rw [hplain.seq, heq]

/-! ## Looking at the record at the cursor -/

/-- What `BlockStore_ReadCurrent` found, where the device worked. -/
structure Sighted (P : Platform σ) (G : Prop) (C : Config) (maxSize : Nat) (s : BlockStore σ)
    (found : RecordStore.Found) (size : Nat) (s' : BlockStore σ) : Prop where
  stands : Stands P G C s'
  stays : BlockSequence.Stays s.seq s'.seq
  readable : s'.seq.readable = some size
  known : s.seq.readable ≠ none → s.seq.readable = some size
  trace : Extends (Event.Spares fun _ => True) s.world.trace s'.world.trace
  endOfData : found.result = .endOfData → size ≤ s.seq.readCursor
  extent : RecordStore.recordExtentIsKnown found.result = true →
    s.seq.readCursor + C.recordSize found.length ≤ size ∧
      s'.records = ⟨true, s.seq.readSequence, C.sentFlagOffset s.seq.readCursor found.length⟩
  undecided : found.result = .couldNotOpen → ∃ before middle,
    RecordStore.ReadsHeader C s.seq.readSequence s.seq.readCursor found.length before middle ∧
      RecordStore.Undecided C s.seq.readSequence s.seq.readCursor found.length middle
        s'.world.trace

/-- What is copied out of a record is within both bounds. -/
structure Copied (C : Config) (maxSize : Nat) (found : RecordStore.Found) : Prop where
  within : found.bytes.length ≤ min maxSize C.tunables.maxMessageSize
  nonempty : found.result = .succeeded → 0 < maxSize → 0 < found.bytes.length

theorem spares_of_looksAt {block : Sequence} {dataSize : Nat} {spared : Sequence → Prop}
    {event : Event} (h : event.LooksAt C block dataSize) : event.Spares spared := by
  rcases event with ⟨request, answer⟩ | _ | _ | _ | _
  · cases request <;> trivial
  all_goals trivial

theorem copied_of_looked {block : Sequence} {offset dataSize maxSize : Nat}
    {r r' : RecordState σ} {found : RecordStore.Found}
    (h : RecordStore.Looked C block offset dataSize maxSize r found r') :
    Copied C maxSize found := by
  by_cases hresult : found.result = .succeeded
  · have hlength := h.length (by rw [hresult]; rfl)
    have hcopied := h.copied
    rw [if_pos hresult] at hcopied
    constructor
    · omega
    · intro _ hmax
      omega
  · have hcopied := h.copied
    rw [if_neg hresult] at hcopied
    exact ⟨by omega, fun hsome => absurd hsome hresult⟩

theorem readCurrent_sighted (h : Stands P G C s) (maxSize : Nat) :
    Ensures (readCurrent P C maxSize) (fun found s' => Copied C maxSize found ∧
      Always (WithinBounds P G C) s'.world.trace ∧ s'.frozen = false ∧
      (found.result ≠ .deviceFailed → ∃ size, Sighted P G C maxSize s found size s')) s := by
  unfold readCurrent
  rw [ensures_bind, ensures_onSeq]
  apply (BlockSequence.readBlockSizeOf_grounded h.seq).mono
  rintro size ⟨seq₁, world₁⟩ ⟨h₁, hasked⟩
  cases size with
  | none => exact ⟨⟨Nat.zero_le _, nofun⟩, h₁.calls, h.live, fun hfine => absurd rfl hfine⟩
  | some size =>
    have hstays := hasked.stays nofun
    have hreadable : seq₁.readable = some size := hasked.readable nofun
    dsimp only
    rw [ensures_bind, ensures_seqOf, ensures_onRecords]
    apply RecordStore.read_looked.mono
    rintro found ⟨records', world'⟩ hlooked
    have hlooks : Extends (Event.LooksAt C seq₁.readSequence size) world₁.trace world'.trace :=
      hlooked.looks
    have hcalls : Always (WithinBounds P G C) world'.trace :=
      always_of_looks hlooks h₁.calls fun hG => h₁.readable_known hreadable hG
    have hread : seq₁.readSequence = s.seq.readSequence := hstays.readSequence
    have hcursor : seq₁.readCursor = s.seq.readCursor := hstays.readCursor
    refine ⟨copied_of_looked hlooked, hcalls, h.live, fun hfine => ⟨size, ?_⟩⟩
    have hgrounded : BlockSequence.Grounded P G C ⟨seq₁, world'⟩ := by
      have hsizes := sizesKnown_of_looks hlooks
      refine ⟨h₁.readsOldest, h₁.present, ?_, ?_, hcalls⟩
      · dsimp only
        rw [hsizes]
        exact h₁.position
      · dsimp only
        rw [hsizes]
        exact h₁.size
    refine ⟨⟨hgrounded, hstays.deviceFailed.trans h.fine, h.live⟩, hstays, hreadable, ?_, ?_, ?_,
      ?_, ?_⟩
    · intro hsome
      rw [← hasked.known hsome]
      exact hreadable
    · exact hasked.trace.trans (hlooks.mono fun _ => spares_of_looksAt)
    · rw [← hcursor]
      exact hlooked.endOfData
    · rw [← hcursor, ← hread]
      exact hlooked.extent
    · rw [← hcursor, ← hread]
      exact fun hcould => ⟨_, hlooked.undecided hcould⟩

/-! ## A turn -/

/-- The bytes of the read block past the cursor, where its size is known. -/
def remaining (q : BlockSequence) : ℕ∞ :=
  match q.readable with
  | some size => ((size - q.readCursor : Nat) : ℕ∞)
  | none => ⊤

/-- The blocks no further from the write block than the one read. -/
def Ahead (q : BlockSequence) (block : Sequence) : Prop :=
  ahead block q.writeSequence ≤ ahead q.readSequence q.writeSequence

/-- The read goes on: nearer the write block, or further in the same block. Nothing is marked or
added, and no block disposed of that is still ahead. -/
structure Onward (s s' : BlockStore σ) : Prop where
  writeSequence : s'.seq.writeSequence = s.seq.writeSequence
  progress : ahead s'.seq.readSequence s.seq.writeSequence <
      ahead s.seq.readSequence s.seq.writeSequence ∨
    (s'.seq.readSequence = s.seq.readSequence ∧ remaining s'.seq < remaining s.seq)
  trace : Extends (Event.Spares (Ahead s'.seq)) s.world.trace s'.world.trace

theorem Spares.mono {spared spared' : Sequence → Prop} (h : ∀ x, spared' x → spared x) {e : Event}
    (he : e.Spares spared) : e.Spares spared' := by
  rcases e with ⟨request, answer⟩ | _ | _ | _ | _
  · cases request <;> first | exact he | exact fun hx => he (h _ hx)
  all_goals trivial

theorem MovedOn.onward (h : MovedOn s s') : Onward s s' := by
  have hwrite : s'.seq.writeSequence = s.seq.writeSequence := h.writeSequence
  have hnearer : ahead s'.seq.readSequence s.seq.writeSequence <
      ahead s.seq.readSequence s.seq.writeSequence := h.nearer
  refine ⟨hwrite, .inl hnearer, h.trace.mono fun _ => Spares.mono fun x hx heq => ?_⟩
  unfold Ahead at hx
  change x = s.seq.readSequence at heq
  rw [hwrite, heq] at hx
  omega

/-- Where a turn starts from a look that changed nothing else. -/
theorem Onward.of_sighted {maxSize size : Nat} {found : RecordStore.Found} {s₁ : BlockStore σ}
    (hsight : Sighted P G C maxSize s found size s₁) (h : Onward s₁ s') : Onward s s' := by
  have hread := hsight.stays.readSequence
  have hwrite := hsight.stays.writeSequence
  refine ⟨h.writeSequence.trans hwrite, ?_, ?_⟩
  · have hprogress := h.progress
    rw [hread, hwrite] at hprogress
    refine hprogress.imp_right fun hsame => ⟨hsame.1, hsame.2.trans_le ?_⟩
    unfold remaining
    rw [hsight.readable, hsight.stays.readCursor]
    by_cases hknown : s.seq.readable = none
    · rw [hknown]
      exact le_top
    · rw [hsight.known hknown]
  · exact (hsight.trace.mono fun _ => Spares.mono fun _ _ => trivial).trans h.trace

theorem onward_cursor {size : Nat} (cursor : Nat) {s₁ : BlockStore σ}
    (hreadable : s.seq.readable = some size)
    (hseq : s₁.seq = s.seq.setReadCursor cursor) (hmoves : s.seq.readCursor < cursor)
    (hwithin : cursor ≤ size)
    (htrace : Extends (Event.isPlain · = true) s.world.trace s₁.world.trace) : Onward s s₁ := by
  refine ⟨by rw [hseq]; rfl, .inr ⟨by rw [hseq]; rfl, ?_⟩, htrace.mono fun _ => spares_of_plain⟩
  have hreadable₁ : s₁.seq.readable = some size := by rw [hseq, ← hreadable]; rfl
  have hcursor : s₁.seq.readCursor = cursor := by rw [hseq]; rfl
  unfold remaining
  rw [hreadable, hreadable₁, hcursor]
  exact Nat.cast_lt.2 (by omega)

/-- A record the cursor can be moved past. -/
theorem stepPastCurrent_onward {maxSize size : Nat} {found : RecordStore.Found} {s₁ : BlockStore σ}
    (hsight : Sighted P G C maxSize s found size s₁)
    (hknown : RecordStore.recordExtentIsKnown found.result = true) {s₂ : BlockStore σ}
    (hplain : Plainly s₁ s₂) :
    Ensures stepPastCurrent (fun goesOn s' => goesOn = true ∧ Stands P G C s' ∧
      Onward s s') s₂ := by
  obtain ⟨hfits, hrecords⟩ := hsight.extent hknown
  have hlast : s₂.records.lastSentFlagOffset + 1 =
      s.seq.readCursor + C.recordSize found.length := by
    rw [hplain.records, hrecords]
    exact C.sentFlagOffset_succ ..
  have h₂ := hsight.stands.plainly hplain
  unfold stepPastCurrent
  refine ⟨rfl, ?_, Onward.of_sighted hsight (onward_cursor (s₂.records.lastSentFlagOffset + 1)
    hsight.readable ?_ ?_ ?_ hplain.trace)⟩
  · have hmoved := h₂.setReadCursor (s₂.records.lastSentFlagOffset + 1)
    exact ⟨hmoved.seq, hmoved.fine, hmoved.live⟩
  · rw [← hplain.seq]
    rfl
  · rw [hlast, hsight.stays.readCursor]
    exact Nat.lt_add_of_pos_right (C.recordSize_pos _)
  · rw [hlast]
    exact hfits

/-- The policy gave no verdict on the record at the cursor: the store stands on that record, and
nothing was marked, added or disposed of but blocks left behind. -/
structure Unsettled (C : Config) (s s' : BlockStore σ) : Prop where
  asked : ∃ length before middle,
    RecordStore.ReadsHeader C s'.seq.readSequence s'.seq.readCursor length before middle ∧
      RecordStore.Undecided C s'.seq.readSequence s'.seq.readCursor length middle s'.world.trace
  writeSequence : s'.seq.writeSequence = s.seq.writeSequence
  nearer : Ahead s.seq s'.seq.readSequence
  untouched : Extends (Event.Spares (Ahead s'.seq)) s.world.trace s'.world.trace

/-- How the loop stops: with a record, with the device failed, or with none. -/
structure Stopped (P : Platform σ) (G : Prop) (C : Config) (maxSize : Nat) (s : BlockStore σ)
    (found : RecordStore.Found) (s' : BlockStore σ) : Prop where
  copied : Copied C maxSize found
  calls : Always (WithinBounds P G C) s'.world.trace
  stands : found.result ≠ .deviceFailed → s'.frozen = false → Stands P G C s'
  live : found.result = .deviceFailed → s'.frozen = false
  empty : found.result ≠ .deviceFailed → found.result ≠ .succeeded →
    s'.hasUnsent = false ∨ Unsettled C s s'

theorem hasUnsent_of_frozen (h : s.frozen = true) : s.hasUnsent = false := by
  simp [hasUnsent, h]

theorem hasUnsent_of_seq (h : s.seq.hasUnsent = false) : s.hasUnsent = false := by
  simp [hasUnsent, h]

theorem stepPast_turn {maxSize size : Nat} {found : RecordStore.Found} {s₁ : BlockStore σ}
    (hcopied : Copied C maxSize found) (hsight : Sighted P G C maxSize s found size s₁)
    (hfine : found.result ≠ .deviceFailed) :
    Ensures (stepPast P C found) (fun goesOn s' =>
      (goesOn = true → Stands P G C s' ∧ Onward s s') ∧
      (goesOn = false → Stopped P G C maxSize s found s')) s₁ := by
  have h₁ := hsight.stands
  have hstopped : ∀ s' : BlockStore σ, Kept P G C s' → s'.hasUnsent = false →
      Stopped P G C maxSize s found s' := fun s' hkept hnone =>
    ⟨hcopied, hkept.calls, fun _ => hkept.stands, fun hfailed => absurd hfailed hfine,
      fun _ _ => .inl hnone⟩
  unfold stepPast
  cases hresult : found.result with
  | rejected =>
    dsimp only
    rw [ensures_bind, ensures_seqOf, ensures_bind, ensures_seqOf, ensures_bind, ensures_note]
    unfold stepPastRejected
    have hnoted : Plainly s₁ { s₁ with
        world := s₁.world.noted (.steppedPast s₁.seq.readSequence s₁.seq.readCursor
          found.length) } :=
      ⟨rfl, rfl, rfl, (Extends.refl _).concat rfl⟩
    apply Ensures.bind ((plainly_unreported s₁).reportLoss hnoted .recordRejected)
    intro _ s₂ hplain
    apply (stepPastCurrent_onward hsight (by rw [hresult]; rfl) hplain).mono
    rintro _ s' ⟨rfl, hstands, honward⟩
    exact ⟨fun _ => ⟨hstands, honward⟩, nofun⟩
  | finishedWith =>
    apply (stepPastCurrent_onward hsight (by rw [hresult]; rfl) (.refl s₁)).mono
    rintro _ s' ⟨rfl, hstands, honward⟩
    exact ⟨fun _ => ⟨hstands, honward⟩, nofun⟩
  | endOfData =>
    apply (readNextBlockIfBehind_kept h₁).mono
    rintro movedOn s' ⟨hkept, hmoved, hstayed⟩
    refine ⟨fun hon => ⟨(hmoved hon).1, Onward.of_sighted hsight (hmoved hon).2.onward⟩,
      fun hoff => hstopped s' hkept ?_⟩
    rcases hstayed hoff with ⟨hfrozen, -⟩ | ⟨rfl, heq⟩
    · exact hasUnsent_of_frozen hfrozen
    · apply hasUnsent_of_seq
      apply hasUnsent_of_end heq
      have hactive : s'.seq.readable = some s'.seq.writePosition :=
        if_pos (BlockSequence.isReadBlockActiveWrite_iff.2 heq)
      have hsize := hsight.readable
      rw [hactive, Option.some.injEq] at hsize
      rw [hsize, hsight.stays.readCursor]
      exact hsight.endOfData hresult
  | corrupt =>
    apply (abandonRestOfReadBlock_kept h₁).mono
    rintro movedOn s' ⟨hkept, hmoved, hstayed⟩
    refine ⟨fun hon => ⟨(hmoved hon).1, Onward.of_sighted hsight (hmoved hon).2.onward⟩,
      fun hoff => hstopped s' hkept ?_⟩
    rcases hstayed hoff with ⟨hfrozen, -⟩ | ⟨-, hnone⟩
    · exact hasUnsent_of_frozen hfrozen
    · exact hasUnsent_of_seq hnone
  | succeeded =>
    exact ⟨nofun, fun _ => ⟨hcopied, h₁.seq.calls, fun _ _ => h₁,
      fun hfailed => absurd hfailed hfine, fun _ hne => absurd hresult hne⟩⟩
  | couldNotOpen =>
    refine ⟨nofun, fun _ => ⟨hcopied, h₁.seq.calls, fun _ _ => h₁,
      fun hfailed => absurd hfailed hfine, fun _ _ => .inr ⟨?_, ?_, ?_, ?_⟩⟩⟩
    · obtain ⟨before, middle, hheader, hundecided⟩ := hsight.undecided hresult
      refine ⟨found.length, before, middle, ?_, ?_⟩
      · change RecordStore.ReadsHeader C s₁.seq.readSequence s₁.seq.readCursor _ _ _
        rw [hsight.stays.readSequence, hsight.stays.readCursor]
        exact hheader
      · change RecordStore.Undecided C s₁.seq.readSequence s₁.seq.readCursor _ _ _
        rw [hsight.stays.readSequence, hsight.stays.readCursor]
        exact hundecided
    · exact hsight.stays.writeSequence
    · unfold Ahead
      change ahead s₁.seq.readSequence _ ≤ _
      rw [hsight.stays.readSequence]
    · exact hsight.trace.mono fun _ => Spares.mono fun _ _ => trivial
  | deviceFailed => exact absurd hresult hfine

/-! ## The loop -/

/-- One turn of the loop, whatever fuel is left for the others. -/
theorem readLoop_turn (h : Stands P G C s) (maxSize : Nat) : ∃ found goesOn s₁,
    (∀ fuel, readLoop P C maxSize (fuel + 1) s =
      if goesOn = true then readLoop P C maxSize fuel s₁ else (some found, s₁)) ∧
    (goesOn = true → Stands P G C s₁ ∧ Onward s s₁) ∧
    (goesOn = false → Stopped P G C maxSize s found s₁) := by
  have hcurrent := readCurrent_sighted (P := P) h maxSize
  unfold Ensures at hcurrent
  generalize hread : readCurrent P C maxSize s = outcome at hcurrent
  obtain ⟨found, s₁⟩ := outcome
  obtain ⟨hcopied, hcalls, hlive, hsight⟩ := hcurrent
  dsimp only at hcopied hcalls hlive hsight
  have hloop : ∀ fuel, readLoop P C maxSize (fuel + 1) s =
      if (stepPast P C found s₁).1 = true then readLoop P C maxSize fuel (stepPast P C found s₁).2
      else (some found, (stepPast P C found s₁).2) := by
    intro fuel
    change ((readCurrent P C maxSize >>= fun found => stepPast P C found >>= fun goesOn =>
      if goesOn = true then readLoop P C maxSize fuel else pure (some found)) s) = _
    change ((stepPast P C (readCurrent P C maxSize s).1 >>= fun goesOn =>
      if goesOn = true then readLoop P C maxSize fuel else
        pure (some (readCurrent P C maxSize s).1)) (readCurrent P C maxSize s).2) = _
    rw [hread]
    change (if (stepPast P C found s₁).1 = true then readLoop P C maxSize fuel
      else pure (some found)) (stepPast P C found s₁).2 = _
    split <;> rfl
  refine ⟨found, (stepPast P C found s₁).1, (stepPast P C found s₁).2, hloop, ?_⟩
  by_cases hfailed : found.result = .deviceFailed
  · have hstop : stepPast P C found s₁ = (false, s₁) := by
      unfold stepPast
      rw [hfailed]
      rfl
    rw [hstop]
    exact ⟨nofun, fun _ => ⟨hcopied, hcalls, fun hfine => absurd hfailed hfine, fun _ => hlive,
      fun hfine => absurd hfailed hfine⟩⟩
  · obtain ⟨size, hsighted⟩ := hsight hfailed
    exact stepPast_turn hcopied hsighted hfailed

theorem Onward.nearer (h : Onward s s') : Ahead s.seq s'.seq.readSequence := by
  unfold Ahead
  rcases h.progress with hless | ⟨hsame, -⟩
  · exact hless.le
  · rw [hsame]

/-- What stopped the loop some turns on stopped it from here. -/
theorem Stopped.of_onward {maxSize : Nat} {found : RecordStore.Found} {s₁ : BlockStore σ}
    (honward : Onward s s₁) (h : Stopped P G C maxSize s₁ found s') :
    Stopped P G C maxSize s found s' := by
  refine ⟨h.copied, h.calls, h.stands, h.live, fun hfine hnone => ?_⟩
  refine (h.empty hfine hnone).imp_right fun hunsettled => ⟨hunsettled.asked, ?_, ?_, ?_⟩
  · exact hunsettled.writeSequence.trans honward.writeSequence
  · have hfirst := honward.nearer
    have hthen := hunsettled.nearer
    unfold Ahead at *
    rw [honward.writeSequence] at hthen
    exact hthen.trans hfirst
  · refine (honward.trace.mono fun _ => Spares.mono fun x hx => ?_).trans hunsettled.untouched
    have hthen := hunsettled.nearer
    unfold Ahead at *
    rw [hunsettled.writeSequence] at hx
    exact hx.trans hthen

theorem readLoop_stopped (h : Stands P G C s) (maxSize fuel : Nat) :
    Ensures (readLoop P C maxSize fuel) (fun outcome s' =>
      (outcome = none → Stands P G C s') ∧
      ∀ found, outcome = some found → Stopped P G C maxSize s found s') s := by
  induction fuel generalizing s with
  | zero => exact ⟨fun _ => h, nofun⟩
  | succ fuel ih =>
    obtain ⟨found, goesOn, s₁, hloop, hon, hoff⟩ := readLoop_turn (P := P) h maxSize
    unfold Ensures
    rw [hloop]
    cases goesOn with
    | true =>
      obtain ⟨h₁, honward⟩ := hon rfl
      rw [if_pos rfl]
      obtain ⟨hnone, hsome⟩ := ih h₁
      exact ⟨hnone, fun found' hfound => (hsome found' hfound).of_onward honward⟩
    | false =>
      refine ⟨nofun, fun found' hfound => ?_⟩
      cases hfound
      exact hoff rfl

/-- With enough fuel the loop ends, and more changes nothing. The measure is the blocks left, and
then the bytes left in the block. -/
theorem readLoop_ends (h : Stands P G C s) (maxSize : Nat) :
    ∃ turns found s', ∀ fuel, turns ≤ fuel → readLoop P C maxSize fuel s = (some found, s') := by
  generalize hmeasure : toLex (ahead s.seq.readSequence s.seq.writeSequence, remaining s.seq) = m
  induction m using WellFoundedLT.induction generalizing s with
  | ind m ih =>
    obtain ⟨found, goesOn, s₁, hloop, hon, hoff⟩ := readLoop_turn (P := P) h maxSize
    cases goesOn with
    | true =>
      obtain ⟨h₁, honward⟩ := hon rfl
      have hless :
          toLex (ahead s₁.seq.readSequence s₁.seq.writeSequence, remaining s₁.seq) < m := by
        rw [← hmeasure, Prod.Lex.toLex_lt_toLex, honward.writeSequence]
        exact honward.progress.imp_right fun hsame => ⟨by rw [hsame.1], hsame.2⟩
      obtain ⟨turns, found', s', hends⟩ := ih _ hless h₁ rfl
      refine ⟨turns + 1, found', s', fun fuel hfuel => ?_⟩
      obtain ⟨rest, rfl⟩ := Nat.exists_eq_add_of_le' hfuel
      rw [← Nat.add_assoc, hloop, if_pos rfl]
      exact hends _ (Nat.le_add_left _ _)
    | false =>
      refine ⟨1, found, s₁, fun fuel hfuel => ?_⟩
      obtain ⟨rest, rfl⟩ := Nat.exists_eq_add_of_le' hfuel
      rw [hloop, if_neg Bool.false_ne_true]

end SolidSyslog.Store.BlockStore
