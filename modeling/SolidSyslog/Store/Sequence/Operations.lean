import SolidSyslog.Store.Sequence.View

/-!
# The operations of the sequence, on views

What each operation of the block sequence does on a faithful device, exactly: its answer, the view
it leaves and with it what it adds to the main trace. A dispose that fails ends any of them with the
view as it was before that call (`Jammed`).
-/

namespace SolidSyslog.Store.BlockSequence

open Lib SequenceState

variable {σ : Type} {P : Platform σ} {C : Config} {media : σ → Media} {m₀ : Media}
  {v : View} {n : Sequence} {s : SequenceState σ}

/-- The sizes of the blocks, as the device would say. -/
theorem sees_size (h : s.Sees media m₀ v) : ∃ content, v.media v.oldest = some content :=
  Option.isSome_iff_exists.1 h.wellFormed.oldest_present

theorem notifyThresholdCrossed_sees (hP : Faithful P media) (h : s.Sees media m₀ v) :
    Ensures (notifyThresholdCrossed P C) (fun _ s' => s'.Sees media m₀ v) s := by
  apply notifyThresholdCrossed_keeps h
  · rintro t crossed ⟨hwf, ha, hw⟩
    exact ⟨hwf, ⟨ha.oldestSequence, ha.readSequence, ha.writeSequence, ha.readCursor,
      ha.writeBlockCorrupt, ha.atCapacity, ha.evictedUnsent, ha.deviceFailed, ha.writePosition,
      ha.blockPresent, ha.readBlockSize⟩, hw⟩
  · rintro t request hrequest ⟨hwf, ha, hw⟩
    have hquiet : request.isMain = false := by rcases hrequest with rfl | rfl | rfl <;> rfl
    have hcovers : v.media.Covers request := by
      rcases hrequest with rfl | rfl | rfl <;> exact trivial
    exact ⟨hwf, ha, hw.quiet hP request hquiet hcovers⟩

theorem readBlockSizeOf_sees (hP : Faithful P media) (h : s.Sees media m₀ v) :
    Ensures (readBlockSizeOf P) (fun size s' => size = (v.media v.oldest).map List.length ∧
      s'.Sees media m₀ v) s := by
  unfold readBlockSizeOf
  rw [ensures_bind, ensures_seq]
  apply Ensures.ite
  · intro hactive
    rw [ensures_pure]
    have heq : v.oldest = v.write := by
      simpa [isReadBlockActiveWrite, h.agrees.readSequence, h.agrees.writeSequence] using hactive
    exact ⟨by rw [heq, h.agrees.writePosition], h⟩
  · intro hbehind
    have hne : v.oldest ≠ v.write := by
      simpa [isReadBlockActiveWrite, h.agrees.readSequence, h.agrees.writeSequence] using hbehind
    apply Ensures.ite
    · intro hknown
      rw [ensures_pure]
      exact ⟨(h.agrees.readBlockSize hknown).2.symm, h⟩
    · intro _
      apply ensures_ask
      obtain ⟨content, hcontent⟩ := sees_size h
      have hanswer : (P.answer (.size s.seq.readSequence) s.world.env).1 = some content.length := by
        rw [h.agrees.readSequence]
        apply hP.size
        rw [h.world.media_eq, hcontent]
      rw [hanswer]
      have hcovers : v.media.Covers (.size s.seq.readSequence) := by
        rw [h.agrees.readSequence]
        exact h.wellFormed.oldest_present
      refine ⟨by rw [hcontent]; rfl, h.wellFormed, ?_, h.world.quiet hP _ rfl hcovers⟩
      exact ⟨h.agrees.oldestSequence, h.agrees.readSequence, h.agrees.writeSequence,
        h.agrees.readCursor, h.agrees.writeBlockCorrupt, h.agrees.atCapacity,
        h.agrees.evictedUnsent, h.agrees.deviceFailed, h.agrees.writePosition,
        h.agrees.blockPresent, fun _ => ⟨hne, by rw [hcontent]; rfl⟩⟩

/-! ## Leaving the oldest block -/

theorem nextPresent_sees {b : BlockSequence} (hwf : v.WellFormed) (ha : b.Agrees v)
    (hbehind : v.oldest ≠ v.write) :
    ∃ n, nextPresent (Function.update b.blockPresent v.oldest false) (nextSequence v.oldest)
      modulus = some n ∧ v.Next n := by
  have hpresent : ∀ x, InRun v.oldest v.write x → x ≠ v.oldest →
      Function.update b.blockPresent v.oldest false x = (v.media x).isSome := by
    intro x hin hne
    rw [Function.update_of_ne hne, ha.blockPresent x hin]
  have hwrite : Function.update b.blockPresent v.oldest false v.write = true := by
    rw [hpresent _ (le_refl _) hbehind.symm, hwf.write_present]
  obtain ⟨n, hnext, hn, hle, hfirst⟩ :=
    nextPresent_eq hwrite (ahead_lt (nextSequence v.oldest) v.write)
  have hne : n ≠ v.oldest := by
    rintro rfl
    rw [Function.update_self] at hn
    cases hn
  have hstep : ∀ x, x ≠ v.oldest → ahead (nextSequence v.oldest) x + 1 = ahead v.oldest x :=
    fun x hx => ahead_from_next hx
  have hin : InRun v.oldest v.write n := by
    have hn' := hstep n hne
    have hw' := hstep v.write hbehind.symm
    unfold InRun
    omega
  refine ⟨n, hnext, ?_, hne, hin, ?_⟩
  · rw [← hpresent n hin hne, hn]
  · intro x hx hlt
    have hx' := hstep x hx
    have hn' := hstep n hne
    have habsent := hfirst x (by omega)
    rw [hpresent x (le_trans hlt.le hin) hx] at habsent
    simpa using habsent

theorem Agrees.dropped {b : BlockSequence} (ha : b.Agrees v) (hn : v.Next n) :
    Agrees (v.dropped n)
      { b with
        oldestSequence := n
        readSequence := n
        readCursor := 0
        readBlockSizeKnown := false
        blockPresent := Function.update b.blockPresent v.oldest false } where
  oldestSequence := rfl
  readSequence := rfl
  writeSequence := ha.writeSequence
  readCursor := rfl
  writeBlockCorrupt := ha.writeBlockCorrupt
  atCapacity := ha.atCapacity
  evictedUnsent := ha.evictedUnsent
  deviceFailed := ha.deviceFailed
  writePosition := by
    have hne : v.write ≠ v.oldest := hn.write_ne
    change ((Function.update v.media v.oldest none) v.write).map List.length = _
    rw [Function.update_of_ne hne, ha.writePosition]
  blockPresent := by
    intro x hin
    change Function.update b.blockPresent v.oldest false x =
      (Function.update v.media v.oldest none x).isSome
    obtain ⟨hin', hle⟩ := InRun.of_later hin hn.le
    by_cases hold : x = v.oldest
    · rw [hold, Function.update_self, Function.update_self]
      rfl
    · rw [Function.update_of_ne hold, Function.update_of_ne hold, ha.blockPresent x hin']
  readBlockSize := fun h => absurd h Bool.false_ne_true

/-- The world once the oldest block is gone and the run noted. -/
theorem shows_dropped (hP : Faithful P media) (h : s.Sees media m₀ v)
    (hdisposed : (P.answer (.dispose v.oldest) s.world.env).1 = true) :
    ((s.world.asked P (.dispose v.oldest)).noted (.run n s.seq.writeSequence)).Shows media m₀
      (v.dropped n).media (v.dropped n).trace := by
  rw [h.agrees.writeSequence]
  have hcall := h.world.call hP (.dispose v.oldest) rfl h.wellFormed.oldest_present nofun
  rw [hdisposed] at hcall
  have hnoted := hcall.noted_run n v.write
  rw [List.append_assoc] at hnoted
  exact hnoted

/-- A dispose of the oldest block that failed. -/
theorem jammed_of_failed (hP : Faithful P media) (h : s.Sees media m₀ v) {b : BlockSequence}
    (hfailed : (P.answer (.dispose v.oldest) s.world.env).1 = false)
    (hb : b.deviceFailed = true) {J : View → Prop} (hJ : J v) :
    Jammed P media m₀ J ⟨b, s.world.asked P (.dispose v.oldest)⟩ := by
  have hcall := h.world.call hP (.dispose v.oldest) rfl h.wellFormed.oldest_present nofun
  rw [hfailed] at hcall
  refine ⟨?_, hb, v, hJ, h.wellFormed, hcall, by simp [settled]⟩
  intro halways
  have hdisposed := halways v.oldest s.world.env
    (by rw [h.world.media_eq]; exact h.wellFormed.oldest_present)
  rw [hfailed] at hdisposed
  cases hdisposed

theorem disposeReadBlock_sees (hP : Faithful P media) (h : s.Sees media m₀ v)
    (hbehind : v.oldest ≠ v.write) :
    Ensures (disposeReadBlock P C) (fun disposed s' =>
      (disposed = true ∧ ∃ n, v.Next n ∧ s'.Sees media m₀ (v.drained n)) ∨
      (disposed = false ∧ s'.Jammed P media m₀ (· = v))) s := by
  unfold disposeReadBlock
  rw [ensures_bind, ensures_seq, h.agrees.readSequence, ensures_bind]
  apply ensures_disposeBlock
  · intro hdisposed
    obtain ⟨n, hnext, hn⟩ := nextPresent_sees h.wellFormed h.agrees hbehind
    unfold advancePastDisposedReadBlock nextPresentSequence
    simp only [if_true, ensures_bind, ensures_seq, h.agrees.oldestSequence, hnext, ensures_pure,
      ensures_setSeq, ensures_noteRun]
    apply (notifyThresholdCrossed_sees hP (v := v.drained n) ?_).mono
    · intro _ s' hs'
      exact .inl ⟨trivial, n, hn, hs'⟩
    · exact ⟨(h.wellFormed.dropped hn).flags _ _, (h.agrees.dropped hn).setAtCapacity false,
        shows_dropped hP h hdisposed⟩
  · intro hfailed
    exact .inr ⟨rfl, jammed_of_failed hP h hfailed (noteDeviceFailure_deviceFailed ..) rfl⟩

theorem discardOldestBlock_sees (hP : Faithful P media) (h : s.Sees media m₀ v)
    (hbehind : v.oldest ≠ v.write) :
    Ensures (discardOldestBlock P) (fun disposed s' =>
      (disposed = true ∧ ∃ n, v.Next n ∧ s'.Sees media m₀ (v.discarded n)) ∨
      (disposed = false ∧ s'.Jammed P media m₀ (· = v))) s := by
  unfold discardOldestBlock
  rw [ensures_bind, ensures_seq, h.agrees.oldestSequence, ensures_bind]
  apply ensures_disposeBlock
  · intro hdisposed
    obtain ⟨n, hnext, hn⟩ := nextPresent_sees h.wellFormed h.agrees hbehind
    unfold nextPresentSequence
    simp only [if_true, ensures_bind, ensures_seq, h.agrees.oldestSequence, hnext, ensures_pure,
      ensures_setSeq, ensures_noteRun]
    exact .inl ⟨trivial, n, hn, (h.wellFormed.dropped hn).flags _ _,
      (h.agrees.dropped hn).setEvicted true, shows_dropped hP h hdisposed⟩
  · intro hfailed
    exact .inr ⟨rfl, jammed_of_failed hP h hfailed (noteDeviceFailure_deviceFailed ..) rfl⟩

theorem Agrees.isReadBlockActiveWrite {b : BlockSequence} (ha : b.Agrees v) :
    b.isReadBlockActiveWrite = true ↔ v.oldest = v.write := by
  simp [BlockSequence.isReadBlockActiveWrite, ha.readSequence, ha.writeSequence]

theorem Agrees.readIsBehindWrite {b : BlockSequence} (ha : b.Agrees v) :
    b.readIsBehindWrite = true ↔ v.oldest ≠ v.write := by
  simp [BlockSequence.readIsBehindWrite, ha.readSequence, ha.writeSequence]

theorem disposeReadBlockIfDrained_sees (hP : Faithful P media) (h : s.Sees media m₀ v) :
    Ensures (disposeReadBlockIfDrained P C) (fun changed s' =>
      (∃ v', v.Swept changed v' ∧ s'.Sees media m₀ v') ∨ s'.Jammed P media m₀ (· = v)) s := by
  unfold disposeReadBlockIfDrained
  rw [ensures_bind, ensures_seq]
  apply Ensures.ite
  · intro hactive
    rw [ensures_pure]
    exact .inl ⟨v, .stayed fun hdrained => hdrained.1 (h.agrees.isReadBlockActiveWrite.1 hactive),
      h⟩
  · intro hbehind
    rw [h.agrees.isReadBlockActiveWrite] at hbehind
    apply (readBlockSizeOf_sees hP h).bind
    rintro _ s₁ ⟨rfl, h₁⟩
    obtain ⟨content, hcontent⟩ := sees_size h
    have hsize : v.readSize = content.length := by rw [View.readSize, hcontent]; rfl
    rw [hcontent, Option.map_some]
    dsimp only
    rw [ensures_bind, ensures_seq]
    apply Ensures.ite
    · intro hread
      have hdrained : v.IsDrained := ⟨hbehind, by rwa [hsize, ← h₁.agrees.readCursor]⟩
      apply (disposeReadBlock_sees hP h₁ hbehind).mono
      rintro _ s' (⟨rfl, n, hn, hs'⟩ | ⟨rfl, hjammed⟩)
      · exact .inl ⟨_, .left hdrained hn, hs'⟩
      · exact .inr hjammed
    · intro hunread
      rw [ensures_pure]
      refine .inl ⟨v, .stayed fun hdrained => hunread ?_, h₁⟩
      rw [h₁.agrees.readCursor, ← hsize]
      exact hdrained.2

/-! ## A new block to write -/

theorem not_inRun_next (hroom : v.HasRoom) : ¬ InRun v.oldest v.write (nextSequence v.write) := by
  have hstep : ahead v.oldest (nextSequence v.write) = ahead v.oldest v.write + 1 :=
    ahead_next hroom
  unfold InRun
  omega

theorem acquireEmptyBlock_sees (hP : Faithful P media) (h : s.Sees media m₀ v)
    (hroom : v.HasRoom) :
    Ensures (acquireEmptyBlock P (nextSequence v.write)) (fun acquired s' => acquired = true ∧
      s'.seq = { s.seq with
        blockPresent := Function.update s.seq.blockPresent (nextSequence v.write) true } ∧
      s'.world.Kept media m₀ v.extended.media
        (v.trace ++ [.call (.acquire (nextSequence v.write)) true])) s := by
  unfold acquireEmptyBlock
  apply ensures_ask
  have houtside : v.media (nextSequence v.write) = none := by
    by_contra hpresent
    exact not_inRun_next hroom (h.wellFormed.inside _ (Option.isSome_iff_ne_none.2 hpresent))
  have habsent : (P.answer (.blockExists (nextSequence v.write)) s.world.env).1 = false := by
    rw [hP.blockExists, h.world.media_eq, houtside]
    rfl
  rw [habsent, if_neg Bool.false_ne_true, ensures_bind, ensures_pure, if_pos rfl]
  have hquiet := h.world.quiet hP (.blockExists (nextSequence v.write)) rfl trivial
  have hcall := hquiet.call hP (.acquire (nextSequence v.write)) rfl trivial (by
    rintro _ o o' ⟨rfl⟩ hrun hin
    rw [h.wellFormed.noted] at hrun
    cases hrun
    exact absurd hin (not_inRun_next hroom))
  rw [ensures_bind]
  apply ensures_acquireBlock
  · intro hacquired
    rw [hacquired] at hcall
    exact ⟨rfl, rfl, hcall⟩
  · intro hfailed
    rw [hP.acquire] at hfailed
    cases hfailed

theorem Agrees.extended {b : BlockSequence} (ha : b.Agrees v) (hroom : v.HasRoom) :
    Agrees v.extended { b with
      writeSequence := nextSequence v.write
      writePosition := 0
      writeBlockCorrupt := false
      evictedUnsent := false
      blockPresent := Function.update b.blockPresent (nextSequence v.write) true } where
  oldestSequence := ha.oldestSequence
  readSequence := ha.readSequence
  writeSequence := rfl
  readCursor := ha.readCursor
  writeBlockCorrupt := rfl
  atCapacity := ha.atCapacity
  evictedUnsent := rfl
  deviceFailed := ha.deviceFailed
  writePosition := by
    change ((Function.update v.media (nextSequence v.write) (some []))
      (nextSequence v.write)).map List.length = _
    rw [Function.update_self]
    rfl
  blockPresent := by
    intro x hin
    change Function.update b.blockPresent (nextSequence v.write) true x =
      (Function.update v.media (nextSequence v.write) (some []) x).isSome
    by_cases hnew : x = nextSequence v.write
    · rw [hnew, Function.update_self, Function.update_self]
      rfl
    · rw [Function.update_of_ne hnew, Function.update_of_ne hnew]
      apply ha.blockPresent
      have hne : ahead v.oldest x ≠ ahead v.oldest (nextSequence v.write) :=
        fun heq => hnew (ahead_inj.1 heq)
      have hstep : ahead v.oldest (nextSequence v.write) = ahead v.oldest v.write + 1 :=
        ahead_next hroom
      have hle : ahead v.oldest x ≤ ahead v.oldest (nextSequence v.write) := hin
      unfold InRun
      omega
  readBlockSize := by
    intro hknown
    refine ⟨hroom.symm, ?_⟩
    change ((Function.update v.media (nextSequence v.write) (some [])) v.oldest).map _ = _
    rw [Function.update_of_ne hroom.symm]
    exact (ha.readBlockSize hknown).2

/-- A view with more blocks than the ceiling has more than one. -/
theorem behind_of_exceeds (hexceeds : C.maxBlocks < v.count) : v.oldest ≠ v.write := by
  intro heq
  have htwo := C.two_le_maxBlocks
  rw [View.count, heq, ahead_self] at hexceeds
  omega

theorem rotateToNextBlock_sees (hP : Faithful P media) (h : s.Sees media m₀ v)
    (hroom : v.HasRoom) :
    Ensures (rotateToNextBlock P C) (fun outcome s' =>
      (∃ changed v', outcome = (true, changed) ∧ v.Rotated C changed v' ∧ s'.Sees media m₀ v') ∨
      s'.Jammed P media m₀ v.Rotating) s := by
  unfold rotateToNextBlock
  rw [ensures_bind, ensures_seq, h.agrees.writeSequence]
  apply (acquireEmptyBlock_sees hP h hroom).bind
  rintro _ ⟨seq₁, world₁⟩ ⟨rfl, rfl, hkept⟩
  rw [if_pos rfl]
  simp only [ensures_bind, ensures_setSeq, ensures_noteRun, ensures_seq]
  have hextended : Sees media m₀ v.extended
      ⟨{ s.seq with
          writeSequence := nextSequence v.write
          writePosition := 0
          writeBlockCorrupt := false
          evictedUnsent := false
          blockPresent := Function.update s.seq.blockPresent (nextSequence v.write) true },
        world₁.noted (.run s.seq.oldestSequence (nextSequence v.write))⟩ := by
    refine ⟨h.wellFormed.extended hroom, h.agrees.extended hroom, ?_⟩
    have hnoted := hkept.noted_run v.oldest (nextSequence v.write)
    rw [List.append_assoc] at hnoted
    rw [h.agrees.oldestSequence]
    exact hnoted
  apply (disposeReadBlockIfDrained_sees hP hextended).mono
  rintro swept s₁ (⟨v₁, hswept, h₁⟩ | ⟨halways, hfailed, v₁, rfl, hjammed⟩)
  · rw [h₁.agrees.deviceFailed]
    apply Ensures.ite
    · intro hexceeds
      have hcount : C.maxBlocks < v₁.count := by
        simpa [exceedsMaxBlocks, blockCount, View.count, h₁.agrees.oldestSequence,
          h₁.agrees.writeSequence] using hexceeds
      apply (discardOldestBlock_sees hP h₁ (behind_of_exceeds hcount)).bind
      rintro _ s' (⟨rfl, n, hn, hs'⟩ | ⟨-, halways, hfailed, v₂, rfl, hjammed⟩)
      · exact .inl ⟨true, _, rfl, .evicted hswept hcount hn, hs'⟩
      · exact .inr ⟨halways, hfailed, _, .evicting hswept, hjammed⟩
    · intro hwithin
      have hcount : v₁.count ≤ C.maxBlocks := by
        simpa [exceedsMaxBlocks, blockCount, View.count, h₁.agrees.oldestSequence,
          h₁.agrees.writeSequence] using hwithin
      exact .inl ⟨swept, v₁, rfl, .grown hswept hcount, h₁⟩
  · rw [hfailed]
    exact .inr ⟨halways, hfailed, _, .sweeping, hjammed⟩

/-! ## Room for a record -/

theorem Agrees.blockCount {b : BlockSequence} (ha : b.Agrees v) : b.blockCount = v.count := by
  rw [BlockSequence.blockCount, View.count, ha.oldestSequence, ha.writeSequence]

theorem Agrees.writePosition_eq {b : BlockSequence} (ha : b.Agrees v) :
    b.writePosition = v.writeSize := by
  have hposition := ha.writePosition
  rw [View.writeSize]
  cases hcontent : v.media v.write with
  | none =>
    rw [hcontent] at hposition
    cases hposition
  | some content =>
    rw [hcontent, Option.map_some, Option.some_inj] at hposition
    exact hposition.symm

theorem Agrees.blockIsFull {b : BlockSequence} (ha : b.Agrees v) (recordSize : Nat) :
    b.blockIsFull C recordSize = true ↔ v.IsFull C recordSize := by
  rw [BlockSequence.blockIsFull, ha.writeBlockCorrupt, ha.writePosition_eq, View.IsFull,
    Bool.or_eq_true, decide_eq_true_iff]

/-- The policy's answer goes into the main trace. -/
theorem sees_decided (hP : Faithful P media) (h : s.Sees media m₀ v) :
    Sees media m₀
      (v.traced (.call .getDiscardPolicy (P.answer .getDiscardPolicy s.world.env).1))
      { s with world := s.world.asked P .getDiscardPolicy } := by
  have hcall := h.world.call hP .getDiscardPolicy rfl trivial nofun
  refine ⟨h.wellFormed.traced_call, ?_, hcall, by simp [View.traced, settled]⟩
  exact h.agrees.traced

theorem hasRoom_of_count (hcount : v.count < C.maxBlocks) : v.HasRoom := by
  intro heq
  have hround : ahead (nextSequence v.write) v.write + 1 = modulus := ahead_next_start v.write
  have hle := C.maxBlocks_le
  rw [heq] at hround
  rw [View.count] at hcount
  omega

theorem prepareForWrite_sees (hP : Faithful P media) (h : s.Sees media m₀ v) {recordSize : Nat}
    (hroom : v.IsFull C recordSize → (P.answer .getDiscardPolicy s.world.env).1 = .oldest →
      v.HasRoom) :
    Ensures (prepareForWrite P C recordSize) (fun outcome s' =>
      (∃ v', v.Prepared C recordSize outcome v' ∧ s'.Sees media m₀ v') ∨
      s'.Jammed P media m₀ (v.Preparing C recordSize)) s := by
  unfold prepareForWrite
  rw [ensures_bind, ensures_seq]
  apply Ensures.ite
  · intro hfull
    rw [h.agrees.blockIsFull] at hfull
    unfold storeIsFull
    rw [ensures_bind, ensures_bind, ensures_seq, h.agrees.blockCount]
    apply Ensures.ite
    · intro hmost
      apply ensures_ask
      have hdecided := sees_decided hP h
      generalize hpolicy : (P.answer .getDiscardPolicy s.world.env).1 = policy at hdecided
      rw [ensures_pure]
      by_cases holdest : policy = .oldest
      · rw [holdest] at hdecided ⊢
        have hroom' := hroom hfull (hpolicy.trans holdest)
        apply (rotateToNextBlock_sees hP hdecided hroom').mono
        rintro _ s' (⟨changed, v', rfl, hrotated, hs'⟩ | ⟨halways, hfailed, v', hv', hjammed⟩)
        · exact .inl ⟨v', .replaced hfull hmost hroom' hrotated, hs'⟩
        · exact .inr ⟨halways, hfailed, v', .replacing hfull hmost hroom' hv', hjammed⟩
      · rw [if_pos (by simpa using holdest), ensures_bind, ensures_setSeq, ensures_bind]
        apply (notifyThresholdCrossed_sees hP ?_).mono
        · intro _ s' hs'
          exact .inl ⟨_, .refused hfull hmost holdest, hs'⟩
        · exact ⟨hdecided.wellFormed.flags _ _, hdecided.agrees.setAtCapacity true, hdecided.world⟩
    · intro hless
      rw [ensures_pure, if_neg Bool.false_ne_true]
      have hcount : v.count < C.maxBlocks := Nat.lt_of_not_le hless
      apply (rotateToNextBlock_sees hP h (hasRoom_of_count hcount)).mono
      rintro _ s' (⟨changed, v', rfl, hrotated, hs'⟩ | ⟨halways, hfailed, v', hv', hjammed⟩)
      · exact .inl ⟨v', .grown hfull hcount hrotated, hs'⟩
      · exact .inr ⟨halways, hfailed, v', .growing hfull hcount hv', hjammed⟩
  · intro hfits
    rw [ensures_pure]
    rw [h.agrees.blockIsFull] at hfits
    exact .inl ⟨v, .fits hfits, h⟩

/-- The record just appended is counted. -/
theorem noteRecordWritten_sees (hP : Faithful P media) (hwf : v.WellFormed) (ha : s.seq.Agrees v)
    {bytes : Bytes} (hw : s.world.Shows media m₀ (v.appended bytes).media
      (v.appended bytes).trace) :
    Ensures (noteRecordWritten P C bytes.length) (fun _ s' => s'.Sees media m₀ (v.appended bytes))
      s := by
  unfold noteRecordWritten
  simp only [ensures_bind, ensures_setSeq]
  apply notifyThresholdCrossed_sees hP
  exact ⟨hwf.appended, ha.appended, hw⟩

/-! ## Open -/

variable {m : Media} {t : List Event}

/-- The scan makes the presence map that of the media. -/
theorem scanForBlockPresence_sees (hP : Faithful P media) {lastPresent : Option Sequence}
    {numbers : List Sequence} (hw : s.world.Shows media m₀ m t)
    (hlast : ∀ x, lastPresent = some x → (m x).isSome = true) :
    Ensures (scanForBlockPresence P lastPresent numbers) (fun last s' =>
      (∃ present, s'.seq = { s.seq with blockPresent := present } ∧
        (∀ x ∈ numbers, present x = (m x).isSome) ∧
        ∀ x, s.seq.blockPresent x = (m x).isSome → present x = (m x).isSome) ∧
      (last = none → lastPresent = none ∧ ∀ x ∈ numbers, m x = none) ∧
      (∀ x, last = some x → (m x).isSome = true) ∧ last = m.lastPresent lastPresent numbers ∧
      s'.world.Shows media m₀ m t) s := by
  induction numbers generalizing lastPresent s with
  | nil =>
    refine ⟨⟨s.seq.blockPresent, rfl, nofun, fun _ h => h⟩, ?_, hlast, rfl, hw⟩
    intro h
    exact ⟨h, nofun⟩
  | cons block rest ih =>
    unfold scanForBlockPresence
    apply ensures_ask
    have hanswer : (P.answer (.blockExists block) s.world.env).1 = (m block).isSome := by
      rw [hP.blockExists, hw.media_eq]
    rw [hanswer, ensures_bind, ensures_setSeq]
    have hquiet := hw.quiet hP (.blockExists block) rfl trivial
    apply (ih hquiet ?_).mono
    · rintro last s' ⟨⟨present, hseq, hrest, hkeep⟩, hnone, hsome, hwhich, hw'⟩
      refine ⟨⟨present, hseq, ?_, ?_⟩, ?_, hsome, hwhich, hw'⟩
      · intro x hx
        rcases List.mem_cons.1 hx with rfl | hx
        · exact hkeep x (Function.update_self ..)
        · exact hrest x hx
      · intro x hx
        apply hkeep
        by_cases hblock : x = block
        · rw [hblock]
          exact Function.update_self ..
        · exact (Function.update_of_ne hblock ..).trans hx
      · intro hlast'
        obtain ⟨hblock, habsent⟩ := hnone hlast'
        cases hpresent : m block with
        | some content =>
          rw [hpresent] at hblock
          cases hblock
        | none =>
          rw [hpresent] at hblock
          refine ⟨hblock, ?_⟩
          intro x hx
          rcases List.mem_cons.1 hx with rfl | hx
          · exact hpresent
          · exact habsent x hx
    · intro x hx
      split at hx
      · next hblock =>
        cases hx
        exact hblock
      · exact hlast x hx

/-- The run the scan finds. -/
theorem located_locate {last : Sequence} (hlast : (m last).isSome = true) :
    m.Located (locateRunBoundaries (fun x => (m x).isSome) last).1
      (locateRunBoundaries (fun x => (m x).isSome) last).2 := by
  by_cases hfull : ∀ x, (m x).isSome = true
  · rw [locateRunBoundaries_of_full hfull]
    refine ⟨hfull 0, hfull 99, ?_, ?_, ?_⟩
    · intro x _
      have hlt : ahead 0 x < 100 := ahead_lt 0 x
      exact Nat.le_of_lt_succ hlt
    · rintro ⟨x, hx⟩
      have hx' := hfull x
      rw [hx] at hx'
      cases hx'
    · intro o' w' hrun hroom
      have hin : InRun o' w' (w' + 1) := (hrun _).1 (hfull _)
      rw [InRun, ahead_next hroom] at hin
      omega
  · obtain ⟨absent, habsent⟩ := not_forall.1 hfull
    have habsent' : (m absent).isSome = false := by simpa using habsent
    obtain ⟨holdest, hwrite, hroom, houtside⟩ :=
      @locateRunBoundaries_spec (fun x => (m x).isSome) last absent hlast habsent'
    refine ⟨holdest, hwrite, ?_, fun _ => hroom, ?_⟩
    · intro x hx
      by_contra hout
      rw [houtside x hout] at hx
      cases hx
    · intro o' w' hrun hroom'
      rw [locateRunBoundaries_of_run hlast hrun hroom']
      exact ⟨rfl, rfl⟩

theorem scanForExistingBlocks_sees (hP : Faithful P media) (hs : s.seq = initial)
    (hw : s.world.Shows media m₀ m t) :
    Ensures (scanForExistingBlocks P) (fun found s' => s'.world.Shows media m₀ m t ∧
      ((found = false ∧ (∀ x, m x = none) ∧ m.run = none ∧
          s'.seq = { initial with blockPresent := fun x => (m x).isSome }) ∨
        (found = true ∧ ∃ o w, m.Located o w ∧ m.run = some (o, w) ∧
          s'.seq = { initial with
            oldestSequence := o
            readSequence := o
            writeSequence := w
            blockPresent := fun x => (m x).isSome }))) s := by
  unfold scanForExistingBlocks
  apply (scanForBlockPresence_sees hP hw (fun x h => by cases h)).bind
  rintro last ⟨seq₁, world₁⟩ ⟨⟨present, rfl, hpresent, -⟩, hnone, hsome, hwhich, hw₁⟩
  have hpresent' : present = fun x => (m x).isSome :=
    funext fun x => hpresent x (List.mem_finRange x)
  subst hpresent'
  rw [hs]
  cases last with
  | none =>
    dsimp only
    rw [ensures_pure]
    have hrun : m.run = none := by rw [Media.run, ← hwhich, Option.map_none]
    exact ⟨hw₁, .inl ⟨rfl, fun x => (hnone rfl).2 x (List.mem_finRange x), hrun, rfl⟩⟩
  | some last =>
    have hrun : m.run = some (locateRunBoundaries (fun x => (m x).isSome) last) := by
      rw [Media.run, ← hwhich, Option.map_some]
    exact ⟨hw₁, .inr ⟨rfl, _, _, located_locate (hsome last rfl), hrun, rfl⟩⟩

/-- The first block of an empty device. -/
theorem sees_fresh (hempty : ∀ x, m x = none) {w : World σ}
    (hw : w.Kept media m₀ (m.after (.acquire 0)) (t ++ [.call (.acquire 0) true])) :
    ∃ v', View.Opened m t v' ∧ Sees media m₀ v'
      ⟨{ initial with blockPresent := Function.update (fun x => (m x).isSome) 0 true },
        w.noted (.run 0 0)⟩ := by
  refine ⟨_, .fresh hempty, ⟨rfl, rfl, ?_, ?_⟩, ?_, ?_⟩
  · intro x hx
    by_cases hzero : x = 0
    · rw [hzero]
      exact le_refl _
    · simp [Media.after, hzero, hempty] at hx
  · change lastRun (t ++ [_, _]) = _
    rw [List.append_cons, lastRun_concat_run]
  · refine ⟨rfl, rfl, rfl, rfl, rfl, rfl, rfl, rfl, rfl, ?_, (by rintro ⟨⟩)⟩
    intro x _
    by_cases hzero : x = 0
    · simp [Media.after, hzero]
    · simp [Media.after, hzero]
  · have hnoted := hw.noted_run 0 0
    rw [List.append_assoc] at hnoted
    exact hnoted

theorem openBlocks_sees (hP : Faithful P media) (hs : s.seq = initial)
    (hw : s.world.Shows media m₀ m t) (hrun : lastRun t = none) :
    Ensures (openBlocks P C) (fun opened s' => opened = true ∧
      ∃ v', View.Opened m t v' ∧ (∀ run ∈ m.run, (v'.oldest, v'.write) = run) ∧
        s'.Sees media m₀ v') s := by
  unfold openBlocks
  apply (scanForExistingBlocks_sees hP hs hw).bind
  rintro _ ⟨_, world₁⟩ ⟨hw₁, ⟨rfl, hempty, hnone, rfl⟩ | ⟨rfl, o, w, hlocated, hsome, rfl⟩⟩
  · rw [if_neg Bool.false_ne_true, ensures_bind]
    have hcall := hw₁.call hP (.acquire 0) rfl trivial (by
      intro block o o' _ hlast
      rw [hrun] at hlast
      cases hlast)
    rw [hP.acquire] at hcall
    apply ensures_acquireBlock
    · intro _
      obtain ⟨v', hopened, hsees⟩ := sees_fresh hempty hcall
      rw [if_pos rfl, ensures_bind, ensures_noteRun]
      apply (notifyThresholdCrossed_sees hP hsees).bind
      intro _ s' hs'
      exact ⟨rfl, v', hopened, by simp [hnone], hs'⟩
    · intro hfailed
      rw [hP.acquire] at hfailed
      cases hfailed
  · rw [if_pos rfl, ensures_bind, ensures_noteRun, ensures_bind, ensures_seq]
    apply ensures_ask
    obtain ⟨content, hcontent⟩ := Option.isSome_iff_exists.1 hlocated.write
    have hnoted := hw₁.toKept.noted_run o w
    have hsize : (P.answer (.size w) world₁.env).1 = some content.length := by
      apply hP.size
      rw [hw₁.media_eq, hcontent]
    have hquiet := hnoted.quiet hP (.size w) rfl hlocated.write
    dsimp only [World.noted_env]
    rw [hsize]
    dsimp only
    rw [ensures_bind, ensures_setSeq]
    apply Ensures.bind (notifyThresholdCrossed_sees hP ?_)
    · intro _ s' hs'
      exact ⟨rfl, _, .found hlocated, by simp [hsome], hs'⟩
    · refine ⟨⟨hlocated.oldest, hlocated.write, hlocated.inside, lastRun_concat_run ..⟩, ?_, hquiet⟩
      refine ⟨rfl, rfl, rfl, rfl, rfl, rfl, rfl, rfl, ?_, fun _ _ => rfl, nofun⟩
      change (m w).map List.length = _
      rw [hcontent]
      rfl

end SolidSyslog.Store.BlockSequence
