import SolidSyslog.Store.Performed

/-!
# What the store keeps over a run

The cursor and the record remembered stay within the read block, there stays room after the write
block, and from an empty device the run of blocks stays within its ceiling and its blocks within
their size.
-/

namespace SolidSyslog.Store

open Lib

variable {σ : Type} {P : Platform σ} {C : Config}

namespace View

variable {v v' : View} {n : Sequence} {recordSize : Nat}

/-! ## Counts and sizes -/

theorem hasRoom_iff : v.HasRoom ↔ v.count < modulus := by
  constructor
  · intro hroom
    have hlt : ahead v.oldest (v.write + 1) < modulus := ahead_lt v.oldest (v.write + 1)
    rw [ahead_next hroom] at hlt
    exact hlt
  · intro hcount heq
    have hround : ahead (nextSequence v.write) v.write + 1 = modulus := ahead_next_start v.write
    rw [heq] at hround
    rw [count] at hcount
    omega

theorem Next.count_lt (hn : v.Next n) : (v.dropped n).count < v.count :=
  Nat.succ_lt_succ (BlockStore.ahead_next_lt hn)

theorem Next.writeSize (hn : v.Next n) : (v.dropped n).writeSize = v.writeSize := by
  change ((Function.update v.media v.oldest none v.write).getD []).length = _
  rw [Function.update_of_ne hn.write_ne]
  rfl

/-- Anything dropped leaves room. -/
theorem Next.hasRoom (hn : v.Next n) : (v.dropped n).HasRoom := by
  have hlt := hn.count_lt
  have hmost : ahead v.oldest v.write < modulus := ahead_lt v.oldest v.write
  rw [hasRoom_iff]
  unfold count at *
  omega

theorem count_extended (hroom : v.HasRoom) : v.extended.count = v.count + 1 :=
  congrArg (· + 1) (ahead_next hroom)

theorem readSize_extended (hroom : v.HasRoom) : v.extended.readSize = v.readSize := by
  change ((Function.update v.media (nextSequence v.write) (some []) v.oldest).getD []).length = _
  rw [Function.update_of_ne hroom.symm]
  rfl

@[simp] theorem writeSize_extended : v.extended.writeSize = 0 := by
  change ((Function.update v.media (nextSequence v.write) (some [])
    (nextSequence v.write)).getD []).length = 0
  rw [Function.update_self]
  rfl

/-- An append makes no block shorter. -/
theorem readSize_appended (v : View) (bytes : Bytes) :
    v.readSize ≤ (v.appended bytes).readSize := by
  change _ ≤ ((v.media.after (.append v.write bytes) v.oldest).getD []).length
  unfold readSize
  by_cases hactive : v.oldest = v.write
  · rw [hactive]
    cases hcontent : v.media v.write <;> simp [Media.after, hcontent]
  · simp [Media.after, hactive]

theorem Swept.count_le {changed : Bool} (h : v.Swept changed v') : v'.count ≤ v.count := by
  cases h with
  | left drained next => exact next.count_lt.le
  | stayed undrained => exact le_refl _

theorem Swept.writeSize {changed : Bool} (h : v.Swept changed v') : v'.writeSize = v.writeSize := by
  cases h with
  | left drained next => exact next.writeSize
  | stayed undrained => rfl

theorem Rotated.writeSize {changed : Bool} (h : v.Rotated C changed v') : v'.writeSize = 0 := by
  cases h with
  | evicted sweep exceeds next =>
      exact next.writeSize.trans (sweep.writeSize.trans writeSize_extended)
  | grown sweep within => exact sweep.writeSize.trans writeSize_extended

theorem Rotated.hasRoom {changed : Bool} (h : v.Rotated C changed v') : v'.HasRoom := by
  cases h with
  | evicted sweep exceeds next => exact next.hasRoom
  | grown sweep within =>
    have hmost : C.maxBlocks ≤ 98 := C.maxBlocks_le
    rw [hasRoom_iff]
    exact Nat.lt_of_le_of_lt (within.trans hmost) (by decide)

/-- A rotation leaves at most the ceiling where it found at most the ceiling. -/
theorem Rotated.count_le {changed : Bool} (h : v.Rotated C changed v') (hroom : v.HasRoom)
    (hcount : v.count ≤ C.maxBlocks) : v'.count ≤ C.maxBlocks := by
  cases h with
  | evicted sweep exceeds next =>
    have hlt := next.count_lt
    have hsweep := sweep.count_le
    rw [count_extended hroom] at hsweep
    exact Nat.le_of_lt_succ (lt_of_lt_of_le hlt (hsweep.trans (Nat.succ_le_succ hcount)))
  | grown sweep within => exact within

theorem Prepared.hasRoom {outcome : Bool × Bool} (h : v.Prepared C recordSize outcome v')
    (hroom : v.HasRoom) : v'.HasRoom := by
  cases h with
  | fits room => exact hroom
  | refused full most newest => exact hroom
  | grown full fewer rotated => exact rotated.hasRoom
  | replaced full most room rotated => exact rotated.hasRoom

theorem Prepared.count_le {outcome : Bool × Bool} (h : v.Prepared C recordSize outcome v')
    (hcount : v.count ≤ C.maxBlocks) : v'.count ≤ C.maxBlocks := by
  cases h with
  | fits room => exact hcount
  | refused full most newest => exact hcount
  | grown full fewer rotated =>
    exact rotated.count_le (BlockSequence.hasRoom_of_count fewer) hcount
  | replaced full most room rotated => exact rotated.count_le room hcount

/-- A block that is ready for a record has room for it. -/
theorem Prepared.writeSize_le {changed : Bool} (h : v.Prepared C recordSize (true, changed) v')
    (hfits : recordSize ≤ C.maxBlockSize) : v'.writeSize + recordSize ≤ C.maxBlockSize := by
  cases h with
  | fits room =>
    unfold IsFull at room
    omega
  | grown full fewer rotated => rwa [rotated.writeSize, Nat.zero_add]
  | replaced full most room rotated => rwa [rotated.writeSize, Nat.zero_add]

theorem Prepared.writeSize_refused {changed : Bool}
    (h : v.Prepared C recordSize (false, changed) v') : v'.writeSize = v.writeSize := by
  cases h with
  | refused full most newest => rfl

end View

/-! ## The cursor and the record remembered -/

namespace StoreView

variable {V V' : StoreView} {n : Sequence}

theorem view_reportLoss_size (V : StoreView) (fault : BlockStoreError) :
    (V.reportLoss fault).view.cursor = V.view.cursor ∧
      (V.reportLoss fault).view.readSize = V.view.readSize ∧
      (V.reportLoss fault).records = V.records := by
  unfold reportLoss
  split <;> exact ⟨rfl, rfl, rfl⟩

theorem Sound.reportLoss (h : V.Sound) (fault : BlockStoreError) : (V.reportLoss fault).Sound := by
  unfold StoreView.reportLoss
  split <;> exact ⟨h.cursor, h.read⟩

theorem sound_left (V : StoreView) (n : Sequence) : (V.left n).Sound :=
  ⟨Nat.zero_le _, nofun⟩

theorem sound_spoiled (hlast : V.view.oldest = V.view.write)
    (hread : V.Sound) : V.spoiled.Sound := by
  have hsize : V.view.writeSize = V.view.readSize := by
    rw [View.writeSize, View.readSize, hlast]
  unfold spoiled reportLoss
  split <;> exact ⟨hsize.le, hread.read⟩

/-- The extent of a record that was read lies within the block. -/
theorem readAt_extent_le {content : Bytes} {offset maxSize : Nat} {found : RecordStore.Found}
    (h : ReadAt P C content offset maxSize found)
    (hknown : RecordStore.recordExtentIsKnown found.result = true) :
    offset + C.recordSize found.length ≤ content.length := by
  cases h with
  | endOfData extent => cases hknown
  | corrupt extent => cases hknown
  | finishedWith extent flag => exact (C.extentAt_ok extent).2.1
  | opened extent flag verdict => exact (C.extentAt_ok extent).2.1
  | rejected extent flag verdict => exact (C.extentAt_ok extent).2.1
  | couldNotOpen extent flag verdict => cases hknown

theorem sound_passed {length : Nat}
    (hfits : V.view.cursor + C.recordSize length ≤ V.view.readSize) : (V.passed C length).Sound :=
  ⟨hfits, nofun⟩

theorem sound_remembered {length : Nat} (h : V.Sound)
    (hfits : V.view.cursor + C.recordSize length ≤ V.view.readSize) :
    (V.remembered C length).Sound := by
  refine ⟨h.cursor, fun _ => ⟨rfl, ?_⟩⟩
  have hflag := C.sentFlagOffset_succ V.view.cursor length
  exact Nat.lt_of_succ_le (hflag.le.trans hfits)

theorem Sound.turn {maxSize : Nat} {found : RecordStore.Found} {goesOn : Bool} (h : V.Sound)
    (hturn : V.Turn P C maxSize found goesOn V') : V'.Sound := by
  cases hturn with
  | moved read result next => exact sound_left V _
  | exhausted read result last => exact h
  | abandoned read result next => exact (sound_left V _).reportLoss _
  | spoiled read result last => exact sound_spoiled last h
  | finishedWith read result =>
    exact sound_passed (readAt_extent_le read (by rw [result]; rfl))
  | rejected read result =>
    apply sound_passed
    rw [(view_reportLoss_size ..).1, (view_reportLoss_size ..).2.1]
    exact readAt_extent_le read (by rw [result]; rfl)
  | succeeded read result => exact sound_remembered h (readAt_extent_le read (by rw [result]; rfl))
  | couldNotOpen read result => exact h

/-- The view changes within its read block, or the block is left and the record in it forgotten. -/
theorem Sound.swept {v v' : View} {changed : Bool} (hswept : v.Swept changed v')
    (h : Sound { V with view := v }) :
    Sound { V with view := v' } ∨ (changed = true ∧ v'.cursor = 0) := by
  cases hswept with
  | left drained next => exact .inr ⟨rfl, rfl⟩
  | stayed undrained => exact .inl h

theorem Sound.extended {v : View} (h : Sound { V with view := v }) (hroom : v.HasRoom) :
    Sound { V with view := v.extended } := by
  have hsize := View.readSize_extended hroom
  refine ⟨h.cursor.trans hsize.ge, fun hread => ?_⟩
  obtain ⟨hblock, hoffset⟩ := h.read hread
  exact ⟨hblock, hoffset.trans_le hsize.ge⟩

theorem Sound.rotated {v v' : View} {changed : Bool} (h : Sound { V with view := v })
    (hroom : v.HasRoom) (hrotated : v.Rotated C changed v') :
    Sound { V with view := v' } ∨ (changed = true ∧ v'.cursor = 0) := by
  cases hrotated with
  | evicted sweep exceeds next => exact .inr ⟨rfl, rfl⟩
  | grown sweep within => exact (h.extended hroom).swept sweep

theorem Sound.prepared {v' : View} {recordSize : Nat} {outcome : Bool × Bool} (h : V.Sound)
    (hprepared : V.view.Prepared C recordSize outcome v') :
    Sound { V with view := v' } ∨ (outcome.2 = true ∧ v'.cursor = 0) := by
  cases hprepared with
  | fits room => exact .inl h
  | refused full most newest => exact .inl ⟨h.cursor, h.read⟩
  | grown full fewer rotated => exact h.rotated (BlockSequence.hasRoom_of_count fewer) rotated
  | replaced full most room rotated =>
    have h' : Sound { V with view := V.view.traced (.call .getDiscardPolicy .oldest) } :=
      ⟨h.cursor, h.read⟩
    exact h'.rotated room rotated

theorem Sound.reportEviction (h : V.Sound) : V.reportEviction.Sound := by
  unfold StoreView.reportEviction
  split
  · split <;> exact ⟨h.cursor, h.read⟩
  · exact ⟨h.cursor, h.read⟩

theorem Sound.readied {v' : View} {recordSize : Nat} {changed : Bool} (h : V.Sound)
    (hprepared : V.view.Prepared C recordSize (true, changed) v') :
    (V.readied v' changed).Sound := by
  unfold StoreView.readied
  rcases h.prepared hprepared with hsound | ⟨hchanged, hcursor⟩
  · have hevicted := hsound.reportEviction
    split
    · exact ⟨hevicted.cursor, nofun⟩
    · exact hevicted
  · rw [if_pos hchanged]
    refine ⟨?_, nofun⟩
    change (StoreView.reportEviction { V with view := v' }).view.cursor ≤ _
    have hzero : (StoreView.reportEviction { V with view := v' }).view.cursor = 0 := by
      unfold StoreView.reportEviction
      split
      · split <;> exact hcursor
      · exact hcursor
    rw [hzero]
    exact Nat.zero_le _

theorem Sound.reportRefusal (h : V.Sound) : V.reportRefusal.Sound := by
  unfold StoreView.reportRefusal
  split <;> exact ⟨h.cursor, h.read⟩

theorem Sound.reportSealFailed (h : V.Sound) : V.reportSealFailed.Sound := by
  unfold StoreView.reportSealFailed
  split <;> exact ⟨h.cursor, h.read⟩

theorem Sound.traced (h : V.Sound) (event : Event) : (V.traced event).Sound :=
  ⟨h.cursor, h.read⟩

theorem Sound.kept (h : V.Sound) (bytes : Bytes) : (V.kept bytes).Sound := by
  have hsize := View.readSize_appended V.view bytes
  refine ⟨h.cursor.trans hsize, fun hread => ?_⟩
  obtain ⟨hblock, hoffset⟩ := h.read hread
  exact ⟨hblock, hoffset.trans_le hsize⟩

theorem Sound.wrote {data : Bytes} {result : StoreWriteResult} (h : V.Sound)
    (hwrote : V.Wrote P C data result V') : V'.Sound := by
  cases hwrote with
  | empty none => exact h
  | refused some prepared =>
    apply Sound.reportRefusal
    rcases h.prepared prepared with hsound | ⟨hchanged, hcursor⟩
    · exact hsound
    · cases prepared
      cases hchanged
  | lost some prepared =>
    exact ((h.readied prepared).traced _).reportSealFailed
  | kept some prepared sealed =>
    exact ((h.readied prepared).traced _).kept _

/-- Marking leaves the blocks as long as they were. -/
theorem readSize_marked (h : V.Sound) (hread : V.records.hasReadRecord = true) :
    V.marked.view.readSize = V.view.readSize := by
  obtain ⟨hblock, hoffset⟩ := h.read hread
  change ((V.view.media.after (.writeAt _ _ _) V.view.oldest).getD []).length = _
  rw [hblock]
  unfold View.readSize at hoffset ⊢
  cases hcontent : V.view.media V.view.oldest with
  | none => simp [Media.after, hcontent]
  | some content =>
    rw [hcontent] at hoffset
    simp only [Media.after, hcontent, Function.update_self, Option.map_some, Option.getD_some]
    exact length_overwrite hoffset

theorem Sound.marked (h : V.Sound) (hmarked : V.Marked V') : V'.Sound := by
  cases hmarked with
  | nothing unread => exact h
  | marked read swept =>
    have hsound : V.marked.Sound :=
      ⟨(Nat.succ_le_of_lt (h.read read).2).trans (readSize_marked h read).ge, nofun⟩
    rcases Sound.swept swept hsound with hswept | ⟨-, hcursor⟩
    · exact hswept
    · exact ⟨hcursor.le.trans (Nat.zero_le _), nofun⟩

theorem stable_sound : Stable P C Sound where
  turn := Sound.turn
  handedOut := fun _ h => ⟨h.cursor, h.read⟩
  wrote := Sound.wrote
  marked := Sound.marked

theorem firstUnsent_le (content : Bytes) {cursor : Nat} (fuel : Nat)
    (hcursor : cursor ≤ content.length) :
    (C.firstUnsent content cursor fuel).1 ≤ content.length := by
  induction fuel generalizing cursor with
  | zero => exact hcursor
  | succ fuel ih =>
    unfold Config.firstUnsent
    cases hextent : C.extentAt content cursor with
    | error result =>
      rcases C.extentAt_error hextent with ⟨rfl, -⟩ | ⟨rfl, -⟩
      · exact hcursor
      · exact le_refl _
    | ok length =>
      dsimp only
      split
      · exact ih (C.extentAt_ok hextent).2.1
      · exact hcursor

theorem sound_scanned (h : V.records.hasReadRecord = false) : (V.scanned C).Sound :=
  ⟨firstUnsent_le V.readContent _ (Nat.zero_le _), fun hread => absurd (hread.symm.trans h) nofun⟩

theorem unread_resuming (h : V.records.hasReadRecord = false) (hleft : V.Resuming C V') :
    V'.records.hasReadRecord = false := by
  induction hleft with
  | refl V => exact h
  | head corrupt next rest ih =>
    apply ih
    rw [(view_reportLoss_size ..).2.2]
    rfl

theorem Resumed.sound (h : V.records.hasReadRecord = false) (hresumed : V.Resumed C V') :
    V'.Sound := by
  cases hresumed with
  | scanned left found => exact sound_scanned (unread_resuming h left)
  | spoiled left corrupt last => exact sound_spoiled last (sound_scanned (unread_resuming h left))

theorem Created.sound {m : Media} (h : Created C m V) : V.Sound := by
  obtain ⟨-, hresumed⟩ := h
  have hsound := hresumed.sound rfl
  unfold checked
  split <;> exact ⟨hsound.cursor, hsound.read⟩

/-! ## The run of blocks -/

/-- A report adds to the trace and to nothing else of the view. -/
theorem view_reportLoss_eq (V : StoreView) (fault : BlockStoreError) :
    ∃ reports, (V.reportLoss fault).view = { V.view with trace := V.view.trace ++ reports } := by
  unfold reportLoss
  split
  · exact ⟨[], by rw [List.append_nil]⟩
  · exact ⟨_, rfl⟩

theorem view_reportRefusal_eq (V : StoreView) :
    ∃ reports, V.reportRefusal.view = { V.view with trace := V.view.trace ++ reports } := by
  unfold reportRefusal
  split
  · exact ⟨[], by rw [List.append_nil]⟩
  · exact ⟨_, rfl⟩

theorem view_reportSealFailed_eq (V : StoreView) :
    ∃ reports, V.reportSealFailed.view = { V.view with trace := V.view.trace ++ reports } := by
  unfold reportSealFailed
  split
  · exact ⟨[], by rw [List.append_nil]⟩
  · exact ⟨_, rfl⟩

theorem view_readied_eq (V : StoreView) (v' : View) (changed : Bool) :
    ∃ reports, (V.readied v' changed).view = { v' with trace := v'.trace ++ reports } := by
  have hreport : ∃ reports, ({ V with view := v' } : StoreView).reportEviction.view =
      { v' with trace := v'.trace ++ reports } := by
    unfold reportEviction
    split
    · split
      · exact ⟨[], by rw [List.append_nil]⟩
      · exact ⟨_, rfl⟩
    · exact ⟨[], by rw [List.append_nil]⟩
  unfold readied
  split <;> exact hreport

theorem view_lost_eq (V : StoreView) (v' : View) (changed : Bool) (event : Event) :
    ∃ events, ((V.readied v' changed).traced event).reportSealFailed.view =
      { v' with trace := v'.trace ++ events } := by
  obtain ⟨reports, hready⟩ := view_readied_eq V v' changed
  obtain ⟨reports', hview⟩ := view_reportSealFailed_eq ((V.readied v' changed).traced event)
  refine ⟨reports ++ [event] ++ reports', ?_⟩
  have htraced : ((V.readied v' changed).traced event).view =
      { v' with trace := v'.trace ++ reports ++ [event] } := by
    rw [traced, hready]
    rfl
  rw [hview, htraced]
  simp

/-- Reading leaves blocks and appends nothing. -/
theorem Turn.run {maxSize : Nat} {found : RecordStore.Found} {goesOn : Bool}
    (h : V.Turn P C maxSize found goesOn V') :
    V'.view.count ≤ V.view.count ∧ V'.view.writeSize = V.view.writeSize := by
  cases h with
  | moved read result next => exact ⟨next.count_lt.le, next.writeSize⟩
  | exhausted read result last => exact ⟨le_refl _, rfl⟩
  | abandoned read result next =>
    obtain ⟨reports, hview⟩ := view_reportLoss_eq (V.left _) .recordCorrupt
    rw [hview]
    exact ⟨next.count_lt.le, next.writeSize⟩
  | spoiled read result last =>
    obtain ⟨reports, hview⟩ := view_reportLoss_eq V .recordCorrupt
    unfold StoreView.spoiled
    rw [hview]
    exact ⟨le_refl _, rfl⟩
  | finishedWith read result => exact ⟨le_refl _, rfl⟩
  | rejected read result =>
    obtain ⟨reports, hview⟩ := view_reportLoss_eq
      (V.traced (.steppedPast V.view.oldest V.view.cursor found.length)) .recordRejected
    unfold passed
    rw [hview]
    exact ⟨le_refl _, rfl⟩
  | succeeded read result => exact ⟨le_refl _, rfl⟩
  | couldNotOpen read result => exact ⟨le_refl _, rfl⟩

/-- So does marking. -/
theorem Marked.run (h : V.Marked V') (hV : V.Sound) :
    V'.view.count ≤ V.view.count ∧ V'.view.writeSize = V.view.writeSize := by
  cases h with
  | nothing unread => exact ⟨le_refl _, rfl⟩
  | marked read swept =>
    refine ⟨swept.count_le, swept.writeSize.trans ?_⟩
    obtain ⟨hblock, -⟩ := hV.read read
    by_cases hactive : V.view.oldest = V.view.write
    · have hsize := readSize_marked hV read
      unfold View.readSize at hsize
      have hsame : V.marked.view.write = V.marked.view.oldest := hactive.symm
      unfold View.writeSize
      rw [hsame, ← hactive]
      exact hsize
    · change ((V.view.media.after (.writeAt _ _ _) V.view.write).getD []).length = _
      rw [hblock]
      simp [Media.after, Ne.symm hactive, View.writeSize]

/-- The run has at most the ceiling of blocks and its newest is no longer than a block may be. -/
structure Within (C : Config) (V : StoreView) : Prop where
  count : V.view.count ≤ C.maxBlocks
  writeSize : V.view.writeSize ≤ C.maxBlockSize

theorem wrote_hasRoom {data : Bytes} {result : StoreWriteResult} (h : V.view.HasRoom)
    (hwrote : V.Wrote P C data result V') : V'.view.HasRoom := by
  cases hwrote with
  | empty none => exact h
  | refused some prepared =>
    obtain ⟨reports, hview⟩ := view_reportRefusal_eq { V with view := _ }
    rw [hview]
    exact prepared.hasRoom h
  | lost some prepared =>
    obtain ⟨events, hview⟩ := view_lost_eq V _ _ _
    rw [hview]
    exact prepared.hasRoom h
  | kept some prepared sealed =>
    obtain ⟨reports, hready⟩ := view_readied_eq V _ _
    unfold StoreView.kept traced
    rw [hready]
    exact prepared.hasRoom h

theorem writeSize_appended (v : View) (bytes : Bytes) :
    (v.appended bytes).writeSize ≤ v.writeSize + bytes.length := by
  cases hcontent : v.media v.write <;>
    simp [View.writeSize, View.appended, Media.after, hcontent]

theorem Within.wrote {message : BlockStore.Message C} {result : StoreWriteResult} (h : V.Within C)
    (hwrote : V.Wrote P C message.bytes result V') : V'.Within C := by
  cases hwrote with
  | empty none => exact h
  | refused some prepared =>
    obtain ⟨reports, hview⟩ := view_reportRefusal_eq { V with view := _ }
    constructor
    · rw [hview]
      exact prepared.count_le h.count
    · rw [hview]
      exact prepared.writeSize_refused.le.trans h.writeSize
  | lost some prepared =>
    obtain ⟨events, hview⟩ := view_lost_eq V _ _ _
    have hroom := prepared.writeSize_le (Config.recordSize_le_maxBlockSize
      ((Nat.mod_le _ _).trans message.fits))
    constructor
    · rw [hview]
      exact prepared.count_le h.count
    · rw [hview]
      exact (Nat.le_add_right _ _).trans hroom
  | kept some prepared sealed =>
    obtain ⟨reports, hready⟩ := view_readied_eq V _ _
    have hroom := prepared.writeSize_le (Config.recordSize_le_maxBlockSize
      ((Nat.mod_le _ _).trans message.fits))
    unfold StoreView.kept traced
    rw [hready]
    constructor
    · exact prepared.count_le h.count
    · apply (writeSize_appended _ _).trans
      rw [BlockStore.length_recordBytes _ _ message.length_le]
      exact hroom

theorem stable_hasRoom : Stable P C (fun V => V.Sound ∧ V.view.HasRoom) where
  turn := by
    rintro V V' _ _ _ ⟨hsound, hroom⟩ hturn
    rw [View.hasRoom_iff] at hroom
    exact ⟨hsound.turn hturn, View.hasRoom_iff.2 (hturn.run.1.trans_lt hroom)⟩
  handedOut := fun _ h => ⟨⟨h.1.cursor, h.1.read⟩, h.2⟩
  wrote := fun h hwrote => ⟨h.1.wrote hwrote, wrote_hasRoom h.2 hwrote⟩
  marked := by
    rintro V V' ⟨hsound, hroom⟩ hmarked
    rw [View.hasRoom_iff] at hroom
    exact ⟨hsound.marked hmarked, View.hasRoom_iff.2 ((hmarked.run hsound).1.trans_lt hroom)⟩

theorem stable_within : Stable P C (fun V => V.Sound ∧ V.Within C) where
  turn := by
    rintro V V' _ _ _ ⟨hsound, hwithin⟩ hturn
    exact ⟨hsound.turn hturn, hturn.run.1.trans hwithin.count,
      hturn.run.2.le.trans hwithin.writeSize⟩
  handedOut := fun _ h => ⟨⟨h.1.cursor, h.1.read⟩, h.2.count, h.2.writeSize⟩
  wrote := fun h hwrote => ⟨h.1.wrote hwrote, h.2.wrote hwrote⟩
  marked := by
    rintro V V' ⟨hsound, hwithin⟩ hmarked
    obtain ⟨hcount, hsize⟩ := hmarked.run hsound
    exact ⟨hsound.marked hmarked, hcount.trans hwithin.count, hsize.le.trans hwithin.writeSize⟩

/-! ## At the start -/

theorem Resuming.run (h : V.Resuming C V') :
    V'.view.count ≤ V.view.count ∧ V'.view.writeSize = V.view.writeSize := by
  induction h with
  | refl V => exact ⟨le_refl _, rfl⟩
  | @head V V' n corrupt next rest ih =>
    have hnext : (V.scanned C).view.Next n := ⟨next.present, next.ne, next.le, next.first⟩
    obtain ⟨reports, hview⟩ := view_reportLoss_eq ((V.scanned C).left n) .recordCorrupt
    rw [hview] at ih
    exact ⟨ih.1.trans hnext.count_lt.le, ih.2.trans hnext.writeSize⟩

theorem Resumed.run (h : V.Resumed C V') :
    V'.view.count ≤ V.view.count ∧ V'.view.writeSize = V.view.writeSize := by
  cases h with
  | scanned left found => exact left.run
  | @spoiled V₁ left corrupt last =>
    obtain ⟨reports, hview⟩ := view_reportLoss_eq (V₁.scanned C) .recordCorrupt
    unfold StoreView.spoiled
    rw [hview]
    exact left.run

theorem Created.run {m : Media} (h : Created C m V) : ∃ v, View.Opened m (createReports C) v ∧
    V.view.count ≤ v.count ∧ V.view.writeSize = v.writeSize := by
  obtain ⟨hopened, hresumed⟩ := h
  refine ⟨_, hopened, ?_⟩
  unfold checked
  split <;> exact hresumed.run

theorem Created.hasRoom {m : Media} (h : Created C m V) (habsent : ∃ x, m x = none) :
    V.view.HasRoom := by
  obtain ⟨v, hopened, hcount, -⟩ := h.run
  have hroom : v.HasRoom := by
    cases hopened with
    | fresh empty => exact (by decide : nextSequence 0 ≠ 0)
    | found located => exact located.room habsent
  rw [View.hasRoom_iff] at hroom ⊢
  exact hcount.trans_lt hroom

theorem Created.within {m : Media} (h : Created C m V) (hempty : ∀ x, m x = none) :
    V.Within C := by
  obtain ⟨v, hopened, hcount, hsize⟩ := h.run
  cases hopened with
  | fresh empty =>
    refine ⟨hcount.trans ?_, hsize.le.trans (Nat.zero_le _)⟩
    exact (Nat.le_succ 1).trans C.two_le_maxBlocks
  | found located =>
    have hpresent := located.oldest
    rw [hempty] at hpresent
    cases hpresent

end StoreView

end SolidSyslog.Store
