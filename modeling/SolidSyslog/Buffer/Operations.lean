import SolidSyslog.Buffer.RingLayout

/-!
# The operations on the queue a ring holds

What each operation of the ring does to the queue it holds, to the latches and to its reports. A
read takes the oldest record or leaves it. `CircularBuffer_StoreApplyingPolicy` first puts an
empty ring back to its start (`readied`) and then keeps the record, evicts for it or refuses it:
one lemma for each branch.
-/

namespace SolidSyslog.Buffer

open Lib

/-! ## The flags -/

/-- The four flags that ring operations leave alone unless they say otherwise. -/
structure SameLatches (b b' : CircularBuffer) : Prop where
  loss : b'.lossReported = b.lossReported
  eviction : b'.evictionReported = b.evictionReported
  tooLarge : b'.tooLargeReported = b.tooLargeReported
  full : b'.full = b.full

namespace SameLatches

@[refl] theorem refl (b : CircularBuffer) : SameLatches b b :=
  ⟨rfl, rfl, rfl, rfl⟩

theorem trans {b b' b'' : CircularBuffer} (h : SameLatches b b') (h' : SameLatches b' b'') :
    SameLatches b b'' :=
  ⟨h'.loss.trans h.loss, h'.eviction.trans h.eviction, h'.tooLarge.trans h.tooLarge,
    h'.full.trans h.full⟩

end SameLatches

theorem pastMarker_latches (b : CircularBuffer) : SameLatches b b.pastMarker := by
  unfold CircularBuffer.pastMarker
  split <;> exact ⟨rfl, rfl, rfl, rfl⟩

/-! ## Read -/

section Read

variable {b : CircularBuffer} {data : Bytes} {q : List Bytes}

theorem read_empty (h : HoldsQueue b []) (maxSize : Nat) : b.read maxSize = .ok (none, [], b) := by
  unfold CircularBuffer.read
  rw [if_pos (h.isEmpty_iff.2 rfl)]

theorem HeadOn.loadRecord (h : HeadOn b data q) :
    b.loadRecord = .ok (data, { b with head := b.head + (headerBytes + data.length) }) := by
  unfold CircularBuffer.loadRecord loadSpan
  rw [h.peekRecordSize]
  simp only [bind, Except.bind]
  rw [if_pos h.body.le_length, h.body.span_eq]
  rfl

theorem not_isEmpty (h : HoldsQueue b (data :: q)) : ¬ b.isEmpty = true :=
  fun hempty => List.cons_ne_nil _ _ (h.isEmpty_iff.1 hempty)

/-- The oldest record is delivered, and the ring is no longer full. -/
theorem read_delivers (h : HoldsQueue b (data :: q)) {maxSize : Nat}
    (hsize : data.length ≤ maxSize) :
    ∃ b', b.read maxSize = .ok (some data, [], b') ∧ HoldsQueue b' q ∧ b'.capacity = b.capacity ∧
      b'.lossReported = b.lossReported ∧ b'.evictionReported = b.evictionReported ∧
      b'.tooLargeReported = false ∧ b'.full = false := by
  have hon := pastMarker_headOn h
  have hsame := pastMarker_latches b
  unfold CircularBuffer.read
  rw [if_neg (not_isEmpty h)]
  simp only [hon.peekRecordSize, hon.loadRecord, bind, Except.bind]
  rw [if_pos hsize]
  exact ⟨_, rfl, hon.advance.congr rfl rfl rfl rfl rfl, pastMarker_capacity b, hsame.loss,
    hsame.eviction, rfl, rfl⟩

/-- A record too large for the caller stays, and only its latch changes. -/
theorem read_too_small (h : HoldsQueue b (data :: q)) {maxSize : Nat}
    (hsize : maxSize < data.length) :
    ∃ b', b.read maxSize = .ok (none,
        if b.tooLargeReported then [] else [CircularBuffer.reportRecordTooLarge], b') ∧
      HoldsQueue b' (data :: q) ∧ b'.capacity = b.capacity ∧ b'.lossReported = b.lossReported ∧
      b'.evictionReported = b.evictionReported ∧ b'.tooLargeReported = true ∧
      b'.full = b.full := by
  have hon := pastMarker_headOn h
  have hsame := pastMarker_latches b
  unfold CircularBuffer.read
  rw [if_neg (not_isEmpty h)]
  simp only [hon.peekRecordSize, bind, Except.bind, hsame.tooLarge]
  rw [if_neg (by omega)]
  exact ⟨_, rfl, hon.holds.congr rfl rfl rfl rfl rfl, pastMarker_capacity b, hsame.loss,
    hsame.eviction, rfl, hsame.full⟩

end Read

/-! ## Dropping the head -/

/-- An empty ring stands at its start, as `Write` puts it before it looks for room. -/
def AtStartIfEmpty (b : CircularBuffer) (q : List Bytes) : Prop :=
  q = [] → b.head = 0 ∧ b.tail = 0

theorem fits_of_empty {b : CircularBuffer} {recordBytes : Nat} (h : b.head = 0 ∧ b.tail = 0)
    (hcap : recordBytes ≤ b.capacity) : b.recordFits recordBytes = true := by
  simp [CircularBuffer.recordFits, CircularBuffer.recordFitsAtTail, CircularBuffer.isWrapped, h.1,
    h.2, hcap]

theorem dropHead_spec {b : CircularBuffer} {data : Bytes} {q : List Bytes}
    (h : HoldsQueue b (data :: q)) :
    ∃ b', b.dropHead = .ok b' ∧ HoldsQueue b' q ∧ AtStartIfEmpty b' q ∧
      b'.capacity = b.capacity := by
  have hon := pastMarker_headOn h
  have hadv := hon.advance
  unfold CircularBuffer.dropHead
  simp only [hon.peekRecordSize, bind, Except.bind]
  refine ⟨_, rfl, ?_, ?_, ?_⟩
  · split
    · next hempty =>
      rw [hadv.isEmpty_iff.1 hempty]
      exact hadv.resetToStart
    · exact hadv
  · intro hnil
    rw [if_pos (hadv.isEmpty_iff.2 hnil)]
    exact ⟨rfl, rfl⟩
  · split <;> exact pastMarker_capacity b

/-! ## Storing a record -/

theorem storeSpan_eq {ring : Bytes} {offset : Nat} {bytes : Bytes}
    (h : offset + bytes.length ≤ ring.length) :
    storeSpan ring offset bytes = .ok (overwrite ring offset bytes) :=
  if_pos h

theorem storeRecord_eq {b : CircularBuffer} {data : Bytes}
    (hroom : b.tail + (frame data).length ≤ b.ring.length) :
    b.storeRecord data = .ok { b with
      ring := overwrite b.ring b.tail (frame data)
      tail := b.tail + (headerBytes + data.length) } := by
  rw [length_frame] at hroom
  have hlow : b.tail + [UInt8.ofNat (data.length &&& 0xFF)].length ≤ b.ring.length := by
    simp only [headerBytes, List.length_singleton] at hroom ⊢
    omega
  have hhead : b.tail + [UInt8.ofNat (data.length &&& 0xFF),
      UInt8.ofNat ((data.length >>> 8) &&& 0xFF)].length ≤ b.ring.length := by
    simp only [headerBytes, List.length_cons, List.length_nil] at hroom ⊢
    omega
  have hpair : overwrite (overwrite b.ring b.tail [UInt8.ofNat (data.length &&& 0xFF)]) (b.tail + 1)
      [UInt8.ofNat ((data.length >>> 8) &&& 0xFF)] =
      overwrite b.ring b.tail [UInt8.ofNat (data.length &&& 0xFF),
        UInt8.ofNat ((data.length >>> 8) &&& 0xFF)] :=
    overwrite_overwrite hlow
  unfold CircularBuffer.storeRecord
  simp only [storeSpan_eq hlow, bind, Except.bind]
  rw [storeSpan_eq (by rw [length_overwrite hlow]; exact hhead), hpair]
  simp only
  rw [storeSpan_eq (by rw [length_overwrite hhead]; omega)]
  exact congrArg Except.ok (congrArg (fun ring => { b with
    ring := ring
    tail := b.tail + (headerBytes + data.length) }) (overwrite_overwrite hhead))

/-- The record goes behind the newest: at the tail, or at the front once the tail has wrapped. -/
theorem store_holds {b : CircularBuffer} {q : List Bytes} {data : Bytes} (h : HoldsQueue b q)
    (hfits : b.recordFits (headerBytes + data.length) = true) (hsize : data.length ≤ 65535) :
    let b₁ := if b.recordFitsAtTail (headerBytes + data.length) then b else b.wrapTail
    ∃ b', b₁.storeRecord data = .ok b' ∧ HoldsQueue b' (q ++ [data]) ∧
      b'.capacity = b.capacity := by
  intro b₁
  have hmem := h.memory
  have hsizes : ∀ d ∈ q ++ [data], d.length ≤ 65535 := by
    intro d hd
    rcases List.mem_append.1 hd with hd | hd
    · exact h.sizes d hd
    · rw [List.mem_singleton.1 hd]
      exact hsize
  cases h.layout with
  | straight marker stretch fits records =>
    have hunwrapped : b.isWrapped = false := by
      simp only [CircularBuffer.isWrapped, decide_eq_false_iff_not]
      omega
    by_cases htail : b.recordFitsAtTail (headerBytes + data.length) = true
    · have hb₁ : b₁ = b := if_pos htail
      have hroom : b.tail + (headerBytes + data.length) ≤ b.capacity := by
        simpa [CircularBuffer.recordFitsAtTail, hunwrapped] using htail
      have hroom' : b.tail + (frame data).length ≤ b.ring.length := by rw [length_frame]; omega
      rw [hb₁, storeRecord_eq hroom']
      refine ⟨_, rfl, ⟨?_, .straight marker ?_ hroom ?_, hsizes⟩, rfl⟩
      · exact (length_overwrite hroom').trans hmem
      · simp only [frames_append, frames_cons, frames_nil, List.append_nil, List.length_append,
          length_frame]
        omega
      · simp only [frames_append, frames_cons, frames_nil, List.append_nil]
        refine OccursAt.append_iff.2 ⟨records.overwrite_after (by omega), ?_⟩
        rw [stretch]
        exact occursAt_overwrite (by omega)
    · have hb₁ : b₁ = b.wrapTail := if_neg htail
      have hfront : headerBytes + data.length < b.head := by
        simpa [CircularBuffer.recordFits, htail, CircularBuffer.recordFitsAfterWrap,
          hunwrapped] using hfits
      have hroom' : b.wrapTail.tail + (frame data).length ≤ b.wrapTail.ring.length := by
        rw [length_frame]
        simp only [CircularBuffer.wrapTail]
        omega
      rw [hb₁, storeRecord_eq hroom']
      refine ⟨_, rfl, ⟨?_, .wrapped stretch fits ?_ ?_ (by simp) ?_ ?_,
        hsizes⟩, rfl⟩
      · exact (length_overwrite hroom').trans hmem
      · simp [CircularBuffer.wrapTail]
      · simpa [CircularBuffer.wrapTail] using hfront
      · refine records.overwrite_before ?_
        rw [length_frame]
        simp only [CircularBuffer.wrapTail]
        omega
      · simp only [frames_cons, frames_nil, List.append_nil]
        exact occursAt_overwrite (by simp [CircularBuffer.wrapTail])
  | @wrapped older newer stretch fits front apart some_newer records records' =>
    have hwrapped : b.isWrapped = true := by simp [CircularBuffer.isWrapped, apart]
    have htail : b.recordFitsAtTail (headerBytes + data.length) = true := by
      simpa [CircularBuffer.recordFits, CircularBuffer.recordFitsAfterWrap, hwrapped] using hfits
    have hb₁ : b₁ = b := if_pos htail
    have hroom : b.tail + (headerBytes + data.length) < b.head := by
      simpa [CircularBuffer.recordFitsAtTail, hwrapped] using htail
    have hroom' : b.tail + (frame data).length ≤ b.ring.length := by rw [length_frame]; omega
    rw [hb₁, storeRecord_eq hroom', List.append_assoc]
    refine ⟨_, rfl, ⟨?_, .wrapped stretch fits ?_ hroom
      (by simp) ?_ ?_, by rwa [List.append_assoc] at hsizes⟩, rfl⟩
    · exact (length_overwrite hroom').trans hmem
    · simp only [frames_append, frames_cons, frames_nil, List.append_nil, List.length_append,
        length_frame, front]
    · exact records.overwrite_before (by rw [length_frame]; omega)
    · simp only [frames_append, frames_cons, frames_nil, List.append_nil]
      refine OccursAt.append_iff.2 ⟨records'.overwrite_after (by omega), ?_⟩
      rw [Nat.zero_add, front]
      exact occursAt_overwrite (by omega)

/-! ## The latches -/

theorem dropHead_latches {b b' : CircularBuffer} (h : b.dropHead = .ok b') :
    SameLatches b b' := by
  have hpast := pastMarker_latches b
  unfold CircularBuffer.dropHead at h
  cases hsize : b.pastMarker.peekRecordSize with
  | error fault =>
    simp only [hsize, bind, Except.bind, reduceCtorEq] at h
  | ok recordSize =>
    simp only [hsize, bind, Except.bind, pure, Except.pure, Except.ok.injEq] at h
    rw [← h]
    split <;> exact ⟨hpast.loss, hpast.eviction, hpast.tooLarge, hpast.full⟩

theorem storeRecord_latches {b b' : CircularBuffer} {data : Bytes}
    (h : b.storeRecord data = .ok b') : SameLatches b b' := by
  unfold CircularBuffer.storeRecord at h
  simp only [bind, Except.bind] at h
  split at h
  · cases h
  · split at h
    · cases h
    · split at h
      · cases h
      · cases h
        exact ⟨rfl, rfl, rfl, rfl⟩

/-! ## Room as it is -/

/-- The ring as `Write` looks for room in it: an empty one is put back to its start. -/
def CircularBuffer.readied (b : CircularBuffer) : CircularBuffer :=
  if b.isEmpty then b.resetToStart else b

section Write

variable {b : CircularBuffer} {q : List Bytes} {data : Bytes}

theorem if_readied (b : CircularBuffer) :
    (if b.isEmpty then b.resetToStart else b) = b.readied := rfl

@[simp] theorem readied_capacity (b : CircularBuffer) : b.readied.capacity = b.capacity := by
  unfold CircularBuffer.readied
  split <;> rfl

theorem readied_latches (b : CircularBuffer) : SameLatches b b.readied := by
  unfold CircularBuffer.readied
  split <;> exact ⟨rfl, rfl, rfl, rfl⟩

theorem readied_holds (h : HoldsQueue b q) : HoldsQueue b.readied q := by
  unfold CircularBuffer.readied
  by_cases hempty : b.isEmpty = true
  · have hq := h.isEmpty_iff.1 hempty
    subst hq
    rw [if_pos hempty]
    exact h.resetToStart
  · rwa [if_neg hempty]

theorem readied_atStart (h : HoldsQueue b q) : AtStartIfEmpty b.readied q := by
  intro hq
  unfold CircularBuffer.readied
  rw [if_pos (h.isEmpty_iff.2 hq)]
  exact ⟨rfl, rfl⟩

/-- The record put behind the newest, with the latches as `KeepRecord` leaves them. -/
theorem keepRecord_eq (h : HoldsQueue b q)
    (hfits : b.recordFits (headerBytes + data.length) = true) (hsize : data.length ≤ 65535)
    (evicted : Bool) :
    ∃ b', b.keepRecord data evicted =
        .ok (if evicted && !b.evictionReported then .evictions else .none, b') ∧
      HoldsQueue b' (q ++ [data]) ∧ b'.capacity = b.capacity ∧ b'.lossReported = false ∧
      b'.evictionReported = evicted ∧ b'.tooLargeReported = b.tooLargeReported ∧
      b'.full = evicted := by
  obtain ⟨b₁, hstore, hholds, hcap⟩ := store_holds h hfits hsize
  have hlatches := storeRecord_latches hstore
  have hplaced : SameLatches b
      (if b.recordFitsAtTail (headerBytes + data.length) then b else b.wrapTail) := by
    split <;> exact ⟨rfl, rfl, rfl, rfl⟩
  have hsame := hplaced.trans hlatches
  unfold CircularBuffer.keepRecord
  simp only [hstore, bind, Except.bind, hsame.eviction]
  exact ⟨_, rfl, hholds.congr rfl rfl rfl rfl rfl, hcap, rfl, rfl, hsame.tooLarge, rfl⟩

/-- **The record fits.** It is kept without a loss. -/
theorem storeApplyingPolicy_fits (policy : DiscardPolicy) (h : HoldsQueue b q)
    (hfits : b.readied.recordFits (headerBytes + data.length) = true)
    (hsize : data.length ≤ 65535) :
    ∃ b', b.storeApplyingPolicy policy data = .ok (.kept false, .none, b') ∧
      HoldsQueue b' (q ++ [data]) ∧ b'.capacity = b.capacity ∧ b'.lossReported = false ∧
      b'.evictionReported = false ∧ b'.tooLargeReported = b.tooLargeReported ∧
      b'.full = false := by
  obtain ⟨b', hkeep, hholds, hcap, hloss, heviction, hlarge, hfull⟩ :=
    keepRecord_eq (readied_holds h) hfits hsize false
  refine ⟨b', ?_, hholds, hcap.trans (readied_capacity b), hloss, heviction,
    hlarge.trans (readied_latches b).tooLarge, hfull⟩
  unfold CircularBuffer.storeApplyingPolicy
  simp only [if_readied, hfits, Bool.not_true, Bool.false_and, Bool.false_eq_true,
    if_false, if_true, pure, Except.pure, bind, Except.bind, hkeep]

/-! ## Room made by eviction -/

/-- The records the turns of `evictLoop` drop, oldest first. -/
def CircularBuffer.evictedWithin (recordBytes : Nat) : Nat → CircularBuffer → List Bytes
  | 0, _ => []
  | fuel + 1, self =>
    if self.recordFits recordBytes then []
    else match self.pastMarker.loadRecord, self.dropHead with
      | .ok (data, _), .ok next => data :: evictedWithin recordBytes fuel next
      | _, _ => []

/-- The eviction loop takes from the head of the queue what `evictedWithin` lists, and nothing
else of the ring changes. -/
theorem evictLoop_evicts {recordBytes : Nat} {fuel : Nat} (h : HoldsQueue b q)
    (hstart : AtStartIfEmpty b q) (hcap : recordBytes ≤ b.capacity) (hfuel : q.length ≤ fuel) :
    ∃ b' q', CircularBuffer.evictLoop recordBytes fuel b = .ok b' ∧ HoldsQueue b' q' ∧
      q = CircularBuffer.evictedWithin recordBytes fuel b ++ q' ∧
      (b.recordFits recordBytes = false → CircularBuffer.evictedWithin recordBytes fuel b ≠ []) ∧
      b'.recordFits recordBytes = true ∧ b'.capacity = b.capacity ∧ SameLatches b b' := by
  induction fuel generalizing b q with
  | zero =>
    have hq : q = [] := List.length_eq_zero_iff.1 (by omega)
    have hfits := fits_of_empty (hstart hq) hcap
    exact ⟨b, q, by simp [CircularBuffer.evictLoop, hfits], h, rfl, by simp [hfits], hfits, rfl,
      SameLatches.refl b⟩
  | succ fuel ih =>
    by_cases hfits : b.recordFits recordBytes = true
    · refine ⟨b, q, ?_, h, ?_, ?_, hfits, rfl, SameLatches.refl b⟩
      · simp [CircularBuffer.evictLoop, hfits]
      · simp [CircularBuffer.evictedWithin, hfits]
      · simp [hfits]
    · cases q with
      | nil => exact absurd (fits_of_empty (hstart rfl) hcap) hfits
      | cons first q =>
        obtain ⟨b₁, hdrop, hholds, hstart₁, hcap₁⟩ := dropHead_spec h
        have hlen : q.length ≤ fuel := by simpa using hfuel
        obtain ⟨b', q', hloop, hholds', hq, -, hfits', hcap', hlatches⟩ :=
          ih hholds hstart₁ (by omega) hlen
        have hturn : CircularBuffer.evictedWithin recordBytes (fuel + 1) b =
            first :: CircularBuffer.evictedWithin recordBytes fuel b₁ := by
          rw [CircularBuffer.evictedWithin, if_neg hfits, (pastMarker_headOn h).loadRecord, hdrop]
        refine ⟨b', q', ?_, hholds', ?_, ?_, hfits', hcap'.trans hcap₁,
          (dropHead_latches hdrop).trans hlatches⟩
        · rw [CircularBuffer.evictLoop, if_neg hfits, hdrop]
          exact hloop
        · rw [hturn, List.cons_append, ← hq]
        · intro _
          rw [hturn]
          exact List.cons_ne_nil _ _

/-- What a write that evicts drops from the ring. -/
def CircularBuffer.evictedBy (self : CircularBuffer) (recordBytes : Nat) : List Bytes :=
  evictedWithin recordBytes self.capacity self.readied

/-- **Oldest makes room.** The record is kept behind what the eviction leaves. -/
theorem storeApplyingPolicy_evicts {policy : DiscardPolicy} (h : HoldsQueue b q)
    (hfits : b.readied.recordFits (headerBytes + data.length) = false)
    (hpolicy : b.policyEvictsFor (headerBytes + data.length) policy = true)
    (hsize : data.length ≤ 65535) :
    ∃ b' q', b.storeApplyingPolicy policy data =
        .ok (.kept true, if b.evictionReported then .none else .evictions, b') ∧
      q = b.evictedBy (headerBytes + data.length) ++ q' ∧
      b.evictedBy (headerBytes + data.length) ≠ [] ∧ HoldsQueue b' (q' ++ [data]) ∧
      b'.capacity = b.capacity ∧ b'.lossReported = false ∧ b'.evictionReported = true ∧
      b'.tooLargeReported = b.tooLargeReported ∧ b'.full = true := by
  have hreadied := readied_latches b
  have hcould : headerBytes + data.length ≤ b.readied.capacity ∧ policy = .oldest := by
    simpa [CircularBuffer.policyEvictsFor, CircularBuffer.couldHoldWhenEmpty] using hpolicy
  obtain ⟨b₁, q', hloop, h₁, hq, hsome, hfits₁, hcap₁, hlatches⟩ :=
    evictLoop_evicts (readied_holds h) (readied_atStart h) hcould.1 (readied_holds h).length_le
  have hsame := hreadied.trans hlatches
  obtain ⟨b', hkeep, hholds, hcap, hloss, heviction, hlarge, hfull⟩ :=
    keepRecord_eq h₁ hfits₁ hsize true
  have hpolicy' : b.readied.policyEvictsFor (headerBytes + data.length) policy = true := by
    simpa only [CircularBuffer.policyEvictsFor, CircularBuffer.couldHoldWhenEmpty,
      readied_capacity] using hpolicy
  refine ⟨b', q', ?_, ?_, ?_, hholds, ?_, hloss, heviction, hlarge.trans hsame.tooLarge, hfull⟩
  · unfold CircularBuffer.storeApplyingPolicy
    simp only [if_readied, hfits, hpolicy', Bool.not_false, Bool.true_and, if_true, bind,
      Except.bind, CircularBuffer.evictUntilRecordFits, hloop, hfits₁, hkeep, hsame.eviction,
      pure, Except.pure]
    cases b.evictionReported <;> rfl
  · rw [CircularBuffer.evictedBy, ← readied_capacity b]
    exact hq
  · rw [CircularBuffer.evictedBy, ← readied_capacity b]
    exact hsome hfits
  · rw [hcap, hcap₁, readied_capacity]

/-! ## No room -/

/-- **The record is refused.** The ring keeps what it held. -/
theorem storeApplyingPolicy_refuses {policy : DiscardPolicy} (h : HoldsQueue b q)
    (hfits : b.readied.recordFits (headerBytes + data.length) = false)
    (hpolicy : b.policyEvictsFor (headerBytes + data.length) policy = false) :
    ∃ b', b.storeApplyingPolicy policy data =
        .ok (.refused, if b.lossReported then .none else .refusals, b') ∧ HoldsQueue b' q ∧
      b'.capacity = b.capacity ∧ b'.lossReported = true ∧ b'.evictionReported = false ∧
      b'.tooLargeReported = b.tooLargeReported ∧
      b'.full = b.couldHoldWhenEmpty (headerBytes + data.length) := by
  have hreadied := readied_latches b
  have hpolicy' : b.readied.policyEvictsFor (headerBytes + data.length) policy = false := by
    simpa only [CircularBuffer.policyEvictsFor, CircularBuffer.couldHoldWhenEmpty,
      readied_capacity] using hpolicy
  unfold CircularBuffer.storeApplyingPolicy
  simp only [if_readied, hfits, hpolicy', Bool.not_false, Bool.true_and, Bool.false_eq_true,
    if_false, pure, Except.pure, bind, Except.bind]
  refine ⟨(b.readied.refuseRecord (headerBytes + data.length)).2, ?_,
    (readied_holds h).congr rfl rfl rfl rfl rfl, readied_capacity b, rfl, rfl, hreadied.tooLarge,
    ?_⟩
  · simp only [CircularBuffer.refuseRecord, hreadied.loss]
  · simp only [CircularBuffer.refuseRecord, CircularBuffer.couldHoldWhenEmpty, readied_capacity]

end Write

end SolidSyslog.Buffer
