import SolidSyslog.Store.MainTrace

/-!
# The view of a block sequence

A sequence keeps the same thing several times over: which blocks there are, in its two ends, in its
presence map and on the device; how long they are, in its write position, in a cached size and on
the device. On a faithful device these agree (`Sees`), and a `View` is what is left once they do.
-/

namespace SolidSyslog.Store

open Lib

variable {σ : Type} {P : Platform σ} {media : σ → Media} {m₀ : Media}

/-- The blocks present are those from `o` to `w`. -/
def Media.IsRun (m : Media) (o w : Sequence) : Prop :=
  ∀ x, (m x).isSome = true ↔ InRun o w x

/-- A run found on the media: its ends are present and nothing outside it is. Where a number is
absent there is room after it, and a media that is one run with room after it gives that run. -/
structure Media.Located (m : Media) (o w : Sequence) : Prop where
  oldest : (m o).isSome = true
  write : (m w).isSome = true
  inside : ∀ x, (m x).isSome = true → InRun o w x
  room : (∃ x, m x = none) → nextSequence w ≠ o
  same : ∀ o' w', m.IsRun o' w' → nextSequence w' ≠ o' → o = o' ∧ w = w'

/-- The last of these numbers that is present, or the one before them. -/
def Media.lastPresent (m : Media) (last : Option Sequence) (numbers : List Sequence) :
    Option Sequence :=
  numbers.foldl (fun last x => if (m x).isSome then some x else last) last

/-- The run a start takes the blocks for, where there are any. -/
def Media.run (m : Media) : Option (Sequence × Sequence) :=
  (m.lastPresent none (List.finRange modulus)).map (locateRunBoundaries fun x => (m x).isSome)

/-- The run of blocks with its cursor and flags, the media and the main trace. -/
structure View where
  oldest : Sequence
  write : Sequence
  cursor : Nat
  corrupt : Bool
  atCapacity : Bool
  evicted : Bool
  media : Media
  trace : List Event

namespace View

variable {v : View} {n : Sequence}

/-- The ends of the run are present, nothing outside it is, and it is the run noted. -/
structure WellFormed (v : View) : Prop where
  oldest_present : (v.media v.oldest).isSome = true
  write_present : (v.media v.write).isSome = true
  inside : ∀ x, (v.media x).isSome = true → InRun v.oldest v.write x
  noted : lastRun v.trace = some (v.oldest, v.write)

/-- Not every number is in the run. -/
def HasRoom (v : View) : Prop :=
  nextSequence v.write ≠ v.oldest

/-- `n` is the first block after the oldest. -/
structure Next (v : View) (n : Sequence) : Prop where
  present : (v.media n).isSome = true
  ne : n ≠ v.oldest
  le : InRun v.oldest v.write n
  first : ∀ x, x ≠ v.oldest → ahead v.oldest x < ahead v.oldest n → v.media x = none

/-- `BlockSequence_BlockCount`. -/
def count (v : View) : Nat :=
  ahead v.oldest v.write + 1

/-- The size of the read block. -/
def readSize (v : View) : Nat :=
  ((v.media v.oldest).getD []).length

/-- The size of the write block. -/
def writeSize (v : View) : Nat :=
  ((v.media v.write).getD []).length

/-- Everything in the read block is behind the cursor, and there is another block. -/
def IsDrained (v : View) : Prop :=
  v.oldest ≠ v.write ∧ v.readSize ≤ v.cursor

/-- `BlockSequence_BlockIsFull`. -/
def IsFull (C : Config) (v : View) (recordSize : Nat) : Prop :=
  v.corrupt = true ∨ C.maxBlockSize < v.writeSize + recordSize

theorem Next.write_ne (h : v.Next n) : v.write ≠ v.oldest := by
  intro heq
  have hle := h.le
  rw [InRun, heq, ahead_self, Nat.le_zero, ahead_eq_zero] at hle
  exact h.ne hle

/-- Without its oldest block. -/
def dropped (v : View) (n : Sequence) : View :=
  { v with
    oldest := n
    cursor := 0
    media := Function.update v.media v.oldest none
    trace := v.trace ++ [.call (.dispose v.oldest) true, .run n v.write] }

/-- Without its oldest block, which has nothing unsent left. -/
def drained (v : View) (n : Sequence) : View :=
  { v.dropped n with atCapacity := false }

/-- Without its oldest block, which made room. -/
def discarded (v : View) (n : Sequence) : View :=
  { v.dropped n with evicted := true }

/-- With a new block to write. -/
def extended (v : View) : View :=
  { v with
    write := nextSequence v.write
    corrupt := false
    evicted := false
    media := Function.update v.media (nextSequence v.write) (some [])
    trace := v.trace ++ [.call (.acquire (nextSequence v.write)) true,
      .run v.oldest (nextSequence v.write)] }

/-- With one more record. -/
def appended (v : View) (bytes : Bytes) : View :=
  { v with
    atCapacity := false
    media := v.media.after (.append v.write bytes)
    trace := v.trace ++ [.call (.append v.write bytes) true] }

/-- With one more event in the main trace. -/
def traced (v : View) (event : Event) : View :=
  { v with trace := v.trace ++ [event] }

/-- A drained read block is left; the flag says whether. -/
inductive Swept (v : View) : Bool → View → Prop
  | left {n : Sequence} (drained : v.IsDrained) (next : v.Next n) : Swept v true (v.drained n)
  | stayed (undrained : ¬ v.IsDrained) : Swept v false v

/-- `BlockSequence_RotateToNextBlock`: the flag says whether the read block changed. -/
inductive Rotated (C : Config) (v : View) : Bool → View → Prop
  | evicted {swept : Bool} {v' : View} {n : Sequence} (sweep : v.extended.Swept swept v')
      (exceeds : C.maxBlocks < v'.count) (next : v'.Next n) : Rotated C v true (v'.discarded n)
  | grown {swept : Bool} {v' : View} (sweep : v.extended.Swept swept v')
      (within : v'.count ≤ C.maxBlocks) : Rotated C v swept v'

/-- `SolidSyslogBlockSequence_PrepareForWrite`: whether there is room and whether the read block
changed. -/
inductive Prepared (C : Config) (v : View) (recordSize : Nat) : Bool × Bool → View → Prop
  | fits (room : ¬ v.IsFull C recordSize) : Prepared C v recordSize (true, false) v
  | refused {policy : DiscardPolicy} (full : v.IsFull C recordSize) (most : C.maxBlocks ≤ v.count)
      (newest : policy ≠ .oldest) :
      Prepared C v recordSize (false, false)
        { v.traced (.call .getDiscardPolicy policy) with atCapacity := true }
  | grown {changed : Bool} {v' : View} (full : v.IsFull C recordSize)
      (fewer : v.count < C.maxBlocks)
      (rotated : v.Rotated C changed v') : Prepared C v recordSize (true, changed) v'
  | replaced {changed : Bool} {v' : View} (full : v.IsFull C recordSize)
      (most : C.maxBlocks ≤ v.count) (room : v.HasRoom)
      (rotated : (v.traced (.call .getDiscardPolicy .oldest)).Rotated C changed v') :
      Prepared C v recordSize (true, changed) v'

/-- The views a rotation may jam on. -/
inductive Rotating (v : View) : View → Prop
  | sweeping : Rotating v v.extended
  | evicting {swept : Bool} {v' : View} (sweep : v.extended.Swept swept v') : Rotating v v'

/-- The views a write may jam on. -/
inductive Preparing (C : Config) (v : View) (recordSize : Nat) : View → Prop
  | growing {v' : View} (full : v.IsFull C recordSize) (fewer : v.count < C.maxBlocks)
      (rotating : v.Rotating v') : Preparing C v recordSize v'
  | replacing {v' : View} (full : v.IsFull C recordSize) (most : C.maxBlocks ≤ v.count)
      (room : v.HasRoom) (rotating : (v.traced (.call .getDiscardPolicy .oldest)).Rotating v') :
      Preparing C v recordSize v'

/-- `SolidSyslogBlockSequence_Open`: the first block of an empty device, or the run that is
there. -/
inductive Opened (m : Media) (t : List Event) : View → Prop
  | fresh (empty : ∀ x, m x = none) : Opened m t
      { oldest := 0, write := 0, cursor := 0, corrupt := false, atCapacity := false
        evicted := false, media := m.after (.acquire 0)
        trace := t ++ [.call (.acquire 0) true, .run 0 0] }
  | found {o w : Sequence} (located : m.Located o w) : Opened m t
      { oldest := o, write := w, cursor := 0, corrupt := false, atCapacity := false
        evicted := false, media := m, trace := t ++ [.run o w] }

/-- The flags are of no matter to the run. -/
theorem WellFormed.flags (h : v.WellFormed) (atCapacity evicted : Bool) :
    WellFormed { v with atCapacity := atCapacity, evicted := evicted } :=
  ⟨h.oldest_present, h.write_present, h.inside, h.noted⟩

theorem WellFormed.traced_call (h : v.WellFormed) {request : Request} {answer : request.Answer} :
    (v.traced (.call request answer)).WellFormed :=
  ⟨h.oldest_present, h.write_present, h.inside, by
    rw [traced, lastRun_concat_call]
    exact h.noted⟩

/-- A call that leaves each block present or absent as it was. -/
theorem isSome_after_append (m : Media) (block : Sequence) (bytes : Bytes) (x : Sequence) :
    (m.after (.append block bytes) x).isSome = (m x).isSome := by
  by_cases hx : x = block
  · simp [Media.after, hx]
  · simp [Media.after, hx]

theorem isSome_after_writeAt (m : Media) (block : Sequence) (offset : Nat) (bytes : Bytes)
    (x : Sequence) : (m.after (.writeAt block offset bytes) x).isSome = (m x).isSome := by
  by_cases hx : x = block
  · simp [Media.after, hx]
  · simp [Media.after, hx]

theorem WellFormed.appended (h : v.WellFormed) {bytes : Bytes} :
    (v.appended bytes).WellFormed where
  oldest_present := (isSome_after_append ..).trans h.oldest_present
  write_present := (isSome_after_append ..).trans h.write_present
  inside := fun x hx => h.inside x ((isSome_after_append ..).symm.trans hx)
  noted := by
    rw [View.appended, lastRun_concat_call]
    exact h.noted

theorem WellFormed.dropped (h : v.WellFormed) (hn : v.Next n) : (v.dropped n).WellFormed where
  oldest_present := by
    change ((Function.update v.media v.oldest none) n).isSome = true
    rw [Function.update_of_ne hn.ne, hn.present]
  write_present := by
    change ((Function.update v.media v.oldest none) v.write).isSome = true
    rw [Function.update_of_ne hn.write_ne, h.write_present]
  inside := by
    intro x hx
    change ((Function.update v.media v.oldest none) x).isSome = true at hx
    by_cases hold : x = v.oldest
    · rw [hold, Function.update_self] at hx
      cases hx
    · rw [Function.update_of_ne hold] at hx
      apply (h.inside x hx).from_later hn.le
      by_contra hbefore
      rw [hn.first x hold (by omega)] at hx
      cases hx
  noted := by
    change lastRun (v.trace ++ [_, _]) = _
    rw [List.append_cons, lastRun_concat_run]
    rfl

theorem WellFormed.extended (h : v.WellFormed) (hroom : v.HasRoom) : v.extended.WellFormed where
  oldest_present := by
    change ((Function.update v.media (nextSequence v.write) (some [])) v.oldest).isSome = true
    rw [Function.update_of_ne hroom.symm, h.oldest_present]
  write_present := by
    change ((Function.update v.media (nextSequence v.write) (some []))
      (nextSequence v.write)).isSome = true
    rw [Function.update_self]
    rfl
  inside := by
    intro x hx
    change ((Function.update v.media (nextSequence v.write) (some [])) x).isSome = true at hx
    change ahead v.oldest x ≤ ahead v.oldest (v.write + 1)
    rw [ahead_next hroom]
    by_cases hnew : x = nextSequence v.write
    · rw [hnew]
      exact (ahead_next hroom).le
    · rw [Function.update_of_ne hnew] at hx
      have hle : ahead v.oldest x ≤ ahead v.oldest v.write := h.inside x hx
      omega
  noted := by
    change lastRun (v.trace ++ [_, _]) = _
    rw [List.append_cons, lastRun_concat_run]
    rfl

end View

/-! ## Agreement -/

/-- What the sequence keeps agrees with the view. -/
structure BlockSequence.Agrees (v : View) (s : BlockSequence) : Prop where
  oldestSequence : s.oldestSequence = v.oldest
  readSequence : s.readSequence = v.oldest
  writeSequence : s.writeSequence = v.write
  readCursor : s.readCursor = v.cursor
  writeBlockCorrupt : s.writeBlockCorrupt = v.corrupt
  atCapacity : s.atCapacity = v.atCapacity
  evictedUnsent : s.evictedUnsent = v.evicted
  deviceFailed : s.deviceFailed = false
  writePosition : (v.media v.write).map List.length = some s.writePosition
  blockPresent : ∀ x, InRun v.oldest v.write x → s.blockPresent x = (v.media x).isSome
  readBlockSize : s.readBlockSizeKnown = true →
    v.oldest ≠ v.write ∧ (v.media v.oldest).map List.length = some s.readBlockSize

namespace BlockSequence.Agrees

variable {v : View} {s : BlockSequence}

theorem setAtCapacity (h : s.Agrees v) (atCapacity : Bool) :
    Agrees { v with atCapacity := atCapacity } { s with atCapacity := atCapacity } :=
  ⟨h.oldestSequence, h.readSequence, h.writeSequence, h.readCursor, h.writeBlockCorrupt, rfl,
    h.evictedUnsent, h.deviceFailed, h.writePosition, h.blockPresent, h.readBlockSize⟩

theorem setEvicted (h : s.Agrees v) (evicted : Bool) :
    Agrees { v with evicted := evicted } { s with evictedUnsent := evicted } :=
  ⟨h.oldestSequence, h.readSequence, h.writeSequence, h.readCursor, h.writeBlockCorrupt,
    h.atCapacity, rfl, h.deviceFailed, h.writePosition, h.blockPresent, h.readBlockSize⟩

theorem setCursor (h : s.Agrees v) (cursor : Nat) :
    Agrees { v with cursor := cursor } (s.setReadCursor cursor) :=
  ⟨h.oldestSequence, h.readSequence, h.writeSequence, rfl, h.writeBlockCorrupt, h.atCapacity,
    h.evictedUnsent, h.deviceFailed, h.writePosition, h.blockPresent, h.readBlockSize⟩

theorem markCorrupt (h : s.Agrees v) :
    Agrees { v with corrupt := true } s.markWriteBlockCorrupt :=
  ⟨h.oldestSequence, h.readSequence, h.writeSequence, h.readCursor, rfl, h.atCapacity,
    h.evictedUnsent, h.deviceFailed, h.writePosition, h.blockPresent, h.readBlockSize⟩

theorem traced (h : s.Agrees v) {event : Event} : s.Agrees (v.traced event) :=
  ⟨h.oldestSequence, h.readSequence, h.writeSequence, h.readCursor, h.writeBlockCorrupt,
    h.atCapacity, h.evictedUnsent, h.deviceFailed, h.writePosition, h.blockPresent,
    h.readBlockSize⟩

theorem appended (h : s.Agrees v) {bytes : Bytes} :
    Agrees (v.appended bytes)
      { s with writePosition := s.writePosition + bytes.length, atCapacity := false } where
  oldestSequence := h.oldestSequence
  readSequence := h.readSequence
  writeSequence := h.writeSequence
  readCursor := h.readCursor
  writeBlockCorrupt := h.writeBlockCorrupt
  atCapacity := rfl
  evictedUnsent := h.evictedUnsent
  deviceFailed := h.deviceFailed
  writePosition := by
    obtain ⟨content, hcontent, hlength⟩ := Option.map_eq_some_iff.1 h.writePosition
    simp [View.appended, Media.after, hcontent, hlength]
  blockPresent := fun x hx => (h.blockPresent x hx).trans (View.isSome_after_append ..).symm
  readBlockSize := by
    intro hknown
    obtain ⟨hne, hsize⟩ := h.readBlockSize hknown
    refine ⟨hne, ?_⟩
    rw [← hsize]
    simp [View.appended, Media.after, hne]

end BlockSequence.Agrees

namespace SequenceState

/-- The sequence is the one viewed. -/
structure Sees (media : σ → Media) (m₀ : Media) (v : View) (s : SequenceState σ) : Prop where
  wellFormed : v.WellFormed
  agrees : s.seq.Agrees v
  world : s.world.Shows media m₀ v.media v.trace

/-- A dispose of the oldest block of a view in `J` failed. -/
def Jammed (P : Platform σ) (media : σ → Media) (m₀ : Media) (J : View → Prop)
    (s : SequenceState σ) : Prop :=
  ¬ DisposesAlways P media ∧ s.seq.deviceFailed = true ∧
    ∃ v, J v ∧ v.WellFormed ∧
      s.world.Shows media m₀ v.media (v.trace ++ [.call (.dispose v.oldest) false])

end SequenceState

end SolidSyslog.Store
