import SolidSyslog.Store.Bounds.Trace
import SolidSyslog.Store.SentFlag.Parts
import SolidSyslog.Store.RunBoundaries

/-!
# The parts of the store within bounds

What the record store reads of a block lies within the block's data. What the block sequence keeps
of its sizes is what the trace says of them, and its search for the next block ends because the
write block is always there. Nothing here depends on what the device answers.
-/

namespace SolidSyslog.Store

open Lib

variable {σ : Type} {P : Platform σ} {C : Config} {G : Prop}

/-! ## The record store -/

theorem Config.recordSize_le_recordBufferSize {length : Nat}
    (h : length ≤ C.tunables.maxMessageSize) : C.recordSize length ≤ C.recordBufferSize := by
  have htrailer := C.trailerFits
  unfold recordSize recordBufferSize
  omega

/-- A record the policy can be asked about fits into the record buffer. -/
theorem Config.fitsBuffer_of_length {data : Bytes} {length : Nat}
    (h : data.length ≤ C.tunables.maxMessageSize) : C.FitsBuffer (header length ++ data) := by
  have hsize := C.recordSize_le_recordBufferSize h
  unfold recordSize at hsize
  unfold FitsBuffer
  rw [List.length_append, length_header, contentHeaderSize]
  omega

namespace RecordStore

variable {s : RecordState σ} {block : Sequence} {offset count dataSize length : Nat}

theorem readSpan_looks (C : Config) :
    Ensures (readSpan P block offset count dataSize) (fun outcome s' => s'.records = s.records ∧
      Extends (Event.LooksAt C block dataSize) s.world.trace s'.world.trace ∧
      ((∃ bytes, outcome = .ok (fit count bytes) ∧
          s'.world.trace = s.world.trace ++ [.call (.read block offset count) (some bytes)]) ∨
        outcome = .error .deviceFailed ∨
        (outcome = .error .corrupt ∧ dataSize < offset + count))) s := by
  unfold readSpan
  apply Ensures.ite
  · intro hwithin
    apply ensures_ask
    have hlooks : Extends (Event.LooksAt C block dataSize) s.world.trace
        (s.world.asked P (.read block offset count)).trace :=
      (Extends.refl _).concat ⟨rfl, hwithin⟩
    cases hanswer : (P.answer (.read block offset count) s.world.env).1 with
    | some bytes =>
      refine ⟨rfl, hlooks, .inl ⟨bytes, rfl, ?_⟩⟩
      change (s.world.asked P (.read block offset count)).trace = _
      rw [World.asked_trace, hanswer]
    | none => exact ⟨rfl, hlooks, .inr (.inl rfl)⟩
  · intro hbeyond
    exact ⟨rfl, .refl _, .inr (.inr ⟨rfl, Nat.lt_of_not_le hbeyond⟩)⟩

/-- A header was read and it is one. -/
def ReadsHeader (C : Config) (block : Sequence) (offset length : Nat) (t t' : List Event) : Prop :=
  ∃ bytes, C.validateHeader (fit contentHeaderSize bytes) = some length ∧
    t' = t ++ [.call (.read block offset contentHeaderSize) (some bytes)]

theorem readHeader_looks :
    Ensures (readHeader P C block offset dataSize) (fun outcome s' => s'.records = s.records ∧
      Extends (Event.LooksAt C block dataSize) s.world.trace s'.world.trace ∧
      ((∃ length, outcome = .ok length ∧ offset < dataSize ∧
          ReadsHeader C block offset length s.world.trace s'.world.trace) ∨
        outcome = .error .deviceFailed ∨ (outcome = .error .corrupt ∧ offset < dataSize) ∨
        (outcome = .error .endOfData ∧ dataSize ≤ offset))) s := by
  unfold readHeader
  apply Ensures.ite
  · intro hinside
    apply (readSpan_looks C).bind
    rintro _ s₁ ⟨hrecords, hlooks, ⟨bytes, rfl, htrace⟩ | rfl | ⟨rfl, -⟩⟩
    · dsimp only
      cases hheader : C.validateHeader (fit contentHeaderSize bytes) with
      | some length => exact ⟨hrecords, hlooks, .inl ⟨length, rfl, hinside, bytes, hheader, htrace⟩⟩
      | none => exact ⟨hrecords, hlooks, .inr (.inr (.inl ⟨rfl, hinside⟩))⟩
    · exact ⟨hrecords, hlooks, .inr (.inl rfl)⟩
    · exact ⟨hrecords, hlooks, .inr (.inr (.inl ⟨rfl, hinside⟩))⟩
  · intro hend
    exact ⟨rfl, .refl _, .inr (.inr (.inr ⟨rfl, Nat.le_of_not_lt hend⟩))⟩

theorem readRecordExtent_looks :
    Ensures (readRecordExtent P C block offset dataSize) (fun outcome s' =>
      s'.records = s.records ∧
      Extends (Event.LooksAt C block dataSize) s.world.trace s'.world.trace ∧
      ((∃ length, outcome = .ok length ∧ offset + C.recordSize length ≤ dataSize ∧
          ReadsHeader C block offset length s.world.trace s'.world.trace) ∨
        outcome = .error .deviceFailed ∨ (outcome = .error .corrupt ∧ offset < dataSize) ∨
        (outcome = .error .endOfData ∧ dataSize ≤ offset))) s := by
  unfold readRecordExtent
  apply readHeader_looks.bind
  rintro _ s₁ ⟨hrecords, hlooks, ⟨length, rfl, hinside, hheader⟩ | rfl | ⟨rfl, hinside⟩ |
    ⟨rfl, hend⟩⟩
  · dsimp only
    rw [ensures_pure]
    by_cases hfits : offset + C.recordSize length ≤ dataSize
    · rw [if_pos hfits]
      exact ⟨hrecords, hlooks, .inl ⟨length, rfl, hfits, hheader⟩⟩
    · rw [if_neg hfits]
      exact ⟨hrecords, hlooks, .inr (.inr (.inl ⟨rfl, hinside⟩))⟩
  · exact ⟨hrecords, hlooks, .inr (.inl rfl)⟩
  · exact ⟨hrecords, hlooks, .inr (.inr (.inl ⟨rfl, hinside⟩))⟩
  · exact ⟨hrecords, hlooks, .inr (.inr (.inr ⟨rfl, hend⟩))⟩

/-- The policy was asked about the record at an offset, whose message and tail had been read, and
gave no verdict. -/
def Undecided (C : Config) (block : Sequence) (offset length : Nat) (t t' : List Event) : Prop :=
  ∃ message tail content, t' = t ++
    [.call (.read block (offset + contentHeaderSize) length) (some message),
      .call (.read block (trailerOffset offset length) (C.trailerSize + 1)) (some tail),
      .call (.openRecord (header length ++ fit length message)
        ((fit (C.trailerSize + 1) tail).take C.trailerSize)) (.couldNotRun, content)]

theorem openRecord_looks {content trailer : Bytes} (hcontent : C.FitsBuffer content)
    (htrailer : trailer.length = C.trailerSize) :
    Ensures (openRecord P content trailer) (fun outcome s' => s'.records = s.records ∧
      Extends (Event.LooksAt C block dataSize) s.world.trace s'.world.trace ∧
      outcome.2.length = content.length - contentHeaderSize ∧
      (outcome.1 = .succeeded ∨ outcome.1 = .rejected ∨ (outcome.1 = .couldNotOpen ∧
        ∃ left, s'.world.trace =
          s.world.trace ++ [.call (.openRecord content trailer) (.couldNotRun, left)]))) s := by
  unfold openRecord
  apply ensures_ask
  have hlooks : Extends (Event.LooksAt C block dataSize) s.world.trace
      (s.world.asked P (.openRecord content trailer)).trace :=
    (Extends.refl _).concat ⟨hcontent, htrailer⟩
  have hlength : ((fit content.length (P.answer (.openRecord content trailer)
      s.world.env).1.2).drop contentHeaderSize).length = content.length - contentHeaderSize := by
    simp
  cases hverdict : (P.answer (.openRecord content trailer) s.world.env).1.1 with
  | opened => exact ⟨rfl, hlooks, hlength, .inl rfl⟩
  | rejected => exact ⟨rfl, hlooks, hlength, .inr (.inl rfl)⟩
  | couldNotRun =>
    refine ⟨rfl, hlooks, hlength, .inr (.inr ⟨rfl,
      (P.answer (.openRecord content trailer) s.world.env).1.2, ?_⟩)⟩
    change (s.world.asked P (.openRecord content trailer)).trace = _
    rw [World.asked_trace, ← hverdict]

theorem validateRecord_looks (hfits : offset + C.recordSize length ≤ dataSize)
    (hlength : length ≤ C.tunables.maxMessageSize) :
    Ensures (validateRecord P C block offset dataSize length) (fun outcome s' =>
      s'.records = s.records ∧
      Extends (Event.LooksAt C block dataSize) s.world.trace s'.world.trace ∧
      ((outcome.1 = .succeeded ∧ outcome.2.length = length) ∨ outcome.1 = .rejected ∨
        outcome.1 = .finishedWith ∨ outcome.1 = .deviceFailed ∨ (outcome.1 = .couldNotOpen ∧
          Undecided C block offset length s.world.trace s'.world.trace))) s := by
  have hsize : C.recordSize length = contentHeaderSize + length + C.trailerSize + 1 := by
    rw [Config.recordSize, contentHeaderSize]
  unfold validateRecord
  apply (readSpan_looks C).bind
  rintro _ s₁ ⟨hrecords₁, hlooks₁, ⟨message, rfl, htrace₁⟩ | rfl | ⟨rfl, hbeyond⟩⟩
  · dsimp only
    apply (readSpan_looks C).bind
    rintro _ s₂ ⟨hrecords₂, hlooks₂, ⟨tail, rfl, htrace₂⟩ | rfl | ⟨rfl, hbeyond⟩⟩
    · dsimp only
      have hlooks := hlooks₁.trans hlooks₂
      have hrecords := hrecords₂.trans hrecords₁
      apply Ensures.ite
      · intro _
        exact ⟨hrecords, hlooks, .inr (.inr (.inl rfl))⟩
      · intro _
        have hmessage : (fit length message).length ≤ C.tunables.maxMessageSize := by simpa
        apply (openRecord_looks (C.fitsBuffer_of_length hmessage) (by simp)).mono
        rintro outcome s' ⟨hrecords', hlooks', hlen, hresult⟩
        refine ⟨hrecords'.trans hrecords, hlooks.trans hlooks', ?_⟩
        rcases hresult with hopened | hrejected | ⟨hcould, left, htrace'⟩
        · refine .inl ⟨hopened, ?_⟩
          rw [hlen, List.length_append, length_header, length_fit, Nat.add_sub_cancel_left]
        · exact .inr (.inl hrejected)
        · refine .inr (.inr (.inr (.inr ⟨hcould, message, tail, left, ?_⟩)))
          rw [htrace', htrace₂, htrace₁, List.append_assoc, List.append_assoc]
          rfl
    · exact ⟨hrecords₂.trans hrecords₁, hlooks₁.trans hlooks₂, .inr (.inr (.inr (.inl rfl)))⟩
    · rw [trailerOffset] at hbeyond
      omega
  · exact ⟨hrecords₁, hlooks₁, .inr (.inr (.inr (.inl rfl)))⟩
  · omega

/-- What a read of the record at an offset found. -/
structure Looked (C : Config) (block : Sequence) (offset dataSize maxSize : Nat)
    (s : RecordState σ) (found : Found) (s' : RecordState σ) : Prop where
  looks : Extends (Event.LooksAt C block dataSize) s.world.trace s'.world.trace
  endOfData : found.result = .endOfData → dataSize ≤ offset
  extent : recordExtentIsKnown found.result = true →
    offset + C.recordSize found.length ≤ dataSize ∧
      s'.records = ⟨true, block, C.sentFlagOffset offset found.length⟩
  length : recordExtentIsKnown found.result = true →
    0 < found.length ∧ found.length ≤ C.tunables.maxMessageSize
  unknown : recordExtentIsKnown found.result = false → s'.records = s.records
  copied : found.bytes.length = if found.result = .succeeded then min maxSize found.length else 0
  undecided : found.result = .couldNotOpen → ∃ middle,
    ReadsHeader C block offset found.length s.world.trace middle ∧
      Undecided C block offset found.length middle s'.world.trace

theorem read_looked {maxSize : Nat} :
    Ensures (read P C block offset dataSize maxSize)
      (fun found s' => Looked C block offset dataSize maxSize s found s') s := by
  unfold read
  apply readRecordExtent_looks.bind
  rintro _ s₁ ⟨hrecords₁, hlooks₁, ⟨length, rfl, hfits, hheader⟩ | rfl | ⟨rfl, hinside⟩ |
    ⟨rfl, hend⟩⟩
  · dsimp only
    obtain ⟨bytes, hvalid, htrace₁⟩ := hheader
    have hlength := C.validateHeader_bounds hvalid
    apply (validateRecord_looks hfits hlength.2).bind
    rintro ⟨result, message⟩ s₂ ⟨hrecords₂, hlooks₂, hresult⟩
    have hlooks := hlooks₁.trans hlooks₂
    dsimp only at hresult ⊢
    rcases hresult with ⟨rfl, hmessage⟩ | rfl | rfl | rfl | ⟨rfl, hundecided⟩
    · refine ⟨hlooks, nofun, fun _ => ⟨hfits, rfl⟩, fun _ => hlength, nofun, ?_, nofun⟩
      change (message.take maxSize).length = min maxSize length
      rw [List.length_take, hmessage]
    · exact ⟨hlooks, nofun, fun _ => ⟨hfits, rfl⟩, fun _ => hlength, nofun, rfl, nofun⟩
    · exact ⟨hlooks, nofun, fun _ => ⟨hfits, rfl⟩, fun _ => hlength, nofun, rfl, nofun⟩
    · exact ⟨hlooks, nofun, nofun, nofun, fun _ => hrecords₂.trans hrecords₁, rfl, nofun⟩
    · exact ⟨hlooks, nofun, nofun, nofun, fun _ => hrecords₂.trans hrecords₁, rfl,
        fun _ => ⟨_, ⟨bytes, hvalid, htrace₁⟩, hundecided⟩⟩
  · exact ⟨hlooks₁, nofun, nofun, nofun, fun _ => hrecords₁, rfl, nofun⟩
  · exact ⟨hlooks₁, nofun, nofun, nofun, fun _ => hrecords₁, rfl, nofun⟩
  · exact ⟨hlooks₁, fun _ => hend, nofun, nofun, fun _ => hrecords₁, rfl, nofun⟩

theorem findFirstUnsentLoop_looks {blockSize cursor fuel : Nat} :
    Ensures (findFirstUnsentLoop P C block blockSize cursor fuel) (fun _ s' =>
      s'.records = s.records ∧
      Extends (Event.LooksAt C block blockSize) s.world.trace s'.world.trace) s := by
  induction fuel generalizing cursor s with
  | zero => exact ⟨rfl, .refl _⟩
  | succ fuel ih =>
    unfold findFirstUnsentLoop
    apply Ensures.ite
    · intro _
      apply readRecordExtent_looks.bind
      rintro _ s₁ ⟨hrecords₁, hlooks₁, ⟨length, rfl, hfits, -⟩ | rfl | ⟨rfl, -⟩ | ⟨rfl, -⟩⟩
      · dsimp only
        apply (readSpan_looks C).bind
        rintro _ s₂ ⟨hrecords₂, hlooks₂, ⟨flag, rfl, -⟩ | rfl | ⟨rfl, -⟩⟩
        · dsimp only
          apply Ensures.ite
          · intro _
            apply ih.mono
            rintro outcome s' ⟨hrecords', hlooks'⟩
            exact ⟨hrecords'.trans (hrecords₂.trans hrecords₁),
              hlooks₁.trans (hlooks₂.trans hlooks')⟩
          · intro _
            exact ⟨hrecords₂.trans hrecords₁, hlooks₁.trans hlooks₂⟩
        · exact ⟨hrecords₂.trans hrecords₁, hlooks₁.trans hlooks₂⟩
        · exact ⟨hrecords₂.trans hrecords₁, hlooks₁.trans hlooks₂⟩
      all_goals exact ⟨hrecords₁, hlooks₁⟩
    · intro _
      exact ⟨rfl, .refl _⟩

theorem scanToEndLoop_looks {blockSize position fuel : Nat} :
    Ensures (scanToEndLoop P C block blockSize position fuel) (fun _ s' =>
      s'.records = s.records ∧
      Extends (Event.LooksAt C block blockSize) s.world.trace s'.world.trace) s := by
  induction fuel generalizing position s with
  | zero => exact ⟨rfl, .refl _⟩
  | succ fuel ih =>
    unfold scanToEndLoop
    apply Ensures.ite
    · intro _
      apply readRecordExtent_looks.bind
      rintro _ s₁ ⟨hrecords₁, hlooks₁, ⟨length, rfl, hfits, -⟩ | rfl | ⟨rfl, -⟩ | ⟨rfl, -⟩⟩
      · dsimp only
        apply ih.mono
        rintro outcome s' ⟨hrecords', hlooks'⟩
        exact ⟨hrecords'.trans hrecords₁, hlooks₁.trans hlooks'⟩
      all_goals exact ⟨hrecords₁, hlooks₁⟩
    · intro _
      exact ⟨rfl, .refl _⟩

end RecordStore

/-! ## The block sequence -/

/-- An event that marks nothing, adds to no block and disposes of none but the given one. -/
def Event.Spares (spared : Sequence → Prop) : Event → Prop
  | .call (.acquire _) _ | .call (.append _ _) _ | .call (.writeAt _ _ _) _ => False
  | .call (.dispose block) _ => ¬ spared block
  | _ => True

theorem spares_of_plain {spared : Sequence → Prop} {event : Event} (h : event.isPlain = true) :
    event.Spares spared := by
  rcases event with ⟨request, answer⟩ | _ | _ | _ | _
  · cases request <;> trivial
  all_goals trivial

namespace BlockSequence

variable {s s' : SequenceState σ}

/-- The sequence reads its oldest block, knows its write block to be there and has the sizes right;
where `G` fails it may have the size of the block it reads wrong. -/
structure Grounded (P : Platform σ) (G : Prop) (C : Config) (s : SequenceState σ) : Prop where
  readsOldest : s.seq.readSequence = s.seq.oldestSequence
  present : s.seq.blockPresent s.seq.writeSequence = true
  position : sizesKnown s.world.trace s.seq.writeSequence = some s.seq.writePosition
  size : s.seq.readBlockSizeKnown = true → P.Tells s.seq.readBlockSize ∧
    (G → s.seq.readSequence ≠ s.seq.writeSequence ∧
      sizesKnown s.world.trace s.seq.readSequence = some s.seq.readBlockSize)
  calls : Always (WithinBounds P G C) s.world.trace

/-- The run, the cursor and the device are as they were. -/
structure Stays (s s' : BlockSequence) : Prop where
  oldestSequence : s'.oldestSequence = s.oldestSequence
  readSequence : s'.readSequence = s.readSequence
  writeSequence : s'.writeSequence = s.writeSequence
  readCursor : s'.readCursor = s.readCursor
  writePosition : s'.writePosition = s.writePosition
  deviceFailed : s'.deviceFailed = s.deviceFailed

theorem Stays.refl (s : BlockSequence) : Stays s s :=
  ⟨rfl, rfl, rfl, rfl, rfl, rfl⟩

/-- Plain events and a change of other fields leave a sequence grounded. -/
theorem Grounded.plain (h : Grounded P G C s) (hstays : Stays s.seq s'.seq)
    (hpresent : s'.seq.blockPresent = s.seq.blockPresent)
    (hsize : s'.seq.readBlockSizeKnown = true → s.seq.readBlockSizeKnown = true ∧
      s'.seq.readBlockSize = s.seq.readBlockSize)
    (htrace : Extends (Event.isPlain · = true) s.world.trace s'.world.trace) :
    Grounded P G C s' := by
  have hknown : sizesKnown s'.world.trace = sizesKnown s.world.trace :=
    htrace.fold_eq fun known _ hplain => learn_of_plain hplain known
  constructor
  · rw [hstays.readSequence, hstays.oldestSequence, h.readsOldest]
  · rw [hpresent, hstays.writeSequence, h.present]
  · rw [hknown, hstays.writeSequence, hstays.writePosition, h.position]
  · intro hread
    rw [hknown, hstays.readSequence, hstays.writeSequence, (hsize hread).2]
    exact h.size (hsize hread).1
  · exact htrace.always h.calls fun before _ _ hplain => withinBounds_of_plain hplain before

/-- What the notice of a crossed threshold changes. -/
structure Notified (s s' : SequenceState σ) : Prop where
  stays : Stays s.seq s'.seq
  blockPresent : s'.seq.blockPresent = s.seq.blockPresent
  readBlockSizeKnown : s'.seq.readBlockSizeKnown = s.seq.readBlockSizeKnown
  readBlockSize : s'.seq.readBlockSize = s.seq.readBlockSize
  trace : Extends (Event.isPlain · = true) s.world.trace s'.world.trace

theorem Notified.grounded (h : Notified s s') (hs : Grounded P G C s) : Grounded P G C s' :=
  hs.plain h.stays h.blockPresent
    (fun hknown => ⟨h.readBlockSizeKnown ▸ hknown, h.readBlockSize⟩) h.trace

theorem notifyThresholdCrossed_notified (s : SequenceState σ) :
    Ensures (notifyThresholdCrossed P C) (fun _ s' => Notified s s') s := by
  apply notifyThresholdCrossed_keeps (I := fun t => Notified s t)
  · exact ⟨.refl _, rfl, rfl, rfl, .refl _⟩
  · intro t crossed ht
    exact ⟨⟨ht.stays.oldestSequence, ht.stays.readSequence, ht.stays.writeSequence,
      ht.stays.readCursor, ht.stays.writePosition, ht.stays.deviceFailed⟩, ht.blockPresent,
      ht.readBlockSizeKnown, ht.readBlockSize, ht.trace⟩
  · intro t request hrequest ht
    refine ⟨ht.stays, ht.blockPresent, ht.readBlockSizeKnown, ht.readBlockSize,
      ht.trace.concat ?_⟩
    rcases hrequest with rfl | rfl | rfl <;> rfl

/-- The size of the read block, as far as the sequence knows it without asking. -/
def readable (s : BlockSequence) : Option Nat :=
  if s.isReadBlockActiveWrite then some s.writePosition
  else if s.readBlockSizeKnown then some s.readBlockSize
  else none

theorem isReadBlockActiveWrite_iff {s : BlockSequence} :
    s.isReadBlockActiveWrite = true ↔ s.readSequence = s.writeSequence := by
  simp [isReadBlockActiveWrite]

theorem readIsBehindWrite_iff {s : BlockSequence} :
    s.readIsBehindWrite = true ↔ s.readSequence ≠ s.writeSequence := by
  simp [readIsBehindWrite]

theorem Grounded.readable_known (h : Grounded P G C s) {size : Nat}
    (hsize : s.seq.readable = some size) (hG : G) :
    sizesKnown s.world.trace s.seq.readSequence = some size := by
  unfold readable at hsize
  split at hsize
  · next hactive =>
    rw [isReadBlockActiveWrite_iff.1 hactive, h.position, hsize]
  · split at hsize
    · next hknown => rw [((h.size hknown).2 hG).2, hsize]
    · cases hsize

/-- The sequence asked for the size of its read block, or had it. -/
structure SizeAsked (C : Config) (size : Option Nat) (s s' : SequenceState σ) : Prop where
  trace : Extends (Event.Spares fun _ => True) s.world.trace s'.world.trace
  stays : size ≠ none → Stays s.seq s'.seq
  readable : size ≠ none → s'.seq.readable = size
  known : s.seq.readable ≠ none → s'.seq.readable = s.seq.readable
  writePosition : s'.seq.writePosition = s.seq.writePosition
  failed : size = none → s'.seq.deviceFailed = true

theorem readBlockSizeOf_grounded (h : Grounded P G C s) :
    Ensures (readBlockSizeOf P) (fun size s' => Grounded P G C s' ∧ SizeAsked C size s s') s := by
  unfold readBlockSizeOf
  rw [ensures_bind, ensures_seq]
  apply Ensures.ite
  · intro hactive
    exact ⟨h, .refl _, fun _ => .refl _, fun _ => if_pos hactive, fun _ => rfl, rfl, nofun⟩
  · intro hother
    apply Ensures.ite
    · intro hknown
      refine ⟨h, .refl _, fun _ => .refl _, fun _ => ?_, fun _ => rfl, rfl, nofun⟩
      exact (if_neg hother).trans (if_pos hknown)
    · intro hunknown
      have hnone : s.seq.readable = none := by
        unfold readable
        rw [if_neg hother, if_neg hunknown]
      have hne : s.seq.writeSequence ≠ s.seq.readSequence := fun heq =>
        hother (isReadBlockActiveWrite_iff.2 heq.symm)
      apply ensures_ask
      have hspares : Extends (Event.Spares fun _ => True) s.world.trace
          (s.world.asked P (.size s.seq.readSequence)).trace :=
        (Extends.refl _).concat trivial
      have hcalls : Always (WithinBounds P G C)
        (s.world.asked P (.size s.seq.readSequence)).trace :=
        h.calls.concat fun size hsome => ⟨_, _, hsome⟩
      cases hanswer : (P.answer (.size s.seq.readSequence) s.world.env).1 with
      | some size =>
        simp only [ensures_bind, ensures_setSeq, ensures_pure]
        have hsizes : sizesKnown (s.world.asked P (.size s.seq.readSequence)).trace =
            Function.update (sizesKnown s.world.trace) s.seq.readSequence (some size) := by
          rw [World.asked_trace, sizesKnown_concat, hanswer]
          rfl
        refine ⟨⟨h.readsOldest, h.present, ?_, fun _ => ⟨⟨_, _, hanswer⟩, fun _ => ⟨hne.symm, ?_⟩⟩,
          hcalls⟩, hspares,
          fun _ => ⟨rfl, rfl, rfl, rfl, rfl, rfl⟩, fun _ => ?_, fun hsome => absurd hnone hsome,
          rfl, nofun⟩
        · dsimp only
          rw [hsizes, Function.update_of_ne hne, h.position]
        · dsimp only
          rw [hsizes, Function.update_self]
        · exact (if_neg hother).trans (if_pos rfl)
      | none =>
        simp only [ensures_bind, ensures_setSeq, ensures_pure]
        have hsizes : sizesKnown (s.world.asked P (.size s.seq.readSequence)).trace =
            sizesKnown s.world.trace := by
          rw [World.asked_trace, sizesKnown_concat, hanswer]
          rfl
        refine ⟨⟨?_, ?_, ?_, fun hread => ?_, hcalls⟩, hspares, fun hsome => absurd rfl hsome,
          fun hsome => absurd rfl hsome, fun hsome => absurd hnone hsome, by simp, fun _ => by simp⟩
        · simpa using h.readsOldest
        · unfold noteDeviceFailure
          split <;> exact h.present
        · unfold noteDeviceFailure
          dsimp only
          rw [hsizes]
          split <;> exact h.position
        · unfold noteDeviceFailure at hread
          split at hread <;> cases hread

/-- The search for the next block ends at the write block, if not before it. -/
theorem nextPresentSequence_ends {current : Sequence}
    (hpresent : s.seq.blockPresent s.seq.writeSequence = true)
    (hne : s.seq.writeSequence ≠ current) :
    Ensures (nextPresentSequence current) (fun next s' => s' = s ∧
      ahead next s.seq.writeSequence < ahead current s.seq.writeSequence) s := by
  obtain ⟨next, hnext, -, hle, -⟩ := nextPresent_eq hpresent
    (ahead_lt (nextSequence current) s.seq.writeSequence)
  unfold nextPresentSequence
  rw [ensures_bind, ensures_seq, hnext]
  refine ⟨rfl, ?_⟩
  have hstep : ahead (nextSequence current) s.seq.writeSequence + 1 =
      ahead current s.seq.writeSequence := ahead_from_next hne
  have hadd := ahead_add (nextSequence current) next s.seq.writeSequence
  have hlt := ahead_lt next s.seq.writeSequence
  change ahead next s.seq.writeSequence < _
  omega

theorem sizesKnown_disposed {w : World σ} {block : Sequence}
    (hanswer : (P.answer (.dispose block) w.env).1 = true) :
    sizesKnown (w.asked P (.dispose block)).trace =
      Function.update (sizesKnown w.trace) block none := by
  rw [World.asked_trace, sizesKnown_concat, hanswer]
  rfl

theorem sizesKnown_refused {w : World σ} {block : Sequence}
    (hanswer : (P.answer (.dispose block) w.env).1 = false) :
    sizesKnown (w.asked P (.dispose block)).trace = sizesKnown w.trace := by
  rw [World.asked_trace, sizesKnown_concat, hanswer]
  rfl

/-- A failure noted changes nothing a sequence is grounded on. -/
theorem Grounded.noteDeviceFailure (h : Grounded P G C s) (error : BlockStoreError) :
    Grounded P G C { s with seq := s.seq.noteDeviceFailure error } := by
  unfold BlockSequence.noteDeviceFailure
  split
  · exact h
  · exact ⟨h.readsOldest, h.present, h.position, h.size, h.calls⟩

/-- A dispose that failed. -/
theorem Grounded.refused (h : Grounded P G C s) {block : Sequence}
    (hanswer : (P.answer (.dispose block) s.world.env).1 = false) :
    Grounded P G C ⟨s.seq, s.world.asked P (.dispose block)⟩ := by
  have hsizes := sizesKnown_refused hanswer
  refine ⟨h.readsOldest, h.present, ?_, ?_, h.calls.concat trivial⟩
  · dsimp only
    rw [hsizes, h.position]
  · dsimp only
    rw [hsizes]
    exact h.size

/-- The oldest block, which is not the one written, was disposed of and the next is read. -/
theorem Grounded.dropped (h : Grounded P G C s) (hne : s.seq.writeSequence ≠ s.seq.readSequence)
    (hanswer : (P.answer (.dispose s.seq.readSequence) s.world.env).1 = true) {next : Sequence}
    {atCapacity evictedUnsent : Bool} :
    Grounded P G C
      ⟨{ s.seq with
          blockPresent := Function.update s.seq.blockPresent s.seq.readSequence false
          oldestSequence := next
          readSequence := next
          readCursor := 0
          readBlockSizeKnown := false
          atCapacity := atCapacity
          evictedUnsent := evictedUnsent },
        (s.world.asked P (.dispose s.seq.readSequence)).noted (.run next s.seq.writeSequence)⟩ := by
  have hsizes := sizesKnown_disposed hanswer
  have hcalls : Always (WithinBounds P G C) (s.world.asked P (.dispose s.seq.readSequence)).trace :=
    h.calls.concat trivial
  refine ⟨rfl, ?_, ?_, nofun, hcalls.concat trivial⟩
  · dsimp only
    rw [Function.update_of_ne hne, h.present]
  · dsimp only
    rw [World.noted_trace, sizesKnown_concat, hsizes]
    exact (Function.update_of_ne hne ..).trans h.position

/-- The read block was left for one nearer the write block. -/
structure Left (s s' : SequenceState σ) : Prop where
  writeSequence : s'.seq.writeSequence = s.seq.writeSequence
  writePosition : s'.seq.writePosition = s.seq.writePosition
  deviceFailed : s'.seq.deviceFailed = s.seq.deviceFailed
  nearer : ahead s'.seq.readSequence s.seq.writeSequence <
    ahead s.seq.readSequence s.seq.writeSequence
  trace : Extends (Event.Spares (· ≠ s.seq.readSequence)) s.world.trace s'.world.trace

theorem advancePastDisposedReadBlock_grounded (h : Grounded P G C s)
    (hne : s.seq.writeSequence ≠ s.seq.readSequence)
    (hanswer : (P.answer (.dispose s.seq.readSequence) s.world.env).1 = true) :
    Ensures (advancePastDisposedReadBlock P C) (fun _ s' => Grounded P G C s' ∧ Left s s')
      ⟨{ s.seq with
          blockPresent := Function.update s.seq.blockPresent s.seq.readSequence false },
        s.world.asked P (.dispose s.seq.readSequence)⟩ := by
  have hpresent : Function.update s.seq.blockPresent s.seq.readSequence false
      s.seq.writeSequence = true := by
    rw [Function.update_of_ne hne, h.present]
  unfold advancePastDisposedReadBlock
  rw [ensures_bind, ensures_seq]
  apply (nextPresentSequence_ends hpresent (h.readsOldest ▸ hne)).bind
  rintro next _ ⟨rfl, hnearer⟩
  simp only [ensures_bind, ensures_setSeq, ensures_noteRun]
  apply (notifyThresholdCrossed_notified _).mono
  intro _ s' hnotified
  refine ⟨hnotified.grounded (h.dropped hne hanswer), hnotified.stays.writeSequence,
    hnotified.stays.writePosition, hnotified.stays.deviceFailed, ?_, ?_⟩
  · rw [hnotified.stays.readSequence, h.readsOldest]
    exact hnearer
  · have hdisposed : Extends (Event.Spares (· ≠ s.seq.readSequence)) s.world.trace
        (s.world.asked P (.dispose s.seq.readSequence)).trace :=
      (Extends.refl _).concat (not_not.2 rfl)
    have hrun : Extends (Event.Spares (· ≠ s.seq.readSequence)) s.world.trace
        ((s.world.asked P (.dispose s.seq.readSequence)).noted
          (.run next s.seq.writeSequence)).trace :=
      hdisposed.concat trivial
    exact hrun.trans (hnotified.trace.mono fun _ => spares_of_plain)

theorem disposeReadBlock_grounded (h : Grounded P G C s)
    (hne : s.seq.writeSequence ≠ s.seq.readSequence) :
    Ensures (disposeReadBlock P C) (fun disposed s' => Grounded P G C s' ∧
      s'.seq.writePosition = s.seq.writePosition ∧
      (disposed = true → Left s s') ∧ (disposed = false → s'.seq.deviceFailed = true)) s := by
  unfold disposeReadBlock
  rw [ensures_bind, ensures_seq, ensures_bind]
  apply ensures_disposeBlock
  · intro hanswer
    apply (advancePastDisposedReadBlock_grounded h hne hanswer).bind
    rintro _ s' ⟨hgrounded, hleft⟩
    exact ⟨hgrounded, hleft.writePosition, fun _ => hleft, nofun⟩
  · intro hanswer
    exact ⟨(h.refused hanswer).noteDeviceFailure _, noteDeviceFailure_writePosition _ _, nofun,
      fun _ => noteDeviceFailure_deviceFailed _ _⟩

theorem disposeReadBlockIfDrained_grounded (h : Grounded P G C s) :
    Ensures (disposeReadBlockIfDrained P C) (fun _ s' => Grounded P G C s' ∧
      s'.seq.writePosition = s.seq.writePosition) s := by
  unfold disposeReadBlockIfDrained
  rw [ensures_bind, ensures_seq]
  apply Ensures.ite
  · intro _
    exact ⟨h, rfl⟩
  · intro hother
    apply (readBlockSizeOf_grounded h).bind
    rintro size s₁ ⟨h₁, hasked⟩
    cases size with
    | none => exact ⟨h₁, hasked.writePosition⟩
    | some size =>
      dsimp only
      rw [ensures_bind, ensures_seq]
      apply Ensures.ite
      · intro _
        have hstays := hasked.stays nofun
        apply (disposeReadBlock_grounded h₁ ?_).mono
        · rintro disposed s₂ ⟨h₂, hposition, -⟩
          exact ⟨h₂, hposition.trans hasked.writePosition⟩
        · rw [hstays.writeSequence, hstays.readSequence]
          exact fun heq => hother (isReadBlockActiveWrite_iff.2 heq.symm)
      · intro _
        exact ⟨h₁, hasked.writePosition⟩

theorem discardOldestBlock_grounded (h : Grounded P G C s)
    (hne : s.seq.writeSequence ≠ s.seq.readSequence) :
    Ensures (discardOldestBlock P) (fun _ s' => Grounded P G C s' ∧
      s'.seq.writePosition = s.seq.writePosition) s := by
  unfold discardOldestBlock
  rw [ensures_bind, ensures_seq, ← h.readsOldest, ensures_bind]
  apply ensures_disposeBlock
  · intro hanswer
    have hpresent : Function.update s.seq.blockPresent s.seq.readSequence false
        s.seq.writeSequence = true := by
      rw [Function.update_of_ne hne, h.present]
    rw [if_pos rfl, ensures_bind, ensures_setSeq, ensures_bind, ensures_seq]
    apply (nextPresentSequence_ends hpresent (h.readsOldest ▸ hne)).bind
    rintro next _ ⟨rfl, -⟩
    exact ⟨h.dropped hne hanswer, rfl⟩
  · intro hanswer
    exact ⟨(h.refused hanswer).noteDeviceFailure _, noteDeviceFailure_writePosition _ _⟩

/-! ### Writing -/

/-- A block other than the write block, and other than the read block where `G` holds. -/
def IsSpare (G : Prop) (s : BlockSequence) (block : Sequence) : Prop :=
  s.writeSequence ≠ block ∧ (G → s.readSequence ≠ block)

/-- What the device answers about a block other than those the sequence has sizes of. -/
theorem Grounded.touched (h : Grounded P G C s) {block : Sequence} (hspare : IsSpare G s.seq block)
    {present : Sequence → Bool} (hpresent : ∀ x, x ≠ block → present x = s.seq.blockPresent x)
    {w : World σ}
    (hsizes : ∀ x, x ≠ block → sizesKnown w.trace x = sizesKnown s.world.trace x)
    (hcalls : Always (WithinBounds P G C) w.trace) :
    Grounded P G C ⟨{ s.seq with blockPresent := present }, w⟩ := by
  refine ⟨h.readsOldest, ?_, ?_, fun hknown => ⟨(h.size hknown).1, fun hG => ?_⟩, hcalls⟩
  · dsimp only
    rw [hpresent _ hspare.1, h.present]
  · dsimp only
    rw [hsizes _ hspare.1, h.position]
  · dsimp only
    rw [hsizes _ (hspare.2 hG)]
    exact (h.size hknown).2 hG

theorem disposeBlock_grounded (h : Grounded P G C s) {block : Sequence}
    (hspare : IsSpare G s.seq block) :
    Ensures (disposeBlock P block) (fun _ s' => Grounded P G C s' ∧ Stays s.seq s'.seq) s := by
  apply ensures_disposeBlock
  · intro hanswer
    refine ⟨h.touched hspare (fun x hx => Function.update_of_ne hx ..) (fun x hx => ?_)
      (h.calls.concat trivial), rfl, rfl, rfl, rfl, rfl, rfl⟩
    rw [sizesKnown_disposed hanswer, Function.update_of_ne hx]
  · intro hanswer
    exact ⟨h.refused hanswer, .refl _⟩

/-- The block is there and empty. -/
structure Fresh (block : Sequence) (s : SequenceState σ) : Prop where
  present : s.seq.blockPresent block = true
  empty : sizesKnown s.world.trace block = some 0

theorem acquireBlock_grounded (h : Grounded P G C s) {block : Sequence}
    (hspare : IsSpare G s.seq block) :
    Ensures (acquireBlock P block) (fun acquired s' => Grounded P G C s' ∧ Stays s.seq s'.seq ∧
      (acquired = true → Fresh block s')) s := by
  apply ensures_acquireBlock
  · intro hanswer
    have hsizes : sizesKnown (s.world.asked P (.acquire block)).trace =
        Function.update (sizesKnown s.world.trace) block (some 0) := by
      rw [World.asked_trace, sizesKnown_concat, hanswer]
      rfl
    refine ⟨h.touched hspare (fun x hx => Function.update_of_ne hx ..) (fun x hx => ?_)
      (h.calls.concat trivial), ⟨rfl, rfl, rfl, rfl, rfl, rfl⟩,
      fun _ => ⟨Function.update_self .., ?_⟩⟩
    · rw [hsizes, Function.update_of_ne hx]
    · rw [hsizes, Function.update_self]
  · intro hanswer
    have hsizes : sizesKnown (s.world.asked P (.acquire block)).trace =
        sizesKnown s.world.trace := by
      rw [World.asked_trace, sizesKnown_concat, hanswer]
      rfl
    refine ⟨h.touched hspare (fun x _ => rfl) (fun x _ => by rw [hsizes])
      (h.calls.concat trivial), .refl _, nofun⟩

theorem acquireEmptyBlock_grounded (h : Grounded P G C s) {block : Sequence}
    (hspare : IsSpare G s.seq block) :
    Ensures (acquireEmptyBlock P block) (fun acquired s' => Grounded P G C s' ∧
      (acquired = true → Stays s.seq s'.seq ∧ Fresh block s')) s := by
  unfold acquireEmptyBlock
  apply ensures_ask
  have hasked : Grounded P G C { s with world := s.world.asked P (.blockExists block) } :=
    h.plain (.refl _) rfl (fun hknown => ⟨hknown, rfl⟩) ((Extends.refl _).concat rfl)
  have hcleared : Ensures
      (if (P.answer (.blockExists block) s.world.env).1 then disposeBlock P block else pure true)
      (fun _ s' => Grounded P G C s' ∧ Stays s.seq s'.seq)
      { s with world := s.world.asked P (.blockExists block) } := by
    apply Ensures.ite
    · intro _
      exact disposeBlock_grounded hasked hspare
    · intro _
      exact ⟨hasked, .refl _⟩
  apply Ensures.bind hcleared
  rintro cleared s₁ ⟨h₁, hstays₁⟩
  apply Ensures.ite
  · intro _
    have hspare₁ : IsSpare G s₁.seq block := by
      unfold IsSpare
      rw [hstays₁.writeSequence, hstays₁.readSequence]
      exact hspare
    apply (acquireBlock_grounded h₁ hspare₁).bind
    rintro acquired s₂ ⟨h₂, hstays₂, hfresh⟩
    cases acquired with
    | true =>
      refine ⟨h₂, fun _ => ⟨⟨?_, ?_, ?_, ?_, ?_, ?_⟩, ⟨(hfresh rfl).present, (hfresh rfl).empty⟩⟩⟩
      · exact hstays₂.oldestSequence.trans hstays₁.oldestSequence
      · exact hstays₂.readSequence.trans hstays₁.readSequence
      · exact hstays₂.writeSequence.trans hstays₁.writeSequence
      · exact hstays₂.readCursor.trans hstays₁.readCursor
      · exact hstays₂.writePosition.trans hstays₁.writePosition
      · exact hstays₂.deviceFailed.trans hstays₁.deviceFailed
    | false => exact ⟨h₂.noteDeviceFailure _, nofun⟩
  · intro _
    exact ⟨h₁.noteDeviceFailure _, nofun⟩

theorem writeSequence_ne_of_exceeds {q : BlockSequence} (h : q.exceedsMaxBlocks C = true) :
    q.writeSequence ≠ q.oldestSequence := by
  intro heq
  have hcount : C.maxBlocks < q.blockCount := by simpa [exceedsMaxBlocks] using h
  rw [blockCount, heq, ahead_self] at hcount
  have htwo := C.two_le_maxBlocks
  omega

theorem nextSequence_ne (x : Sequence) : x ≠ nextSequence x := by
  revert x
  decide

/-- The write moves on to a block that is there and empty. -/
theorem Grounded.advanced (h : Grounded P G C s) {next : Sequence} (hfresh : Fresh next s)
    (hother : G → s.seq.readSequence ≠ next) :
    Grounded P G C
      ⟨{ s.seq.advanceWriteToNewBlock next with evictedUnsent := false },
        s.world.noted (.run s.seq.oldestSequence next)⟩ := by
  have hsizes : sizesKnown (s.world.noted (.run s.seq.oldestSequence next)).trace =
      sizesKnown s.world.trace := by
    rw [World.noted_trace, sizesKnown_concat]
    rfl
  refine ⟨h.readsOldest, hfresh.present, ?_,
    fun hknown => ⟨(h.size hknown).1, fun hG => ⟨hother hG, ?_⟩⟩, h.calls.concat trivial⟩
  · dsimp only
    rw [hsizes]
    exact hfresh.empty
  · dsimp only
    rw [hsizes]
    exact ((h.size hknown).2 hG).2

theorem rotateToNextBlock_grounded (h : Grounded P G C s)
    (hother : G → nextSequence s.seq.writeSequence ≠ s.seq.readSequence) :
    Ensures (rotateToNextBlock P C) (fun rotated s' => Grounded P G C s' ∧
      (rotated.1 = true → s'.seq.writePosition = 0)) s := by
  unfold rotateToNextBlock
  rw [ensures_bind, ensures_seq]
  apply (acquireEmptyBlock_grounded h
    ⟨nextSequence_ne _, fun hG => (hother hG).symm⟩).bind
  rintro acquired s₁ ⟨h₁, hacquired⟩
  apply Ensures.ite
  · intro htrue
    obtain ⟨hstays, hfresh⟩ := hacquired htrue
    simp only [ensures_bind, ensures_setSeq, ensures_noteRun]
    have hadvanced := h₁.advanced hfresh fun hG => by
      rw [hstays.readSequence]
      exact (hother hG).symm
    apply (disposeReadBlockIfDrained_grounded hadvanced).mono
    rintro drained s₂ ⟨h₂, hposition₂⟩
    simp only [ensures_seq]
    apply Ensures.ite
    · intro hexceeds
      have hne : s₂.seq.writeSequence ≠ s₂.seq.readSequence := by
        rw [h₂.readsOldest]
        rw [Bool.and_eq_true] at hexceeds
        exact writeSequence_ne_of_exceeds hexceeds.2
      apply (discardOldestBlock_grounded h₂ hne).bind
      rintro evicted s₃ ⟨h₃, hposition₃⟩
      exact ⟨h₃, fun _ => hposition₃.trans hposition₂⟩
    · intro _
      exact ⟨h₂, fun _ => hposition₂⟩
  · intro _
    exact ⟨h₁, nofun⟩

theorem storeIsFull_grounded (h : Grounded P G C s) :
    Ensures (storeIsFull P C) (fun full s' => Grounded P G C s' ∧ s'.seq = s.seq ∧
      (full = false → s.seq.blockCount < C.maxBlocks ∨
        (P.answer .getDiscardPolicy s.world.env).1 = .oldest)) s := by
  unfold storeIsFull
  rw [ensures_bind, ensures_seq]
  apply Ensures.ite
  · intro _
    apply ensures_ask
    refine ⟨h.plain (.refl _) rfl (fun hknown => ⟨hknown, rfl⟩) ((Extends.refl _).concat rfl), rfl,
      fun hroom => .inr ?_⟩
    change ((P.answer .getDiscardPolicy s.world.env).1 != .oldest) = false at hroom
    simpa using hroom
  · intro hfewer
    exact ⟨h, rfl, fun _ => .inl (Nat.lt_of_not_le hfewer)⟩

theorem next_ne_of_few {q : BlockSequence} (h : q.blockCount < C.maxBlocks) :
    nextSequence q.writeSequence ≠ q.oldestSequence := by
  intro heq
  rw [blockCount_of_next_eq_oldest heq] at h
  exact absurd (h.trans_le C.maxBlocks_le) (by decide)

theorem le_of_not_blockIsFull {q : BlockSequence} {recordSize : Nat}
    (h : ¬ q.blockIsFull C recordSize = true) : q.writePosition + recordSize ≤ C.maxBlockSize := by
  simp only [blockIsFull, Bool.or_eq_true, decide_eq_true_eq, not_or, Nat.not_lt] at h
  exact h.2

theorem prepareForWrite_grounded (h : Grounded P G C s) {recordSize : Nat}
    (hfits : recordSize ≤ C.maxBlockSize) (hother : G → ¬ StartsOver P C s recordSize) :
    Ensures (prepareForWrite P C recordSize) (fun prepared s' => Grounded P G C s' ∧
      (prepared.1 = true → s'.seq.writePosition + recordSize ≤ C.maxBlockSize)) s := by
  unfold prepareForWrite
  rw [ensures_bind, ensures_seq]
  apply Ensures.ite
  · intro hfull
    apply (storeIsFull_grounded h).bind
    rintro full s₁ ⟨h₁, hseq, hroom⟩
    apply Ensures.ite
    · intro _
      rw [ensures_bind, ensures_setSeq, ensures_bind]
      apply (notifyThresholdCrossed_notified _).mono
      intro _ s' hnotified
      exact ⟨hnotified.grounded ⟨h₁.readsOldest, h₁.present, h₁.position, h₁.size, h₁.calls⟩, nofun⟩
    · intro hnotFull
      apply (rotateToNextBlock_grounded h₁ ?_).mono
      · rintro rotated s₂ ⟨h₂, hposition⟩
        refine ⟨h₂, fun hrotated => ?_⟩
        rw [hposition hrotated, Nat.zero_add]
        exact hfits
      · intro hG heq
        rw [hseq] at heq
        rcases hroom (by simpa using hnotFull) with hfew | hpolicy
        · exact next_ne_of_few hfew (heq.trans h.readsOldest)
        · exact hother hG ⟨hfull, heq, hpolicy⟩
  · intro hroom
    exact ⟨h, fun _ => le_of_not_blockIsFull hroom⟩

/-- A record was appended to the write block. -/
theorem noteRecordWritten_grounded (h : Grounded P G C s) (recordSize : Nat) {w : World σ}
    (hsizes : sizesKnown w.trace = Function.update (sizesKnown s.world.trace) s.seq.writeSequence
      (some (s.seq.writePosition + recordSize)))
    (hcalls : Always (WithinBounds P G C) w.trace) :
    Ensures (noteRecordWritten P C recordSize) (fun _ s' => Grounded P G C s' ∧
      s'.seq.deviceFailed = s.seq.deviceFailed) ⟨s.seq, w⟩ := by
  unfold noteRecordWritten
  simp only [ensures_bind, ensures_setSeq]
  apply (notifyThresholdCrossed_notified _).mono
  intro _ s' hnotified
  refine ⟨hnotified.grounded ⟨h.readsOldest, h.present, ?_,
    fun hknown => ⟨(h.size hknown).1, fun hG => ?_⟩, hcalls⟩, hnotified.stays.deviceFailed⟩
  · dsimp only
    rw [hsizes, Function.update_self]
  · obtain ⟨hne, hsize⟩ := (h.size hknown).2 hG
    refine ⟨hne, ?_⟩
    dsimp only
    rw [hsizes, Function.update_of_ne hne, hsize]

/-! ### Opening -/

theorem scanForBlockPresence_present {numbers : List Sequence} (hnodup : numbers.Nodup)
    {lastPresent : Option Sequence}
    (hlast : ∀ x, lastPresent = some x → s.seq.blockPresent x = true ∧ x ∉ numbers) :
    Ensures (scanForBlockPresence P lastPresent numbers) (fun last s' =>
      (∃ present, s'.seq = { s.seq with blockPresent := present } ∧
        ∀ x, last = some x → present x = true) ∧
      Extends (Event.isPlain · = true) s.world.trace s'.world.trace) s := by
  induction numbers generalizing lastPresent s with
  | nil => exact ⟨⟨s.seq.blockPresent, rfl, fun x hx => (hlast x hx).1⟩, .refl _⟩
  | cons block rest ih =>
    obtain ⟨hnew, hrest⟩ := List.nodup_cons.1 hnodup
    unfold scanForBlockPresence
    apply ensures_ask
    rw [ensures_bind, ensures_setSeq]
    apply (ih hrest ?_).mono
    · rintro last s' ⟨⟨present, hseq, hsome⟩, htrace⟩
      have hasked : Extends (Event.isPlain · = true) s.world.trace
          (s.world.asked P (.blockExists block)).trace := (Extends.refl _).concat rfl
      exact ⟨⟨present, hseq, hsome⟩, hasked.trans htrace⟩
    · intro x hx
      dsimp only
      by_cases hanswer : (P.answer (.blockExists block) s.world.env).1 = true
      · rw [if_pos hanswer, Option.some.injEq] at hx
        subst hx
        rw [Function.update_self]
        exact ⟨hanswer, hnew⟩
      · rw [if_neg hanswer] at hx
        obtain ⟨hpresent, hout⟩ := hlast x hx
        have hne : x ≠ block := fun heq => hout (heq ▸ List.mem_cons_self)
        rw [Function.update_of_ne hne]
        exact ⟨hpresent, fun hmem => hout (List.mem_cons_of_mem _ hmem)⟩

/-- The run a restart finds ends in a block that is there. -/
theorem locateRunBoundaries_write {present : Sequence → Bool} {lastPresent : Sequence}
    (hlast : present lastPresent = true) :
    present (locateRunBoundaries present lastPresent).2 = true := by
  by_cases hfull : ∀ x, present x = true
  · rw [locateRunBoundaries_of_full hfull]
    exact hfull _
  · push Not at hfull
    obtain ⟨absent, habsent⟩ := hfull
    exact (locateRunBoundaries_spec hlast (by simpa using habsent)).2.1

theorem scanForExistingBlocks_present (hs : s.seq = initial) :
    Ensures (scanForExistingBlocks P) (fun found s' =>
      Extends (Event.isPlain · = true) s.world.trace s'.world.trace ∧
      s'.seq.readBlockSizeKnown = false ∧ s'.seq.deviceFailed = false ∧
      s'.seq.readSequence = s'.seq.oldestSequence ∧
      (found = true → s'.seq.blockPresent s'.seq.writeSequence = true) ∧
      (found = false → s'.seq.writeSequence = 0 ∧ s'.seq.writePosition = 0)) s := by
  unfold scanForExistingBlocks
  apply (scanForBlockPresence_present (List.nodup_finRange modulus)
    (fun x hx => by cases hx)).bind
  rintro last ⟨_, world₁⟩ ⟨⟨present, rfl, hsome⟩, htrace⟩
  rw [hs]
  cases last with
  | none => exact ⟨htrace, rfl, rfl, rfl, nofun, fun _ => ⟨rfl, rfl⟩⟩
  | some last =>
    exact ⟨htrace, rfl, rfl, rfl, fun _ => locateRunBoundaries_write (hsome last rfl), nofun⟩

theorem openBlocks_grounded (hs : s.seq = initial)
    (hcalls : Always (WithinBounds P G C) s.world.trace) :
    Ensures (openBlocks P C) (fun opened s' => Always (WithinBounds P G C) s'.world.trace ∧
      (opened = true → Grounded P G C s' ∧ s'.seq.deviceFailed = false)) s := by
  unfold openBlocks
  apply (scanForExistingBlocks_present hs).bind
  rintro found s₁ ⟨htrace, hunknown, hfine, hreads, hfound, hfresh⟩
  have hcalls₁ : Always (WithinBounds P G C) s₁.world.trace :=
    htrace.always hcalls fun before _ _ hplain => withinBounds_of_plain hplain before
  have hsize : s₁.seq.readBlockSizeKnown = true → False := fun hknown =>
    Bool.false_ne_true (hunknown.symm.trans hknown)
  cases found with
  | true =>
    rw [if_pos rfl, ensures_bind, ensures_noteRun, ensures_bind, ensures_seq]
    apply ensures_ask
    dsimp only [World.noted_env]
    have hnoted : Always (WithinBounds P G C)
        (s₁.world.noted (.run s₁.seq.oldestSequence s₁.seq.writeSequence)).trace :=
      hcalls₁.concat trivial
    have hasked : Always (WithinBounds P G C)
        ((s₁.world.noted (.run s₁.seq.oldestSequence s₁.seq.writeSequence)).asked P
          (.size s₁.seq.writeSequence)).trace :=
      hnoted.concat fun size hsome => ⟨_, _, hsome⟩
    cases hanswer : (P.answer (.size s₁.seq.writeSequence) s₁.world.env).1 with
    | none => exact ⟨hasked, nofun⟩
    | some position =>
      dsimp only
      rw [ensures_bind, ensures_setSeq]
      apply (notifyThresholdCrossed_notified _).bind
      intro _ s' hnotified
      rw [ensures_pure]
      have hgrounded := hnotified.grounded (G := G) (C := C) ⟨hreads, hfound rfl, ?_,
        fun hknown => (hsize hknown).elim, hasked⟩
      · exact ⟨hgrounded.calls, fun _ => ⟨hgrounded, hnotified.stays.deviceFailed.trans hfine⟩⟩
      · dsimp only
        rw [World.asked_trace, sizesKnown_concat, World.noted_env, hanswer]
        exact Function.update_self ..
  | false =>
    obtain ⟨hwrite, hposition⟩ := hfresh rfl
    rw [if_neg Bool.false_ne_true, ensures_bind]
    have hasked : Always (WithinBounds P G C) (s₁.world.asked P (.acquire 0)).trace :=
      hcalls₁.concat trivial
    apply ensures_acquireBlock
    · intro hanswer
      rw [if_pos rfl, ensures_bind, ensures_noteRun]
      apply (notifyThresholdCrossed_notified _).bind
      intro _ s' hnotified
      rw [ensures_pure]
      have hgrounded := hnotified.grounded (G := G) (C := C) ⟨hreads, ?_, ?_,
        fun hknown => (hsize hknown).elim, hasked.concat trivial⟩
      · exact ⟨hgrounded.calls, fun _ => ⟨hgrounded, hnotified.stays.deviceFailed.trans hfine⟩⟩
      · dsimp only
        rw [hwrite, Function.update_self]
      · dsimp only
        rw [World.noted_trace, sizesKnown_concat, World.asked_trace, sizesKnown_concat, hanswer,
          hwrite, hposition]
        simp [Event.learn]
    · intro _
      exact ⟨hasked, nofun⟩

end BlockSequence

end SolidSyslog.Store
