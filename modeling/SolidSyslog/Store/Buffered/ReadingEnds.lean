import SolidSyslog.Store.Buffered.MediaBounds

/-!
# Reading ends

Whatever is on the media and whatever the device and the policies answer: where the sizes leave room
for a record below the top of `size_t`, no walk of a restart comes to one place twice, the restart
leaves a block in each turn, and every read ends, with a record, with nothing left to read, or on a
record the policy gave no verdict on. A block that comes closer to the top may hold a record whose
end wraps: the walk takes it to lie within the block and goes on from the start of the block,
without end.
-/

namespace SolidSyslog.Store

open Lib

variable {σ : Type} {P : Platform σ} {C : Config}

namespace BlockStore

variable {s : BlockStore σ} {G : Prop}

theorem endless_not_mem (h : Kept P G C s) : Event.endless ∉ s.world.trace := by
  intro hmem
  obtain ⟨before, after, hsplit⟩ := List.append_of_mem hmem
  exact h.calls before .endless after hsplit

/-- From some number of turns on, a read answers and leaves the same. -/
theorem read_ends (h : Kept P G C s) (maxSize : Nat) : ∃ turns bytes s',
    (∀ fuel, turns ≤ fuel →
      perform P fuel (.readNextUnsent (C := C) maxSize) s = (.read bytes, s')) ∧
    (bytes = none → 0 < maxSize → s'.hasUnsent = false ∨ Unsettled C s s') := by
  cases hfrozen : s.frozen with
  | true =>
    refine ⟨0, none, s, fun fuel _ => perform_of_frozen hfrozen fuel _, fun _ _ => .inl ?_⟩
    exact hasUnsent_of_frozen hfrozen
  | false =>
    have hstands := h.stands hfrozen
    obtain ⟨turns, bytes, s', hends⟩ := readNextUnsent_ends (P := P) hstands maxSize
    refine ⟨turns, bytes, s', fun fuel hfuel => ?_, ?_⟩
    · apply Ensures.eq_mk
      unfold perform
      rw [ensures_bind]
      unfold Ensures
      rw [hends fuel hfuel]
      exact ⟨rfl, rfl⟩
    · have hanswer := readNextUnsent_kept (P := P) hstands turns maxSize
      unfold Ensures at hanswer
      rw [hends turns (le_refl _)] at hanswer
      exact (hanswer.2 bytes rfl).empty

end BlockStore

namespace BufferedStore

variable {t : BufferedStore σ}

/-- From any media, with any answers of the device and the policies, where the sizes leave room for
a record below the top of `size_t`: no loop of a restart or of a call runs on for ever, and every
read ends. One that hands nothing out leaves nothing to hand out, or stands on a record the policy
would not give a verdict on, with nothing marked or disposed of for it. -/
theorem reading_ends (hroomy : Roomy P C) (env : σ) {buffer : Bytes}
    (hbuffer : buffer.length = C.recordBufferSize) {ops : List (BlockStore.Op C)}
    {answers : List BlockStore.Answer} (hrun : Run (Step P) (created P C env buffer) ops answers t)
    (maxSize : Nat) :
    Event.endless ∉ t.store.world.trace ∧
    ∃ turns bytes s, (∀ fuel, turns ≤ fuel → ∃ buffer',
        perform P fuel (.readNextUnsent (C := C) maxSize) t = (.read bytes, ⟨s, buffer'⟩)) ∧
      (bytes = none → 0 < maxSize → s.hasUnsent = false ∨ BlockStore.Unsettled C t.store s) := by
  obtain ⟨h, -⟩ := run_bounded (G := False) hroomy (hrun.mono fun hstep => ⟨hstep, False.elim⟩)
    (created_bounded hroomy env hbuffer)
  obtain ⟨turns, bytes, s, hread, hempty⟩ := BlockStore.read_ends h.store maxSize
  refine ⟨BlockStore.endless_not_mem h.store, turns, bytes, s, fun fuel hfuel => ?_, hempty⟩
  obtain ⟨-, hsame⟩ :=
    perform_mirrors hroomy h.buffer h.store fuel (.readNextUnsent (C := C) maxSize)
  rw [hread fuel hfuel] at hsame
  obtain ⟨hanswer, rfl⟩ := Prod.ext_iff.1 hsame
  exact ⟨_, Prod.ext hanswer rfl⟩

theorem reading_ends_torn :
    (∃ turns bytes s, (∀ fuel, turns ≤ fuel → ∃ buffer', perform cappedDevice fuel
        (.readNextUnsent (C := .small) 64)
        (created cappedDevice .small tornFirst (List.replicate 73 0)) =
          (.read bytes, ⟨s, buffer'⟩)) ∧
      (bytes = none → 0 < 64 → s.hasUnsent = false ∨ BlockStore.Unsettled .small
        (created cappedDevice .small tornFirst (List.replicate 73 0)).store s)) ∧
    (perform cappedDevice 1 (.readNextUnsent (C := .small) 64)
      (created cappedDevice .small tornFirst (List.replicate 73 0))).1 =
        .read (some [65]) :=
  ⟨(reading_ends cappedDevice_roomy tornFirst
    (show (List.replicate 73 (0 : UInt8)).length = Config.small.recordBufferSize by decide) (.nil _)
    64).2, by decide +kernel⟩

/-! ## A walk that never ends

A block of unsent records end to end, two bytes short of what a 16-bit `size_t` counts. The end of
its last record, which is cut short, wraps to the start of the block, so the record seems to lie
within it and the next one seems to be the first. -/

/-- A 16-bit `size_t`, and blocks of two bytes less than it counts. -/
def narrow : Config :=
  ⟨{ Tunables.small with sizeBits := 16, sizeBits_ge := le_refl _ }, 0, 65534, 2, false,
    Nat.zero_le _⟩

/-- A record of 64 bytes that was not sent. -/
def unsentRecord : Bytes :=
  header 59 ++ List.replicate 59 65 ++ [sentFlagUnsent]

/-- A device that holds one block of 65534 bytes, unsent records of 64 bytes end to end: the last
one lacks two bytes. -/
def lastCutShort : Platform Unit where
  answer
    | .blockExists block, _ => (block == 0, ())
    | .size block, _ => (if block = 0 then some 65534 else none, ())
    | .read block offset count, _ =>
      (if block = 0 ∧ offset + count ≤ 65534 then
        some ((List.range count).map fun i => unsentRecord.getD ((offset + i) % 64) 0)
      else none, ())
    | .acquire _, _ => (false, ())
    | .dispose _, _ => (false, ())
    | .append _ _, _ => (false, ())
    | .writeAt _ _ _, _ => (false, ())
    | .sealRecord content, _ => (some (content, []), ())
    | .openRecord content _, _ => ((.opened, content), ())
    | .getDiscardPolicy, _ => (.oldest, ())
    | .getCapacityThreshold, _ => (0, ())
    | .onThresholdCrossed, _ => ((), ())
    | .report _ _ _, _ => ((), ())

theorem ensures_onRecords {α : Type} {action : BufferedRecords.Action σ α}
    {Q : α → BufferedStore σ → Prop} : Ensures (onRecords action) Q t =
      Ensures action (fun a u => Q a ⟨{ t.store with
        records := u.store.records, world := u.store.world }, u.buffer⟩)
        ⟨⟨t.store.records, t.store.world⟩, t.buffer⟩ :=
  rfl

theorem created_of_ensures {env : σ} {buffer : Bytes} {Q : BufferedStore σ → Prop}
    (h : Ensures (create P C) (fun _ t => Q t) ⟨.initial ⟨env, []⟩, ⟨buffer, false⟩⟩) :
    Q (created P C env buffer) :=
  h

variable {k : Nat} {u : BufferedRecords Unit}

/-- A span of the block is read where it lies. -/
theorem readSpanOut_lastCutShort {offset count : Nat} (hwithin : offset + count ≤ 65534) :
    Ensures (BufferedRecords.readSpanOut lastCutShort narrow 0 offset count 65534)
      (fun outcome u' => outcome = .ok ((List.range count).map fun i =>
        unsentRecord.getD ((offset + i) % 64) 0) ∧ u'.buffer = u.buffer) u := by
  have hspan : BufferedRecords.spanIsWithinData narrow offset count 65534 = true := by
    have hmod := Nat.mod_le (offset + count) (2 ^ narrow.tunables.sizeBits)
    unfold BufferedRecords.spanIsWithinData Config.toSize
    rw [decide_eq_true_eq]
    omega
  unfold BufferedRecords.readSpanOut
  rw [if_pos hspan, ensures_bind, BufferedRecords.ensures_ask]
  simp only [lastCutShort, hwithin, and_self, if_true]
  rw [ensures_pure]
  exact ⟨congrArg Except.ok (fit_of_length_eq (by simp)), rfl⟩

/-- Each record is taken to lie within the block: the end of the last one wraps to 0. -/
theorem readRecordExtent_lastCutShort (h : k < 1024)
    (hbuffer : u.buffer.bytes.length = narrow.recordBufferSize) :
    Ensures (BufferedRecords.readRecordExtent lastCutShort narrow 0 (64 * k) 65534)
      (fun outcome u' => outcome = .ok 59 ∧
        u'.buffer.bytes.length = narrow.recordBufferSize) u := by
  have hheader : ((List.range contentHeaderSize).map fun i =>
      unsentRecord.getD ((64 * k + i) % 64) 0) = header 59 := by
    simp only [Nat.mul_add_mod]
    rfl
  have hextent : BufferedRecords.spanIsWithinData narrow (64 * k)
      (BufferedRecords.recordSize narrow 59) 65534 = true := by
    have hwraps : (64 * k + 64) % 65536 ≤ 65534 := by omega
    exact decide_eq_true hwraps
  have hvalid : narrow.validateHeader (header 59) = some 59 := by decide
  have hspan : span (overwrite u.buffer.bytes magicAddress (header 59)) magicAddress
      contentHeaderSize = header 59 :=
    (occursAt_overwrite (Nat.zero_le _)).span_eq
  unfold BufferedRecords.readRecordExtent BufferedRecords.readHeader BufferedRecords.readSpan
  rw [if_pos (by omega), ensures_bind, ensures_bind, ensures_bind]
  refine (readSpanOut_lastCutShort (by unfold contentHeaderSize; omega)).mono ?_
  rintro outcome u₁ ⟨rfl, hu₁⟩
  rw [hheader]
  dsimp only
  rw [ensures_bind, BufferedRecords.ensures_put, ensures_pure]
  dsimp only
  rw [ensures_bind, BufferedRecords.ensures_give]
  dsimp only [RecordBuffer.put_bytes]
  rw [hu₁, hspan, hvalid]
  dsimp only
  rw [ensures_pure]
  dsimp only
  rw [if_pos hextent, ensures_pure]
  refine ⟨rfl, ?_⟩
  change (overwrite u.buffer.bytes magicAddress (header 59)).length = _
  rw [length_overwrite (by rw [hbuffer]; decide), hbuffer]

/-- However many turns it takes, the walk to the end of the block is still inside it. -/
theorem scanToEndLoop_lastCutShort (fuel : Nat) (h : k < 1024)
    (hbuffer : u.buffer.bytes.length = narrow.recordBufferSize) :
    Ensures (BufferedRecords.scanToEndLoop lastCutShort narrow 0 65534 (64 * k) fuel)
      (fun scanned u' => scanned = .clean ∧ Event.endless ∈ u'.store.world.trace) u := by
  have hinside : 64 * k < 65534 := by omega
  induction fuel generalizing k u with
  | zero =>
    unfold BufferedRecords.scanToEndLoop
    rw [if_pos hinside]
    exact ⟨rfl, List.mem_append_right _ (List.mem_singleton.2 rfl)⟩
  | succ fuel ih =>
    unfold BufferedRecords.scanToEndLoop
    rw [if_pos hinside]
    apply (readRecordExtent_lastCutShort h hbuffer).bind
    rintro outcome u₁ ⟨rfl, hbuffer₁⟩
    have hnext : narrow.toSize (64 * k + BufferedRecords.recordSize narrow 59) =
        64 * ((k + 1) % 1024) := by
      change (64 * k + 64) % 65536 = _
      omega
    dsimp only
    rw [hnext]
    exact ih (by omega) hbuffer₁ (by omega)

/-- A new store on that device. -/
def onLastCutShort : BufferedStore Unit :=
  ⟨.initial ⟨(), []⟩, ⟨List.replicate 73 0, false⟩⟩

/-- Create finds the first record, which was not sent, and goes on to check the block. -/
theorem resumed_lastCutShort :
    Ensures (onStore (BlockStore.onSeq (BlockSequence.openBlocks lastCutShort narrow)))
      (fun opened t => opened = true ∧ Ensures (resumeLoop lastCutShort narrow (modulus + 1))
        (fun scanned t' => scanned = .clean ∧ t'.store.seq.deviceFailed = false ∧
          t'.store.seq.readIsBehindWrite = false ∧ t'.store.seq.readCursor = 0 ∧
          t'.store.seq.writeSequence = 0 ∧ t'.store.seq.writePosition = 65534 ∧
          t'.buffer.bytes.length = narrow.recordBufferSize) t) onLastCutShort := by
  unfold Ensures
  decide +kernel

theorem scanToEnd_lastCutShort (hbuffer : u.buffer.bytes.length = narrow.recordBufferSize) :
    Ensures (BufferedRecords.scanToEnd lastCutShort narrow 0 0 65534)
      (fun scanned u' => scanned = .clean ∧ Event.endless ∈ u'.store.world.trace) u := by
  unfold BufferedRecords.scanToEnd
  exact scanToEndLoop_lastCutShort (k := 0) _ (by decide) hbuffer

theorem checkWriteBlock_lastCutShort {t : BufferedStore Unit}
    (hbehind : t.store.seq.readIsBehindWrite = false) (hcursor : t.store.seq.readCursor = 0)
    (hwrite : t.store.seq.writeSequence = 0) (hposition : t.store.seq.writePosition = 65534)
    (hbuffer : t.buffer.bytes.length = narrow.recordBufferSize) :
    Ensures (checkWriteBlock lastCutShort narrow)
      (fun _ t' => Event.endless ∈ t'.store.world.trace) t := by
  have hseqOf : Ensures seqOf (fun seq t' => seq = t.store.seq ∧ t' = t) t := ⟨rfl, rfl⟩
  unfold checkWriteBlock
  apply hseqOf.bind
  rintro _ _ ⟨rfl, rfl⟩
  rw [hbehind, hcursor, hwrite, hposition, ensures_bind, ensures_onRecords]
  apply (scanToEnd_lastCutShort hbuffer).mono
  rintro _ u ⟨rfl, hendless⟩
  exact hendless

/-- Create never ends on that block: it comes to a walk that is still inside however many turns it
takes. -/
theorem create_never_ends :
    Event.endless ∈ (created lastCutShort narrow () (List.replicate 73 0)).store.world.trace ∧
    ∀ fuel (u : BufferedRecords Unit), u.buffer.bytes.length = narrow.recordBufferSize →
      Event.endless ∈ (BufferedRecords.scanToEndLoop lastCutShort narrow 0 65534 0 fuel
        u).2.store.world.trace := by
  have hcreate : Ensures (create lastCutShort narrow)
      (fun _ t => Event.endless ∈ t.store.world.trace)
      ⟨.initial ⟨(), []⟩, ⟨List.replicate 73 0, false⟩⟩ := by
    unfold create initialise
    rw [if_neg (by decide)]
    apply resumed_lastCutShort.bind
    rintro _ t ⟨rfl, hresumed⟩
    rw [if_pos rfl]
    unfold resumeFromExistingBlock
    apply hresumed.bind
    rintro _ t' ⟨rfl, hfine, hbehind, hcursor, hwrite, hposition, hbuffer⟩
    have hseqOf : Ensures seqOf (fun seq t'' => seq = t'.store.seq ∧ t'' = t') t' := ⟨rfl, rfl⟩
    apply hseqOf.bind
    rintro _ _ ⟨rfl, rfl⟩
    rw [hfine, if_pos (by decide)]
    exact checkWriteBlock_lastCutShort hbehind hcursor hwrite hposition hbuffer
  refine ⟨created_of_ensures hcreate, fun fuel u hbuffer => ?_⟩
  exact (scanToEndLoop_lastCutShort (k := 0) fuel (by decide) hbuffer).2

end BufferedStore

end SolidSyslog.Store
