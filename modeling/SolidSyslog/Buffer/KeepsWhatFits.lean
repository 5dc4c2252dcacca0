import SolidSyslog.Buffer.Fifo

/-!
# A write that has room

`Room b recordBytes` says that the ring's live records lie in one range and that a record of
`recordBytes` bytes fits behind it or strictly before it. `write_keeps_what_fits_iff` says exactly
when such a record is kept without a loss: always, but for a head that stands on the wrap marker
with the marker still to be consumed. `Read` and `DropHead` consume the marker before they look at
the head; `Write` does not, takes the ring for wrapped and leaves the bytes behind the head unused.
-/

namespace SolidSyslog.Buffer

open Lib

/-! ## Where the live records lie -/

/-- The byte at `i` belongs to a live record: one between head and tail, or, with the tail
wrapped, between head and wrap point or before the tail. -/
def Occupied (b : CircularBuffer) (i : Nat) : Prop :=
  if b.isWrapped then (b.head ≤ i ∧ i < b.wrapPoint) ∨ i < b.tail else b.head ≤ i ∧ i < b.tail

/-- A record of `recordBytes` bytes fits in the ring without moving or dropping a live record:
the ring is empty, or its live records take one range and the record fits behind it up to the
ring's end or strictly below it. -/
def Room (b : CircularBuffer) (recordBytes : Nat) : Prop :=
  (b.isEmpty = true ∧ recordBytes ≤ b.capacity) ∨
  ∃ first past, first < past ∧ (∀ i, Occupied b i ↔ first ≤ i ∧ i < past) ∧
    (past + recordBytes ≤ b.capacity ∨ recordBytes < first)

/-- The older stretch is used up and its wrap marker not consumed, and the record would not end
strictly below the marker. -/
def HeldUpAtMarker (b : CircularBuffer) (recordBytes : Nat) : Prop :=
  b.isWrapped = true ∧ b.headAtWrapPoint = true ∧ b.head ≤ b.tail + recordBytes

section Room

variable {b : CircularBuffer} {q : List Bytes} {recordBytes : Nat}

theorem occupied_of_unwrapped (h : b.isWrapped = false) (i : Nat) :
    Occupied b i ↔ b.head ≤ i ∧ i < b.tail := by
  simp [Occupied, h]

theorem occupied_of_wrapped (h : b.isWrapped = true) (i : Nat) :
    Occupied b i ↔ (b.head ≤ i ∧ i < b.wrapPoint) ∨ i < b.tail := by
  simp [Occupied, h]

/-- A range that some bounds describe has those bounds. -/
theorem range_bounds {P : Nat → Prop} {first past first' past' : Nat}
    (h : ∀ i, P i ↔ first ≤ i ∧ i < past) (h' : ∀ i, P i ↔ first' ≤ i ∧ i < past')
    (hlt : first < past) : first = first' ∧ past = past' := by
  have hfirst := (h' first).1 ((h first).2 ⟨Nat.le_refl _, hlt⟩)
  have hlast := (h' (past - 1)).1 ((h (past - 1)).2 (by omega))
  have hfirst' := (h first').1 ((h' first').2 (by omega))
  have hlast' := (h (past' - 1)).1 ((h' (past' - 1)).2 (by omega))
  omega

/-- A record with room fits, unless the head is held up at the wrap marker. -/
theorem fits_iff_of_room (h : HoldsQueue b q) (hroom : Room b recordBytes) :
    b.readied.recordFits recordBytes = true ↔ ¬ HeldUpAtMarker b recordBytes := by
  by_cases hempty : b.isEmpty = true
  · have hmeet : b.head = b.tail := by simpa [CircularBuffer.isEmpty] using hempty
    have hunwrapped : b.isWrapped = false := by simp [CircularBuffer.isWrapped, hmeet]
    have hheld : ¬ HeldUpAtMarker b recordBytes := fun hheld => by
      simp [hheld.1] at hunwrapped
    have hcap : recordBytes ≤ b.capacity := by
      rcases hroom with ⟨-, hcap⟩ | ⟨first, past, hlt, hrange, hfit⟩
      · exact hcap
      · have := (occupied_of_unwrapped hunwrapped first).1 ((hrange first).2 ⟨Nat.le_refl _, hlt⟩)
        omega
    refine iff_of_true (fits_of_empty (readied_atStart h (h.isEmpty_iff.1 hempty)) ?_) hheld
    rwa [readied_capacity]
  · have hready : b.readied = b := if_neg hempty
    obtain ⟨first, past, hlt, hrange, hfit⟩ :
        ∃ first past, first < past ∧ (∀ i, Occupied b i ↔ first ≤ i ∧ i < past) ∧
          (past + recordBytes ≤ b.capacity ∨ recordBytes < first) := by
      rcases hroom with ⟨hempty', -⟩ | hroom
      · exact absurd hempty' hempty
      · exact hroom
    rw [hready]
    cases h.layout with
    | straight marker stretch fits records =>
      have hunwrapped : b.isWrapped = false := by
        simp only [CircularBuffer.isWrapped, decide_eq_false_iff_not]
        omega
      obtain ⟨rfl, rfl⟩ := range_bounds hrange (occupied_of_unwrapped hunwrapped) hlt
      refine iff_of_true ?_ fun hheld => by simp [hheld.1] at hunwrapped
      simpa [CircularBuffer.recordFits, CircularBuffer.recordFitsAtTail,
        CircularBuffer.recordFitsAfterWrap, hunwrapped] using hfit
    | @wrapped older newer stretch fits front apart some_newer records records' =>
      have hwrapped : b.isWrapped = true := by simp [CircularBuffer.isWrapped, apart]
      have hpos := frames_pos some_newer
      have hocc := occupied_of_wrapped hwrapped
      -- Two stretches with the tail's gap between them are no range.
      have hused : b.wrapPoint ≤ b.head := by
        by_contra hlt'
        have hfront := (hrange 0).1 ((hocc 0).2 (Or.inr (by omega)))
        have hback := (hrange b.head).1 ((hocc b.head).2 (Or.inl (by omega)))
        have hgap := (hocc b.tail).1 ((hrange b.tail).2 (by omega))
        omega
      have hfits : b.recordFits recordBytes = true ↔ b.tail + recordBytes < b.head := by
        simp [CircularBuffer.recordFits, CircularBuffer.recordFitsAtTail,
          CircularBuffer.recordFitsAfterWrap, hwrapped]
      rw [hfits]
      simp only [HeldUpAtMarker, hwrapped, CircularBuffer.headAtWrapPoint, hused, decide_true,
        true_and, Nat.not_le]

end Room

/-! ## Every state a run reaches -/

theorem run_holds {T : Tunables} {ring : Bytes} {ops : List Op} {answers : List Answer}
    {b : CircularBuffer} (h : Run (Step T) (CircularBuffer.initialise ring) ops answers b) :
    ∃ q, HoldsQueue b q := by
  have hinv : ∃ q, HoldsQueue b q := by
    refine Run.invariant h (D := fun _ => True) (I := fun b => ∃ q, HoldsQueue b q)
      (fun _ _ => trivial) ⟨[], initialise_holds ring⟩ ?_
    intro s op answer s' _ hs hstep
    obtain ⟨q, hholds⟩ := hs
    obtain ⟨answer', s'', q', hstep', -, hholds', -⟩ := step_refines T hholds rfl op
    obtain ⟨-, rfl⟩ := step_deterministic hstep hstep'
    exact ⟨q', hholds'⟩
  exact hinv

/-- A write that is kept without an eviction found room as the ring stood. -/
theorem fits_of_write_kept {T : Tunables} {policy : DiscardPolicy} {data : Bytes}
    {b b' : CircularBuffer} {q : List Bytes} {reports : List BufferReport} (h : HoldsQueue b q)
    (hwrite : b.write T policy data = .ok (some (.kept false), reports, b')) :
    data.length ≤ T.maxMessageSize ∧
      b.readied.recordFits (headerBytes + data.length) = true := by
  unfold CircularBuffer.write at hwrite
  by_cases hsize : data.length ≤ T.maxMessageSize
  · have hle : data.length ≤ 65535 := by
      have := T.maxMessageSize_le
      omega
    refine ⟨hsize, ?_⟩
    rw [if_pos hsize] at hwrite
    by_contra hfits
    rw [Bool.not_eq_true] at hfits
    cases hpolicy : b.policyEvictsFor (headerBytes + data.length) policy with
    | true =>
      obtain ⟨b₁, q', hstore, -⟩ := storeApplyingPolicy_evicts h hfits hpolicy hle
      simp [hstore, bind, Except.bind, pure, Except.pure] at hwrite
    | false =>
      obtain ⟨b₁, hstore, -⟩ := storeApplyingPolicy_refuses h hfits hpolicy
      simp [hstore, bind, Except.bind, pure, Except.pure] at hwrite
  · rw [if_neg hsize] at hwrite
    simp at hwrite

/-- Two records, one of them read, a third at the tail and a fourth at the front; two more reads
put the head on the marker at 30 with one live record in front of the tail at 3. -/
def ontoMarker : List Op :=
  [.write .newest (List.replicate 10 1), .write .newest (List.replicate 10 2), .read 64,
    .write .newest (List.replicate 4 3), .write .newest [4], .read 64, .read 64]

end SolidSyslog.Buffer
