import Mathlib.Data.List.Nodup
import SolidSyslog.Lib.CompareExchange

/-!
# The atomic counters

`SolidSyslogStdAtomicCounter.c`, `SolidSyslogWindowsAtomicCounter.c` and
`SolidSyslogVxWorks64AtomicCounter.c`. An increment answers the sequence number after the one before
it, and 1 after the largest: the first two in a compare-exchange loop, the third with interrupts
locked out.
-/

namespace SolidSyslog.Counter

open Lib

/-- `SOLIDSYSLOG_SEQUENCE_ID_MAX`. -/
def sequenceIdMax : UInt32 :=
  2147483647

/-- The number that an increment puts after the one it finds. -/
def nextSequenceId (current : UInt32) : UInt32 :=
  if current ≥ sequenceIdMax then 1 else current + 1

variable {τ : Type}

section Steps

variable [DecidableEq τ]

/-- `StdAtomicCounter_Increment`, a step of it: the load, or one turn of the loop.
`atomic_compare_exchange_strong_explicit` leaves in `current` what it finds. -/
def StdAtomicCounter.step (s : SharedCell τ UInt32) (task : τ) : Option (SharedCell τ UInt32) :=
  s.step nextSequenceId task

/-- `InterlockedCompareExchange`: what the destination held, and what it holds after. -/
def interlockedCompareExchange (destination exchange comparand : UInt32) : UInt32 × UInt32 :=
  (destination, if destination = comparand then exchange else destination)

/-- `WindowsAtomicCounter_Increment`, a step of it: the exchange of 0 for 0, or one turn of the
loop. -/
def WindowsAtomicCounter.step (s : SharedCell τ UInt32) (task : τ) : Option (SharedCell τ UInt32) :=
  match s.current task with
  | none =>
    let (current, value) := interlockedCompareExchange s.value 0 0
    some ⟨value, Function.update s.current task (some current), s.trace ++ [.loaded task current]⟩
  | some current =>
    let next := nextSequenceId current
    let (previous, value) := interlockedCompareExchange s.value next current
    if previous = current then
      some ⟨value, Function.update s.current task none, s.trace ++
        [.exchanged task current next true]⟩
    else
      some ⟨value, Function.update s.current task (some previous),
        s.trace ++ [.exchanged task current next false]⟩

end Steps

/-- `struct SolidSyslogVxWorks64AtomicCounter`, and what it has answered. -/
structure VxWorks64AtomicCounter (τ : Type) where
  value : UInt32
  answered : List (τ × UInt32)

namespace VxWorks64AtomicCounter

/-- `SolidSyslogVxWorks64AtomicCounter_Initialise`. -/
def initial : VxWorks64AtomicCounter τ :=
  ⟨0, []⟩

/-- `VxWorks64AtomicCounter_Increment`, all of it between `intLock` and `intUnlock`. -/
def increment (s : VxWorks64AtomicCounter τ) (task : τ) : Option (VxWorks64AtomicCounter τ) :=
  let next := if s.value ≥ sequenceIdMax then 1 else s.value + 1
  some ⟨next, s.answered ++ [(task, next)]⟩

end VxWorks64AtomicCounter

/-! ## The numbers in their order -/

/-- The numbers answered are 1, 2 and so on to the largest, and 1 again after it; so none is 0, and
no two of them are the same unless all the others lie between them. -/
structure CountsInTurn (answered : List (τ × UInt32)) : Prop where
  inTurn : answered.map (·.2.toNat) = (List.range answered.length).map (· % 2147483647 + 1)
  distinct : ∀ start count, count ≤ 2147483647 →
    (((answered.drop start).take count).map Prod.snd).Nodup

theorem nextSequenceId_toNat (current : UInt32) : (nextSequenceId current).toNat =
    if 2147483647 ≤ current.toNat then 1 else current.toNat + 1 := by
  have hreached : current ≥ sequenceIdMax ↔ 2147483647 ≤ current.toNat := UInt32.le_iff_toNat_le
  unfold nextSequenceId
  by_cases hmax : current ≥ sequenceIdMax
  · rw [if_pos hmax, if_pos (hreached.1 hmax)]
    rfl
  · rw [if_neg hmax, if_neg (mt hreached.2 hmax), UInt32.toNat_add]
    have hbelow := mt hreached.2 hmax
    have hone : (1 : UInt32).toNat = 1 := rfl
    omega

/-- The counter after so many increments. -/
theorem iterate_nextSequenceId (k : Nat) :
    (nextSequenceId^[k + 1] 0).toNat = k % 2147483647 + 1 := by
  induction k with
  | zero => rfl
  | succ k ih =>
    rw [Function.iterate_succ_apply', nextSequenceId_toNat, ih]
    split <;> omega

theorem CountsInTurn.of_iterates {answered : List (τ × UInt32)}
    (h : answered.map Prod.snd = (List.range answered.length).map fun k =>
      nextSequenceId^[k + 1] 0) :
    CountsInTurn answered := by
  have hturn : answered.map (·.2.toNat) = (List.range answered.length).map
    (· % 2147483647 + 1) := by
    have hnumbers := congrArg (List.map UInt32.toNat) h
    rw [List.map_map, List.map_map] at hnumbers
    rw [← Function.comp_def UInt32.toNat Prod.snd, hnumbers]
    exact List.map_congr_left fun k _ => iterate_nextSequenceId k
  refine ⟨hturn, fun start count hcount => ?_⟩
  apply List.Nodup.of_map UInt32.toNat
  have hwindow : (((answered.drop start).take count).map Prod.snd).map UInt32.toNat =
      ((((List.range answered.length).drop start).take count).map (· % 2147483647 + 1)) := by
    rw [List.map_map, List.map_take, List.map_drop, List.map_take, List.map_drop, ← hturn]
    rfl
  rw [hwindow]
  -- among so many numbers in a row no two agree in their remainder
  have hrange : ∃ size, size ≤ count ∧
      ((List.range answered.length).drop start).take count = List.range' start size := by
    rw [List.range_eq_range', List.drop_range', Nat.mul_one, Nat.zero_add]
    rcases Nat.le_total count (answered.length - start) with hle | hle
    · exact ⟨count, Nat.le_refl _, List.take_range'_of_length_ge hle⟩
    · exact ⟨_, hle, List.take_range'_of_length_le hle⟩
  obtain ⟨size, hsize, hrange⟩ := hrange
  rw [hrange]
  refine List.Nodup.map_on ?_ List.nodup_range'
  intro i hi j hj hsame
  rw [List.mem_range'_1] at hi hj
  omega

/-! ## Every interleaving -/

/-- Both exchanges of the Windows counter leave what the loop of the other leaves. -/
theorem windowsAtomicCounter_step_eq [DecidableEq τ] (s : SharedCell τ UInt32) (task : τ) :
    WindowsAtomicCounter.step s task = StdAtomicCounter.step s task := by
  unfold WindowsAtomicCounter.step StdAtomicCounter.step SharedCell.step interlockedCompareExchange
  cases hcurrent : s.current task with
  | none =>
    dsimp only
    split
    · next hzero => rw [hzero]
    · rfl
  | some current =>
    dsimp only
    split
    · rfl
    · rfl

theorem VxWorks64AtomicCounter.counts {s : VxWorks64AtomicCounter τ}
    (h : Reached VxWorks64AtomicCounter.increment anyMove .initial s) :
    s.value = nextSequenceId^[s.answered.length] 0 ∧
      s.answered.map Prod.snd =
        (List.range s.answered.length).map fun k => nextSequenceId^[k + 1] 0 := by
  refine h.invariant (I := fun s => s.value = nextSequenceId^[s.answered.length] 0 ∧
    s.answered.map Prod.snd =
      (List.range s.answered.length).map fun k => nextSequenceId^[k + 1] 0) ⟨rfl, rfl⟩ ?_
  rintro s₁ task s₂ ⟨hvalue, hanswered⟩ - hstep
  cases hstep
  have hnext : (if s₁.value ≥ sequenceIdMax then 1 else s₁.value + 1) =
      nextSequenceId^[s₁.answered.length + 1] 0 := by
    rw [Function.iterate_succ_apply', ← hvalue]
    rfl
  refine ⟨?_, ?_⟩
  · rw [List.length_append, List.length_singleton]
    exact hnext
  · rw [List.map_append, hanswered, List.length_append, List.length_singleton, List.range_succ,
      List.map_append, List.map_singleton, List.map_singleton, hnext]

/-- Under every interleaving of the steps of any tasks' increments, each counter answers the
sequence numbers in their order with none left out and none twice in a turn, and an increment of the
first two tries again only if another increment has ended since its last step. -/
theorem counters_count_in_turn [DecidableEq τ] :
    (∀ s : SharedCell τ UInt32, Reached StdAtomicCounter.step anyMove (.initial 0) s →
        CountsInTurn s.puts ∧ Always SharedCell.RetriesAfterPut s.trace) ∧
      (∀ s : SharedCell τ UInt32, Reached WindowsAtomicCounter.step anyMove (.initial 0) s →
        CountsInTurn s.puts ∧ Always SharedCell.RetriesAfterPut s.trace) ∧
      (∀ s : VxWorks64AtomicCounter τ,
        Reached VxWorks64AtomicCounter.increment anyMove .initial s → CountsInTurn s.answered) := by
  have hstd : ∀ s : SharedCell τ UInt32, Reached StdAtomicCounter.step anyMove (.initial 0) s →
      CountsInTurn s.puts ∧ Always SharedCell.RetriesAfterPut s.trace := by
    intro s h
    have hiterated := SharedCell.iterated_of_reached h
    exact ⟨.of_iterates hiterated.puts, hiterated.retries⟩
  refine ⟨hstd, fun s h => hstd s ?_, fun s h => .of_iterates (VxWorks64AtomicCounter.counts h).2⟩
  have hsame : (WindowsAtomicCounter.step : SharedCell τ UInt32 → τ → _) =
    StdAtomicCounter.step := by
    funext s task
    exact windowsAtomicCounter_step_eq s task
  rwa [← hsame]

/-- Two tasks read the counter; one gets its number in, and the other finds that and takes the
next. -/
theorem counters_contended : ∃ s : SharedCell Bool UInt32,
    runMoves StdAtomicCounter.step anyMove (.initial 0) [false, true, true, false, false] = some s ∧
      s.puts = [(true, 1), (false, 2)] ∧ .exchanged false 0 1 false ∈ s.trace ∧
      CountsInTurn s.puts := by
  have hrun : ∃ s : SharedCell Bool UInt32,
      runMoves StdAtomicCounter.step anyMove (.initial 0)
        [false, true, true, false, false] = some s ∧
        s.puts = [(true, 1), (false, 2)] ∧ .exchanged false 0 1 false ∈ s.trace :=
    ⟨_, rfl, rfl, by decide⟩
  obtain ⟨s, hs, hputs, htrace⟩ := hrun
  have hcounts := (counters_count_in_turn.1 s (Reached.of_runMoves hs)).1
  exact ⟨s, hs, hputs, htrace, hcounts⟩

end SolidSyslog.Counter
