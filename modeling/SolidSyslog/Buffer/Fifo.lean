import SolidSyslog.Lib.Run
import SolidSyslog.Buffer.Operations

/-!
# The ring buffer is a FIFO

Each operation of the ring meets its specification on the queue the ring holds: a read takes the
oldest record or leaves it, a kept record goes behind the newest, an eviction takes only the
oldest, and a refusal takes nothing. `circularBuffer_refines_fifo` carries this to every list of
operations.
-/

namespace SolidSyslog.Buffer

open Lib

/-! ## Write -/

/-- What a write does to the queue: it keeps the record behind the newest, evicting from the
oldest only under Oldest, or refuses it, which Oldest never does to a record an empty ring could
hold. -/
inductive WriteAllowed (capacity : Nat) (policy : DiscardPolicy) (data : Bytes) (q : List Bytes) :
    WriteOutcome → List Bytes → Prop
  | kept : WriteAllowed capacity policy data q (.kept false) (q ++ [data])
  | keptEvicting (n : Nat) (oldest : policy = .oldest) (some_evicted : 0 < n) (le : n ≤ q.length) :
      WriteAllowed capacity policy data q (.kept true) (q.drop n ++ [data])
  | refused (could_not : policy = .oldest → capacity < headerBytes + data.length) :
      WriteAllowed capacity policy data q .refused q

theorem storeApplyingPolicy_spec {b : CircularBuffer} {q : List Bytes} {data : Bytes}
    (h : HoldsQueue b q) (policy : DiscardPolicy) (hsize : data.length ≤ 65535) :
    ∃ outcome started b' q', b.storeApplyingPolicy policy data = .ok (outcome, started, b') ∧
      WriteAllowed b.capacity policy data q outcome q' ∧ HoldsQueue b' q' ∧
      b'.capacity = b.capacity := by
  cases hfits : b.readied.recordFits (headerBytes + data.length) with
  | true =>
    obtain ⟨b', hstore, hholds, hcap, -⟩ := storeApplyingPolicy_fits policy h hfits hsize
    exact ⟨_, _, b', _, hstore, .kept, hholds, hcap⟩
  | false =>
    cases hpolicy : b.policyEvictsFor (headerBytes + data.length) policy with
    | true =>
      obtain ⟨b', q', hstore, hq, hsome, hholds, hcap, -⟩ :=
        storeApplyingPolicy_evicts h hfits hpolicy hsize
      have holdest : policy = .oldest := by
        have : headerBytes + data.length ≤ b.capacity ∧ policy = .oldest := by
          simpa [CircularBuffer.policyEvictsFor, CircularBuffer.couldHoldWhenEmpty] using hpolicy
        exact this.2
      refine ⟨_, _, b', q' ++ [data], hstore, ?_, hholds, hcap⟩
      have hdrop : q' = q.drop (b.evictedBy (headerBytes + data.length)).length := by
        conv_rhs => rw [hq]
        exact List.drop_left.symm
      rw [hdrop]
      refine .keptEvicting _ holdest (List.length_pos_iff.2 hsome) ?_
      conv_rhs => rw [hq]
      rw [List.length_append]
      omega
    | false =>
      obtain ⟨b', hstore, hholds, hcap, -⟩ := storeApplyingPolicy_refuses h hfits hpolicy
      refine ⟨_, _, b', q, hstore, .refused ?_, hholds, hcap⟩
      intro holdest
      have : ¬ headerBytes + data.length ≤ b.capacity := by
        simpa [CircularBuffer.policyEvictsFor, CircularBuffer.couldHoldWhenEmpty, holdest] using
          hpolicy
      omega

/-! ## The queue the ring stands for -/

/-- The operations of the buffer vtable, each write with the answer its policy gives. -/
inductive Op where
  | write (policy : DiscardPolicy) (data : Bytes)
  | read (maxSize : Nat)
  | isFull
  deriving DecidableEq, Repr

/-- What an operation gives back: the branch a write took, the bytes a read delivered. -/
inductive Answer where
  | wrote (outcome : Option WriteOutcome)
  | delivered (data : Option Bytes)
  | full (answer : Bool)
  deriving DecidableEq, Repr

/-- One operation of the ring. It happens only where the C code stays inside its ring and
returns. -/
inductive Step (T : Tunables) : CircularBuffer → Op → Answer → CircularBuffer → Prop
  | write {b b' : CircularBuffer} {policy : DiscardPolicy} {data : Bytes}
      {outcome : Option WriteOutcome} {reports : List BufferReport}
      (ran : b.write T policy data = .ok (outcome, reports, b')) :
      Step T b (.write policy data) (.wrote outcome) b'
  | read {b b' : CircularBuffer} {maxSize : Nat} {data : Option Bytes}
      {reports : List BufferReport} (ran : b.read maxSize = .ok (data, reports, b')) :
      Step T b (.read maxSize) (.delivered data) b'
  | isFull (b : CircularBuffer) : Step T b .isFull (.full b.isFull) b

theorem step_deterministic {T : Tunables} {b b₁ b₂ : CircularBuffer} {op : Op} {a₁ a₂ : Answer}
    (h₁ : Step T b op a₁ b₁) (h₂ : Step T b op a₂ b₂) : a₁ = a₂ ∧ b₁ = b₂ := by
  cases h₁ with
  | write ran =>
    cases h₂ with
    | write ran' =>
      rw [ran] at ran'
      cases ran'
      exact ⟨rfl, rfl⟩
  | read ran =>
    cases h₂ with
    | read ran' =>
      rw [ran] at ran'
      cases ran'
      exact ⟨rfl, rfl⟩
  | isFull =>
    cases h₂
    exact ⟨rfl, rfl⟩

/-- One operation of a FIFO of byte strings over a ring of `capacity` bytes. -/
inductive FifoStep (T : Tunables) (capacity : Nat) :
    List Bytes → Op → Answer → List Bytes → Prop
  | write {q q' : List Bytes} {policy : DiscardPolicy} {data : Bytes} {outcome : WriteOutcome}
      (size : data.length ≤ T.maxMessageSize)
      (allowed : WriteAllowed capacity policy data q outcome q') :
      FifoStep T capacity q (.write policy data) (.wrote (some outcome)) q'
  | tooLong {q : List Bytes} {policy : DiscardPolicy} {data : Bytes}
      (size : T.maxMessageSize < data.length) :
      FifoStep T capacity q (.write policy data) (.wrote none) q
  | delivered {q : List Bytes} {data : Bytes} {maxSize : Nat} (size : data.length ≤ maxSize) :
      FifoStep T capacity (data :: q) (.read maxSize) (.delivered (some data)) q
  | tooSmall {q : List Bytes} {data : Bytes} {maxSize : Nat} (size : maxSize < data.length) :
      FifoStep T capacity (data :: q) (.read maxSize) (.delivered none) (data :: q)
  | empty {maxSize : Nat} : FifoStep T capacity [] (.read maxSize) (.delivered none) []
  | isFull {q : List Bytes} {answer : Bool} : FifoStep T capacity q .isFull (.full answer) q

/-- Every operation on a ring that holds a queue happens, and as a FIFO allows. -/
theorem step_refines (T : Tunables) {capacity : Nat} {b : CircularBuffer} {q : List Bytes}
    (h : HoldsQueue b q) (hcap : b.capacity = capacity) (op : Op) :
    ∃ answer b' q', Step T b op answer b' ∧ FifoStep T capacity q op answer q' ∧
      HoldsQueue b' q' ∧ b'.capacity = capacity := by
  cases op with
  | write policy data =>
    by_cases hsize : data.length ≤ T.maxMessageSize
    · have hle : data.length ≤ 65535 := by
        have := T.maxMessageSize_le
        omega
      obtain ⟨outcome, started, b', q', hstore, hallowed, hholds, hcap'⟩ :=
        storeApplyingPolicy_spec h policy hle
      have hwrite : b.write T policy data =
          .ok (some outcome, CircularBuffer.reportRunStarted started, b') := by
        simp only [CircularBuffer.write, if_pos hsize, hstore]
        rfl
      exact ⟨_, b', q', .write hwrite, .write hsize (hcap ▸ hallowed), hholds, hcap'.trans hcap⟩
    · exact ⟨_, b, q, .write (if_neg hsize), .tooLong (by omega), h, hcap⟩
  | read maxSize =>
    cases q with
    | nil => exact ⟨_, b, [], .read (read_empty h maxSize), .empty, h, hcap⟩
    | cons data q =>
      by_cases hsize : data.length ≤ maxSize
      · obtain ⟨b', hread, hholds, hcap', -⟩ := read_delivers h hsize
        exact ⟨_, b', q, .read hread, .delivered hsize, hholds, hcap'.trans hcap⟩
      · obtain ⟨b', hread, hholds, hcap', -⟩ := read_too_small h (Nat.lt_of_not_le hsize)
        exact ⟨_, b', _, .read hread, .tooSmall (by omega), hholds, hcap'.trans hcap⟩
  | isFull => exact ⟨_, b, q, .isFull b, .isFull, h, hcap⟩

end SolidSyslog.Buffer
