import SolidSyslog.Lib.Pool
import Mathlib.Logic.Relation
import Mathlib.Algebra.Order.Group.Multiset

/-!
# The three pools of the block store

`SolidSyslogBlockStoreStatic.c` composes a block store from a slot of its own pool and one each of
the pools of record stores and of block sequences, which are of the same size. Any number of calls
of `Create` and `Destroy` are under way at a time; each locked section of the allocator is one step.
-/

namespace SolidSyslog.Store

open Lib

variable {n : Nat}

/-! ## Calls -/

/-- The `InUse` arrays of the three pools, and what each slot of `BlockStore_Pool` points to. -/
structure PoolMemory (n : Nat) where
  blockStoreInUse : Fin n → Bool
  recordStoreInUse : Fin n → Bool
  blockSequenceInUse : Fin n → Bool
  inner : Fin n → Option (Fin n × Fin n)

/-- One turn of the loop of `SolidSyslogPoolAllocator_AcquireFirstFree`. -/
inductive Acquired (n : Nat) where
  | none
  | passed
  | claimed (slot : Fin n)

/-- `PoolAllocator_TryClaim` on the next index, if there is one. -/
def tryClaim (inUse : Fin n → Bool) (acquired : Nat) : Acquired n :=
  if h : acquired < n then
    if inUse ⟨acquired, h⟩ then .passed else .claimed ⟨acquired, h⟩
  else .none

/-- A call under way, by what it does next. -/
inductive PoolCall (n : Nat) where
  /-- `BlockStore_CreateInSlot`. -/
  | acquireBlockStore (acquired : Nat)
  /-- `SolidSyslogRecordStore_Create`. -/
  | acquireRecordStore (index : Fin n) (acquired : Nat)
  /-- `SolidSyslogBlockSequence_Create`. -/
  | acquireBlockSequence (index recordStore : Fin n) (acquired : Nat)
  /-- `SolidSyslogBlockStore_Initialise`. -/
  | initialise (index recordStore blockSequence : Fin n)
  /-- `SolidSyslogRecordStore_Destroy` without a block sequence. -/
  | giveUpRecordStore (index recordStore : Fin n)
  /-- `FreeIfInUse` of the slot itself without what goes into it. -/
  | giveUpBlockStore (index : Fin n)
  /-- `SolidSyslogBlockStore_Destroy` with what it pulled out of the slot. -/
  | freeBlockStore (index : Fin n) (inner : Option (Fin n × Fin n))
  /-- `SolidSyslogBlockSequence_Destroy` of what it pulled out. -/
  | freeBlockSequence (recordStore blockSequence : Fin n)
  /-- `SolidSyslogRecordStore_Destroy` of what it pulled out. -/
  | freeRecordStore (recordStore : Fin n)

/-- How a step of a call ends: the call goes on, `Create` returns a handle or the null store, or
`Destroy` returns. -/
inductive Outcome (n : Nat) where
  | goesOn (call : PoolCall n)
  | created (handle : Option (Fin n))
  | destroyed

/-- One step of a call. -/
def advance (m : PoolMemory n) : PoolCall n → PoolMemory n × Outcome n
  | .acquireBlockStore acquired =>
    match tryClaim m.blockStoreInUse acquired with
    | .none => (m, .created none)
    | .passed => (m, .goesOn (.acquireBlockStore (acquired + 1)))
    | .claimed index =>
      ({ m with blockStoreInUse := Function.update m.blockStoreInUse index true },
        .goesOn (.acquireRecordStore index 0))
  | .acquireRecordStore index acquired =>
    match tryClaim m.recordStoreInUse acquired with
    | .none => (m, .goesOn (.giveUpBlockStore index))
    | .passed => (m, .goesOn (.acquireRecordStore index (acquired + 1)))
    | .claimed recordStore =>
      ({ m with recordStoreInUse := Function.update m.recordStoreInUse recordStore true },
        .goesOn (.acquireBlockSequence index recordStore 0))
  | .acquireBlockSequence index recordStore acquired =>
    match tryClaim m.blockSequenceInUse acquired with
    | .none => (m, .goesOn (.giveUpRecordStore index recordStore))
    | .passed => (m, .goesOn (.acquireBlockSequence index recordStore (acquired + 1)))
    | .claimed blockSequence =>
      ({ m with
          blockSequenceInUse := Function.update m.blockSequenceInUse blockSequence true },
        .goesOn (.initialise index recordStore blockSequence))
  | .initialise index recordStore blockSequence =>
    ({ m with inner := Function.update m.inner index (some (recordStore, blockSequence)) },
      .created (some index))
  | .giveUpRecordStore index recordStore =>
    ({ m with recordStoreInUse := Function.update m.recordStoreInUse recordStore false },
      .goesOn (.giveUpBlockStore index))
  | .giveUpBlockStore index =>
    ({ m with blockStoreInUse := Function.update m.blockStoreInUse index false }, .created none)
  | .freeBlockStore index inner =>
    if m.blockStoreInUse index then
      ({ m with blockStoreInUse := Function.update m.blockStoreInUse index false },
        match inner with
        | some (recordStore, blockSequence) =>
          .goesOn (.freeBlockSequence recordStore blockSequence)
        | none => .destroyed)
    else (m, .destroyed)
  | .freeBlockSequence recordStore blockSequence =>
    ({ m with blockSequenceInUse := Function.update m.blockSequenceInUse blockSequence false },
      .goesOn (.freeRecordStore recordStore))
  | .freeRecordStore recordStore =>
    ({ m with recordStoreInUse := Function.update m.recordStoreInUse recordStore false },
      .destroyed)

/-! ## Interleavings -/

/-- The pools, the handles handed out and not yet given to `Destroy`, and the calls under way. -/
structure PoolState (n : Nat) where
  memory : PoolMemory n
  live : Multiset (Fin n)
  calls : Multiset (PoolCall n)

namespace PoolState

/-- Before the first call. -/
def initial (n : Nat) : PoolState n :=
  ⟨⟨fun _ => false, fun _ => false, fun _ => false, fun _ => none⟩, 0, 0⟩

/-- A step of a call, with the other calls. -/
def stepped (live : Multiset (Fin n)) (calls : Multiset (PoolCall n)) :
    PoolMemory n × Outcome n → PoolState n
  | (m, .goesOn call) => ⟨m, live, call ::ₘ calls⟩
  | (m, .created (some handle)) => ⟨m, handle ::ₘ live, calls⟩
  | (m, .created none) => ⟨m, live, calls⟩
  | (m, .destroyed) => ⟨m, live, calls⟩

/-- The call claims a slot of the block stores' own pool in its next step. -/
def ClaimsBlockStore (m : PoolMemory n) : PoolCall n → Prop
  | .acquireBlockStore acquired => ∃ index, tryClaim m.blockStoreInUse acquired = .claimed index
  | _ => False

/-- What can happen next, where a slot of the block stores' own pool is claimed in states that
satisfy `G` only: a call of `Create`, a call of `Destroy` with a handle that nobody has given it
yet, or a step of a call. -/
inductive Step (G : PoolState n → Prop) : PoolState n → PoolState n → Prop
  | create (s : PoolState n) : Step G s { s with calls := .acquireBlockStore 0 ::ₘ s.calls }
  | destroy {s : PoolState n} {handle : Fin n} {live : Multiset (Fin n)}
      (handed : s.live = handle ::ₘ live) :
      Step G s ⟨s.memory, live, .freeBlockStore handle (s.memory.inner handle) ::ₘ s.calls⟩
  | advance {s : PoolState n} {call : PoolCall n} {calls : Multiset (PoolCall n)}
      (underWay : s.calls = call ::ₘ calls) (permitted : ClaimsBlockStore s.memory call → G s) :
      Step G s (stepped s.live calls (advance s.memory call))

/-- The states of every interleaving. -/
def Reachable (G : PoolState n → Prop) (s : PoolState n) : Prop :=
  Relation.ReflTransGen (Step G) (initial n) s

/-- How many slots are in use. -/
def used (inUse : Fin n → Bool) : Nat :=
  (Finset.univ.filter fun slot => inUse slot = true).card

end PoolState

namespace PoolCall

/-- `Create` has a slot and no record store or no block sequence to put into it. -/
def fellShort : PoolCall n → Bool
  | .giveUpRecordStore _ _ | .giveUpBlockStore _ => true
  | _ => false

/-- `Destroy` has freed the slot itself but not yet what was in it. -/
def leaving : PoolCall n → Bool
  | .freeBlockSequence _ _ | .freeRecordStore _ => true
  | _ => false

/-- The slot of the block stores' own pool that a call holds. -/
def blockStore : PoolCall n → Option (Fin n)
  | .acquireRecordStore index _ | .acquireBlockSequence index _ _ | .initialise index _ _
  | .giveUpRecordStore index _ | .giveUpBlockStore index | .freeBlockStore index _ => some index
  | _ => none

/-- The record store that a call holds. -/
def recordStore : PoolCall n → Option (Fin n)
  | .acquireBlockSequence _ recordStore _ | .initialise _ recordStore _
  | .giveUpRecordStore _ recordStore | .freeBlockSequence recordStore _
  | .freeRecordStore recordStore => some recordStore
  | .freeBlockStore _ inner => inner.map Prod.fst
  | _ => none

/-- The block sequence that a call holds. -/
def blockSequence : PoolCall n → Option (Fin n)
  | .initialise _ _ blockSequence | .freeBlockSequence _ blockSequence => some blockSequence
  | .freeBlockStore _ inner => inner.map Prod.snd
  | _ => none

/-- Where a call is in its search for a record store. -/
def recordSearch : PoolCall n → Option Nat
  | .acquireRecordStore _ acquired => some acquired
  | _ => none

/-- Where a call is in its search for a block sequence. -/
def sequenceSearch : PoolCall n → Option Nat
  | .acquireBlockSequence _ _ acquired => some acquired
  | _ => none

/-- A bound on the steps a call has left. -/
def stepsLeft : PoolCall n → Nat
  | .acquireBlockStore acquired => n - acquired + 2 * n + 7
  | .acquireRecordStore _ acquired => n - acquired + n + 6
  | .acquireBlockSequence _ _ acquired => n - acquired + 4
  | .giveUpRecordStore _ _ | .freeBlockStore _ _ => 3
  | .giveUpBlockStore _ | .freeBlockSequence _ _ => 2
  | .initialise _ _ _ | .freeRecordStore _ => 1

end PoolCall

namespace PoolState

variable {m m' : PoolMemory n} {live : Multiset (Fin n)} {calls : Multiset (PoolCall n)}
  {call : PoolCall n}

/-! ## Who holds what -/

/-- The slots of the block stores' own pool that are held. -/
def blockStores (s : PoolState n) : Multiset (Fin n) :=
  s.live + s.calls.filterMap PoolCall.blockStore

/-- The record stores held. -/
def recordStores (s : PoolState n) : Multiset (Fin n) :=
  (s.live.filterMap fun handle => (s.memory.inner handle).map Prod.fst) +
    s.calls.filterMap PoolCall.recordStore

/-- The block sequences held. -/
def blockSequences (s : PoolState n) : Multiset (Fin n) :=
  (s.live.filterMap fun handle => (s.memory.inner handle).map Prod.snd) +
    s.calls.filterMap PoolCall.blockSequence

/-- Each slot in use has one holder, and a store handed out points to its inner ones. -/
structure Owned (s : PoolState n) : Prop where
  blockStores : Holds s.memory.blockStoreInUse s.blockStores
  recordStores : Holds s.memory.recordStoreInUse s.recordStores
  blockSequences : Holds s.memory.blockSequenceInUse s.blockSequences
  whole : ∀ handle ∈ s.live, (s.memory.inner handle).isSome = true

theorem tryClaim_passed {inUse : Fin n → Bool} {acquired : Nat}
    (h : tryClaim inUse acquired = .passed) :
    ∃ slot : Fin n, slot.val = acquired ∧ inUse slot = true := by
  unfold tryClaim at h
  split at h
  · next hlt =>
    split at h
    · next hused => exact ⟨⟨acquired, hlt⟩, rfl, hused⟩
    · cases h
  · cases h

theorem tryClaim_claimed {inUse : Fin n → Bool} {acquired : Nat} {slot : Fin n}
    (h : tryClaim inUse acquired = .claimed slot) : slot.val = acquired ∧ inUse slot = false := by
  unfold tryClaim at h
  split at h
  · split at h
    · cases h
    · next hfree =>
      cases h
      exact ⟨rfl, by simpa using hfree⟩
  · cases h

theorem tryClaim_none {inUse : Fin n → Bool} {acquired : Nat}
    (h : tryClaim inUse acquired = .none) : n ≤ acquired := by
  unfold tryClaim at h
  split at h
  · split at h <;> cases h
  · omega

/-- What a step of a call does. -/
inductive Advanced (m : PoolMemory n) : PoolCall n → PoolMemory n × Outcome n → Prop
  | noBlockStore {acquired : Nat} : Advanced m (.acquireBlockStore acquired) (m, .created none)
  | passedBlockStore {acquired : Nat} :
      Advanced m (.acquireBlockStore acquired) (m, .goesOn (.acquireBlockStore (acquired + 1)))
  | claimedBlockStore {index : Fin n} (claims : ClaimsBlockStore m (.acquireBlockStore index))
      (free : m.blockStoreInUse index = false) :
      Advanced m (.acquireBlockStore index)
        ({ m with blockStoreInUse := Function.update m.blockStoreInUse index true },
          .goesOn (.acquireRecordStore index 0))
  | noRecordStore {index : Fin n} {acquired : Nat} (none : n ≤ acquired) :
      Advanced m (.acquireRecordStore index acquired) (m, .goesOn (.giveUpBlockStore index))
  | passedRecordStore {index slot : Fin n} (used : m.recordStoreInUse slot = true) :
      Advanced m (.acquireRecordStore index slot)
        (m, .goesOn (.acquireRecordStore index (slot + 1)))
  | claimedRecordStore {index recordStore : Fin n} (free : m.recordStoreInUse recordStore = false) :
      Advanced m (.acquireRecordStore index recordStore)
        ({ m with recordStoreInUse := Function.update m.recordStoreInUse recordStore true },
          .goesOn (.acquireBlockSequence index recordStore 0))
  | noBlockSequence {index recordStore : Fin n} {acquired : Nat} (none : n ≤ acquired) :
      Advanced m (.acquireBlockSequence index recordStore acquired)
        (m, .goesOn (.giveUpRecordStore index recordStore))
  | passedBlockSequence {index recordStore slot : Fin n} (used : m.blockSequenceInUse slot = true) :
      Advanced m (.acquireBlockSequence index recordStore slot)
        (m, .goesOn (.acquireBlockSequence index recordStore (slot + 1)))
  | claimedBlockSequence {index recordStore blockSequence : Fin n}
      (free : m.blockSequenceInUse blockSequence = false) :
      Advanced m (.acquireBlockSequence index recordStore blockSequence)
        ({ m with blockSequenceInUse := Function.update m.blockSequenceInUse blockSequence true },
          .goesOn (.initialise index recordStore blockSequence))
  | initialised {index recordStore blockSequence : Fin n} :
      Advanced m (.initialise index recordStore blockSequence)
        ({ m with inner := Function.update m.inner index (some (recordStore, blockSequence)) },
          .created (some index))
  | gaveUpRecordStore {index recordStore : Fin n} :
      Advanced m (.giveUpRecordStore index recordStore)
        ({ m with recordStoreInUse := Function.update m.recordStoreInUse recordStore false },
          .goesOn (.giveUpBlockStore index))
  | gaveUpBlockStore {index : Fin n} :
      Advanced m (.giveUpBlockStore index)
        ({ m with blockStoreInUse := Function.update m.blockStoreInUse index false },
          .created none)
  | freedBlockStore {index recordStore blockSequence : Fin n} :
      Advanced m (.freeBlockStore index (some (recordStore, blockSequence)))
        ({ m with blockStoreInUse := Function.update m.blockStoreInUse index false },
          .goesOn (.freeBlockSequence recordStore blockSequence))
  | freedEmpty {index : Fin n} :
      Advanced m (.freeBlockStore index none)
        ({ m with blockStoreInUse := Function.update m.blockStoreInUse index false }, .destroyed)
  | freedBlockSequence {recordStore blockSequence : Fin n} :
      Advanced m (.freeBlockSequence recordStore blockSequence)
        ({ m with blockSequenceInUse := Function.update m.blockSequenceInUse blockSequence false },
          .goesOn (.freeRecordStore recordStore))
  | freedRecordStore {recordStore : Fin n} :
      Advanced m (.freeRecordStore recordStore)
        ({ m with recordStoreInUse := Function.update m.recordStoreInUse recordStore false },
          .destroyed)

/-- A slot that is to be freed is in use. -/
def FreesInUse (m : PoolMemory n) : PoolCall n → Prop
  | .freeBlockStore index _ => m.blockStoreInUse index = true
  | _ => True

theorem advanced (hfrees : FreesInUse m call) : Advanced m call (advance m call) := by
  cases call with
  | acquireBlockStore acquired =>
    simp only [advance]
    split
    · exact .noBlockStore
    · exact .passedBlockStore
    · next index hclaimed =>
      obtain ⟨rfl, hfree⟩ := tryClaim_claimed hclaimed
      exact .claimedBlockStore ⟨index, hclaimed⟩ hfree
  | acquireRecordStore index acquired =>
    simp only [advance]
    split
    · next hnone => exact .noRecordStore (tryClaim_none hnone)
    · next hpassed =>
      obtain ⟨slot, rfl, hused⟩ := tryClaim_passed hpassed
      exact .passedRecordStore hused
    · next recordStore hclaimed =>
      obtain ⟨rfl, hfree⟩ := tryClaim_claimed hclaimed
      exact .claimedRecordStore hfree
  | acquireBlockSequence index recordStore acquired =>
    simp only [advance]
    split
    · next hnone => exact .noBlockSequence (tryClaim_none hnone)
    · next hpassed =>
      obtain ⟨slot, rfl, hused⟩ := tryClaim_passed hpassed
      exact .passedBlockSequence hused
    · next blockSequence hclaimed =>
      obtain ⟨rfl, hfree⟩ := tryClaim_claimed hclaimed
      exact .claimedBlockSequence hfree
  | initialise index recordStore blockSequence => exact .initialised
  | giveUpRecordStore index recordStore => exact .gaveUpRecordStore
  | giveUpBlockStore index => exact .gaveUpBlockStore
  | freeBlockStore index inner =>
    have hused : m.blockStoreInUse index = true := hfrees
    simp only [advance]
    rw [if_pos hused]
    cases inner with
    | none => exact .freedEmpty
    | some inner => exact .freedBlockStore
  | freeBlockSequence recordStore blockSequence => exact .freedBlockSequence
  | freeRecordStore recordStore => exact .freedRecordStore

theorem owned_initial : (initial n).Owned :=
  ⟨.none, .none, .none, nofun⟩

theorem Owned.freesInUse (h : Owned ⟨m, live, call ::ₘ calls⟩) : FreesInUse m call := by
  cases call with
  | freeBlockStore index inner =>
    apply h.blockStores.of_mem
    simp [PoolState.blockStores, PoolCall.blockStore]
  | _ => trivial

theorem Advanced.blockStores {outcome : PoolMemory n × Outcome n} (h : Advanced m call outcome)
    (hheld : Holds m.blockStoreInUse (blockStores ⟨m, live, call ::ₘ calls⟩)) :
    Holds (stepped live calls outcome).memory.blockStoreInUse
      (stepped live calls outcome).blockStores := by
  simp only [PoolState.blockStores, Multiset.filterMap_cons] at hheld
  cases h with
  | claimedBlockStore claims free =>
    simpa [stepped, PoolState.blockStores, PoolCall.blockStore, Multiset.filterMap_cons]
      using hheld.claim free
  | initialised =>
    simpa [stepped, PoolState.blockStores, PoolCall.blockStore] using hheld
  | gaveUpBlockStore =>
    simp only [PoolCall.blockStore, Option.map_some, Option.getD_some, Multiset.singleton_add,
      Multiset.add_cons] at hheld
    exact hheld.free
  | freedBlockStore =>
    simp only [PoolCall.blockStore, Option.map_some, Option.getD_some, Multiset.singleton_add,
      Multiset.add_cons] at hheld
    simpa [stepped, PoolState.blockStores, PoolCall.blockStore, Multiset.filterMap_cons]
      using hheld.free
  | freedEmpty =>
    simp only [PoolCall.blockStore, Option.map_some, Option.getD_some, Multiset.singleton_add,
      Multiset.add_cons] at hheld
    exact hheld.free
  | _ =>
    simpa [stepped, PoolState.blockStores, PoolCall.blockStore, Multiset.filterMap_cons]
      using hheld

/-- A slot nobody has a handle of is written. -/
theorem filterMap_update {index : Fin n} (pointed : Fin n → Option (Fin n × Fin n))
    (inner : Option (Fin n × Fin n)) (f : Fin n × Fin n → Fin n) (hnew : index ∉ live) :
    (live.filterMap fun handle => (Function.update pointed index inner handle).map f) =
      live.filterMap fun handle => (pointed handle).map f := by
  induction live using Multiset.induction with
  | empty => rfl
  | cons handle live ih =>
    rw [Multiset.mem_cons, not_or] at hnew
    rw [Multiset.filterMap_cons, Multiset.filterMap_cons, ih hnew.2,
      Function.update_of_ne (Ne.symm hnew.1)]

theorem Owned.notLive {index recordStore blockSequence : Fin n}
    (h : Owned ⟨m, live, .initialise index recordStore blockSequence ::ₘ calls⟩) :
      index ∉ live := by
  have hnodup := h.blockStores.nodup
  simp only [PoolState.blockStores, Multiset.filterMap_cons, PoolCall.blockStore, Option.map_some,
    Option.getD_some, Multiset.singleton_add, Multiset.add_cons, Multiset.nodup_cons,
    Multiset.mem_add, not_or] at hnodup
  exact hnodup.1.1

theorem Owned.stepped_recordStores {outcome : PoolMemory n × Outcome n}
    (h : Owned ⟨m, live, call ::ₘ calls⟩) (hadvanced : Advanced m call outcome) :
    Holds (PoolState.stepped live calls outcome).memory.recordStoreInUse
      (PoolState.stepped live calls outcome).recordStores := by
  have hheld := h.recordStores
  simp only [PoolState.recordStores, Multiset.filterMap_cons] at hheld
  cases hadvanced with
  | claimedRecordStore free =>
    simpa [PoolState.stepped, PoolState.recordStores, PoolCall.recordStore, Multiset.filterMap_cons]
      using hheld.claim free
  | @initialised index recordStore blockSequence =>
    have hkept := filterMap_update m.inner (some (recordStore, blockSequence)) Prod.fst h.notLive
    simpa [PoolState.stepped, PoolState.recordStores, PoolCall.recordStore, Multiset.filterMap_cons,
      hkept] using hheld
  | gaveUpRecordStore =>
    simp only [PoolCall.recordStore, Option.map_some, Option.getD_some, Multiset.singleton_add,
      Multiset.add_cons] at hheld
    simpa [PoolState.stepped, PoolState.recordStores, PoolCall.recordStore, Multiset.filterMap_cons]
      using hheld.free
  | freedRecordStore =>
    simp only [PoolCall.recordStore, Option.map_some, Option.getD_some, Multiset.singleton_add,
      Multiset.add_cons] at hheld
    exact hheld.free
  | _ =>
    simpa [PoolState.stepped, PoolState.recordStores, PoolCall.recordStore, Multiset.filterMap_cons]
      using hheld

theorem Owned.stepped_blockSequences {outcome : PoolMemory n × Outcome n}
    (h : Owned ⟨m, live, call ::ₘ calls⟩) (hadvanced : Advanced m call outcome) :
    Holds (PoolState.stepped live calls outcome).memory.blockSequenceInUse
      (PoolState.stepped live calls outcome).blockSequences := by
  have hheld := h.blockSequences
  simp only [PoolState.blockSequences, Multiset.filterMap_cons] at hheld
  cases hadvanced with
  | claimedBlockSequence free =>
    simpa [PoolState.stepped, PoolState.blockSequences, PoolCall.blockSequence,
      Multiset.filterMap_cons] using hheld.claim free
  | @initialised index recordStore blockSequence =>
    have hkept := filterMap_update m.inner (some (recordStore, blockSequence)) Prod.snd h.notLive
    simpa [PoolState.stepped, PoolState.blockSequences, PoolCall.blockSequence,
      Multiset.filterMap_cons, hkept] using hheld
  | freedBlockSequence =>
    simp only [PoolCall.blockSequence, Option.map_some, Option.getD_some, Multiset.singleton_add,
      Multiset.add_cons] at hheld
    simpa [PoolState.stepped, PoolState.blockSequences, PoolCall.blockSequence,
      Multiset.filterMap_cons] using hheld.free
  | _ =>
    simpa [PoolState.stepped, PoolState.blockSequences, PoolCall.blockSequence,
      Multiset.filterMap_cons] using hheld

theorem Owned.stepped (h : Owned ⟨m, live, call ::ₘ calls⟩) :
    (PoolState.stepped live calls (advance m call)).Owned := by
  have hadvanced := advanced h.freesInUse
  refine ⟨hadvanced.blockStores h.blockStores, h.stepped_recordStores hadvanced,
    h.stepped_blockSequences hadvanced, ?_⟩
  generalize advance m call = outcome at hadvanced
  have hwhole := h.whole
  cases hadvanced with
  | @initialised index recordStore blockSequence =>
    intro handle hhandle
    rcases Multiset.mem_cons.1 hhandle with rfl | hlive
    · simp [PoolState.stepped]
    · have hne : handle ≠ index := by
        rintro rfl
        exact h.notLive hlive
      change (Function.update m.inner index (some (recordStore, blockSequence)) handle).isSome =
        true
      rw [Function.update_of_ne hne]
      exact hwhole handle hlive
  | _ => exact hwhole

/-- Each slot in use has one holder, whatever happens next. -/
theorem Owned.step {G : PoolState n → Prop} {s s' : PoolState n} (h : s.Owned)
    (hstep : Step G s s') : s'.Owned := by
  cases hstep with
  | create =>
    obtain ⟨hstores, hrecords, hsequences, hwhole⟩ := h
    refine ⟨?_, ?_, ?_, hwhole⟩
    · simpa [PoolState.blockStores, PoolCall.blockStore, Multiset.filterMap_cons] using hstores
    · simpa [PoolState.recordStores, PoolCall.recordStore, Multiset.filterMap_cons] using hrecords
    · simpa [PoolState.blockSequences, PoolCall.blockSequence, Multiset.filterMap_cons]
        using hsequences
  | @destroy handle live handed =>
    obtain ⟨hstores, hrecords, hsequences, hwhole⟩ := h
    rw [PoolState.blockStores, handed] at hstores
    rw [PoolState.recordStores, handed] at hrecords
    rw [PoolState.blockSequences, handed] at hsequences
    rw [handed] at hwhole
    refine ⟨?_, ?_, ?_, fun other hother => hwhole other (Multiset.mem_cons_of_mem hother)⟩
    · simpa [PoolState.blockStores, PoolCall.blockStore, Multiset.filterMap_cons] using hstores
    · simpa [PoolState.recordStores, PoolCall.recordStore, Multiset.filterMap_cons,
        add_left_comm, add_assoc] using hrecords
    · simpa [PoolState.blockSequences, PoolCall.blockSequence, Multiset.filterMap_cons,
        add_left_comm, add_assoc] using hsequences
  | advance underWay permitted =>
    apply Owned.stepped
    rw [← underWay]
    exact h

theorem Reachable.owned {G : PoolState n → Prop} {s : PoolState n} (h : Reachable G s) :
    s.Owned := by
  induction h with
  | refl => exact owned_initial
  | tail _ hstep ih => exact ih.step hstep

/-! ## Room for every call -/

/-- The calls of `Destroy` that have freed a slot but not yet what was in it. -/
def leaving (s : PoolState n) : Nat :=
  s.calls.countP (·.leaving = true)

/-- There is a slot more than are in use and being left. -/
def HasRoom (s : PoolState n) : Prop :=
  used s.memory.blockStoreInUse + s.leaving < n

instance (s : PoolState n) : Decidable s.HasRoom :=
  inferInstanceAs (Decidable (_ < _))

/-- No call has fallen short, and none will while no slot more is claimed. -/
structure Ample (s : PoolState n) : Prop where
  fits : s.blockStores.card + s.leaving ≤ n
  records : Enough s.memory.recordStoreInUse (s.calls.filterMap PoolCall.recordSearch)
  sequences : Enough s.memory.blockSequenceInUse (s.calls.filterMap PoolCall.sequenceSearch)
  supplied : ∀ call ∈ s.calls, call.fellShort = false

theorem ample_initial : (initial n).Ample :=
  ⟨Nat.zero_le _, .none, .none, nofun⟩

theorem card_filterMap_le {α β : Type} (f : α → Option β) (s : Multiset α) :
    (s.filterMap f).card ≤ s.card :=
  Quotient.inductionOn s fun l => List.length_filterMap_le f l

/-- Who searches for a record store has a slot for it. -/
theorem recordStores_le (s : PoolState n) :
    s.recordStores.card + (s.calls.filterMap PoolCall.recordSearch).card ≤
      s.blockStores.card + s.leaving := by
  obtain ⟨m, live, calls⟩ := s
  have hlive := card_filterMap_le (fun handle => (m.inner handle).map Prod.fst) live
  have hcalls : (calls.filterMap PoolCall.recordStore).card +
      (calls.filterMap PoolCall.recordSearch).card ≤
        (calls.filterMap PoolCall.blockStore).card + calls.countP (·.leaving = true) := by
    induction calls using Multiset.induction with
    | empty => exact le_refl _
    | cons call calls ih =>
      simp only [Multiset.filterMap_cons, Multiset.card_add, Multiset.countP_cons]
      generalize calls.countP (·.leaving = true) = left at ih ⊢
      rcases call with _ | _ | _ | _ | _ | _ | ⟨_, _ | _⟩ | _ | _
      all_goals
        simp [PoolCall.recordStore, PoolCall.recordSearch, PoolCall.blockStore, PoolCall.leaving]
        omega
  simp only [PoolState.recordStores, PoolState.blockStores, PoolState.leaving, Multiset.card_add]
  omega

/-- Who searches for a block sequence has a slot for it. -/
theorem blockSequences_le (s : PoolState n) :
    s.blockSequences.card + (s.calls.filterMap PoolCall.sequenceSearch).card ≤
      s.blockStores.card + s.leaving := by
  obtain ⟨m, live, calls⟩ := s
  have hlive := card_filterMap_le (fun handle => (m.inner handle).map Prod.snd) live
  have hcalls : (calls.filterMap PoolCall.blockSequence).card +
      (calls.filterMap PoolCall.sequenceSearch).card ≤
        (calls.filterMap PoolCall.blockStore).card + calls.countP (·.leaving = true) := by
    induction calls using Multiset.induction with
    | empty => exact le_refl _
    | cons call calls ih =>
      simp only [Multiset.filterMap_cons, Multiset.card_add, Multiset.countP_cons]
      generalize calls.countP (·.leaving = true) = left at ih ⊢
      rcases call with _ | _ | _ | _ | _ | _ | ⟨_, _ | _⟩ | _ | _
      all_goals
        simp [PoolCall.blockSequence, PoolCall.sequenceSearch, PoolCall.blockStore,
          PoolCall.leaving]
        omega
  simp only [PoolState.blockSequences, PoolState.blockStores, PoolState.leaving, Multiset.card_add]
  omega

/-- What a step of a call adds to the slots in use and being left. -/
theorem Advanced.fits {outcome : PoolMemory n × Outcome n} (h : Advanced m call outcome)
    (hfits : (PoolState.blockStores ⟨m, live, call ::ₘ calls⟩).card +
      PoolState.leaving ⟨m, live, call ::ₘ calls⟩ ≤ n)
    (hroom : ClaimsBlockStore m call →
      (PoolState.blockStores ⟨m, live, call ::ₘ calls⟩).card +
        PoolState.leaving ⟨m, live, call ::ₘ calls⟩ < n) :
    (PoolState.stepped live calls outcome).blockStores.card +
      (PoolState.stepped live calls outcome).leaving ≤ n := by
  simp only [PoolState.blockStores, PoolState.leaving, Multiset.filterMap_cons, Multiset.card_add,
    Multiset.countP_cons] at hfits hroom
  cases h with
  | claimedBlockStore claims free =>
    have hmore := hroom claims
    simp only [PoolState.stepped, PoolState.blockStores, PoolState.leaving, Multiset.filterMap_cons,
      Multiset.card_add, Multiset.countP_cons]
    generalize calls.countP (·.leaving = true) = left at hmore ⊢
    simp [PoolCall.blockStore, PoolCall.leaving] at hmore ⊢
    omega
  | _ =>
    simp only [PoolState.stepped, PoolState.blockStores, PoolState.leaving, Multiset.filterMap_cons,
      Multiset.card_cons, Multiset.card_add, Multiset.countP_cons]
    generalize calls.countP (·.leaving = true) = left at hfits ⊢
    simp [PoolCall.blockStore, PoolCall.leaving] at hfits ⊢
    omega

/-- The searches for record stores after a step. -/
theorem Advanced.records {outcome : PoolMemory n × Outcome n} (h : Advanced m call outcome)
    (henough : Enough m.recordStoreInUse ((call ::ₘ calls).filterMap PoolCall.recordSearch))
    (hroom : ((PoolState.stepped live calls outcome).calls.filterMap PoolCall.recordSearch).card ≤
      freeFrom (PoolState.stepped live calls outcome).memory.recordStoreInUse 0) :
    Enough (PoolState.stepped live calls outcome).memory.recordStoreInUse
      ((PoolState.stepped live calls outcome).calls.filterMap PoolCall.recordSearch) := by
  rw [Multiset.filterMap_cons] at henough
  cases h with
  | claimedBlockStore claims free =>
    simp only [PoolState.stepped, Multiset.filterMap_cons, PoolCall.recordSearch, Option.map_some,
      Option.getD_some, Multiset.singleton_add, Multiset.card_cons] at hroom ⊢
    exact Enough.join (by simpa [PoolCall.recordSearch] using henough) hroom
  | noRecordStore none =>
    simp only [PoolCall.recordSearch, Option.map_some, Option.getD_some,
      Multiset.singleton_add] at henough
    have hlt := henough.lt
    omega
  | passedRecordStore used =>
    simp only [PoolState.stepped, Multiset.filterMap_cons, PoolCall.recordSearch, Option.map_some,
      Option.getD_some, Multiset.singleton_add] at henough ⊢
    exact henough.pass used
  | claimedRecordStore free =>
    simp only [PoolCall.recordSearch, Option.map_some, Option.getD_some,
      Multiset.singleton_add] at henough
    simpa [PoolState.stepped, PoolCall.recordSearch, Multiset.filterMap_cons]
      using henough.claim free
  | gaveUpRecordStore =>
    simpa [PoolState.stepped, PoolCall.recordSearch, Multiset.filterMap_cons]
      using henough.free _
  | freedRecordStore =>
    simpa [PoolState.stepped, PoolCall.recordSearch] using henough.free _
  | _ =>
    simpa [PoolState.stepped, PoolCall.recordSearch, Multiset.filterMap_cons] using henough

/-- The searches for block sequences after a step. -/
theorem Advanced.sequences {outcome : PoolMemory n × Outcome n} (h : Advanced m call outcome)
    (henough : Enough m.blockSequenceInUse ((call ::ₘ calls).filterMap PoolCall.sequenceSearch))
    (hroom : ((PoolState.stepped live calls outcome).calls.filterMap PoolCall.sequenceSearch).card ≤
      freeFrom (PoolState.stepped live calls outcome).memory.blockSequenceInUse 0) :
    Enough (PoolState.stepped live calls outcome).memory.blockSequenceInUse
      ((PoolState.stepped live calls outcome).calls.filterMap PoolCall.sequenceSearch) := by
  rw [Multiset.filterMap_cons] at henough
  cases h with
  | claimedRecordStore free =>
    simp only [PoolState.stepped, Multiset.filterMap_cons, PoolCall.sequenceSearch, Option.map_some,
      Option.getD_some, Multiset.singleton_add, Multiset.card_cons] at hroom ⊢
    exact Enough.join (by simpa [PoolCall.sequenceSearch] using henough) hroom
  | noBlockSequence none =>
    simp only [PoolCall.sequenceSearch, Option.map_some, Option.getD_some,
      Multiset.singleton_add] at henough
    have hlt := henough.lt
    omega
  | passedBlockSequence used =>
    simp only [PoolState.stepped, Multiset.filterMap_cons, PoolCall.sequenceSearch, Option.map_some,
      Option.getD_some, Multiset.singleton_add] at henough ⊢
    exact henough.pass used
  | claimedBlockSequence free =>
    simp only [PoolCall.sequenceSearch, Option.map_some, Option.getD_some,
      Multiset.singleton_add] at henough
    simpa [PoolState.stepped, PoolCall.sequenceSearch, Multiset.filterMap_cons]
      using henough.claim free
  | freedBlockSequence =>
    simpa [PoolState.stepped, PoolCall.sequenceSearch, Multiset.filterMap_cons]
      using henough.free _
  | _ =>
    simpa [PoolState.stepped, PoolCall.sequenceSearch, Multiset.filterMap_cons] using henough

/-- No call falls short in a step where no search has come to the end. -/
theorem Advanced.supplied {outcome : PoolMemory n × Outcome n} (h : Advanced m call outcome)
    (hrecords : Enough m.recordStoreInUse ((call ::ₘ calls).filterMap PoolCall.recordSearch))
    (hsequences : Enough m.blockSequenceInUse
      ((call ::ₘ calls).filterMap PoolCall.sequenceSearch))
    (hsupplied : ∀ other ∈ call ::ₘ calls, other.fellShort = false) :
    ∀ other ∈ (PoolState.stepped live calls outcome).calls, other.fellShort = false := by
  have hrest : ∀ other ∈ calls, other.fellShort = false :=
    fun other hother => hsupplied other (Multiset.mem_cons_of_mem hother)
  cases h with
  | noRecordStore none =>
    rw [Multiset.filterMap_cons] at hrecords
    simp only [PoolCall.recordSearch, Option.map_some, Option.getD_some,
      Multiset.singleton_add] at hrecords
    have hlt := hrecords.lt
    omega
  | noBlockSequence none =>
    rw [Multiset.filterMap_cons] at hsequences
    simp only [PoolCall.sequenceSearch, Option.map_some, Option.getD_some,
      Multiset.singleton_add] at hsequences
    have hlt := hsequences.lt
    omega
  | gaveUpRecordStore =>
    have hshort := hsupplied _ (Multiset.mem_cons_self _ _)
    cases hshort
  | _ =>
    intro other hother
    first
      | exact hrest other hother
      | rcases Multiset.mem_cons.1 hother with rfl | hother
        · rfl
        · exact hrest other hother

theorem Ample.stepped (howned : Owned ⟨m, live, call ::ₘ calls⟩)
    (h : Ample ⟨m, live, call ::ₘ calls⟩)
    (hroom : ClaimsBlockStore m call → HasRoom ⟨m, live, call ::ₘ calls⟩) :
    (PoolState.stepped live calls (advance m call)).Ample := by
  have hadvanced := advanced howned.freesInUse
  have howned' := howned.stepped
  generalize advance m call = outcome at hadvanced howned'
  have hfits := hadvanced.fits h.fits (by
    intro hclaims
    have hused := hroom hclaims
    unfold HasRoom used at hused
    rwa [howned.blockStores.card] at hused)
  have hrecords := (recordStores_le (PoolState.stepped live calls outcome)).trans hfits
  have hsequences := (blockSequences_le (PoolState.stepped live calls outcome)).trans hfits
  have hfreeRecords := freeFrom_zero howned'.recordStores
  have hfreeSequences := freeFrom_zero howned'.blockSequences
  refine ⟨hfits, hadvanced.records h.records ?_, hadvanced.sequences h.sequences ?_,
    hadvanced.supplied h.records h.sequences h.supplied⟩
  · omega
  · omega

/-- A call that begins leaves no slot. -/
theorem leaving_begun {s : PoolState n} (live : Multiset (Fin n)) (h : call.leaving = false) :
    leaving ⟨s.memory, live, call ::ₘ s.calls⟩ = s.leaving :=
  Multiset.countP_cons_of_neg _ (by simp [h])

theorem Ample.step {s s' : PoolState n} (howned : s.Owned) (h : s.Ample)
    (hstep : Step HasRoom s s') : s'.Ample := by
  cases hstep with
  | create =>
    obtain ⟨hfits, hrecords, hsequences, hsupplied⟩ := h
    refine ⟨?_, ?_, ?_, ?_⟩
    · rw [leaving_begun _ rfl]
      simpa [PoolState.blockStores, PoolCall.blockStore, Multiset.filterMap_cons] using hfits
    · simpa [PoolCall.recordSearch, Multiset.filterMap_cons] using hrecords
    · simpa [PoolCall.sequenceSearch, Multiset.filterMap_cons] using hsequences
    · intro call hcall
      rcases Multiset.mem_cons.1 hcall with rfl | hcall
      · rfl
      · exact hsupplied call hcall
  | @destroy handle live handed =>
    obtain ⟨hfits, hrecords, hsequences, hsupplied⟩ := h
    refine ⟨?_, ?_, ?_, ?_⟩
    · rw [PoolState.blockStores, handed] at hfits
      rw [leaving_begun _ rfl]
      simpa [PoolState.blockStores, PoolCall.blockStore, Multiset.filterMap_cons] using hfits
    · simpa [PoolCall.recordSearch, Multiset.filterMap_cons] using hrecords
    · simpa [PoolCall.sequenceSearch, Multiset.filterMap_cons] using hsequences
    · intro call hcall
      rcases Multiset.mem_cons.1 hcall with rfl | hcall
      · rfl
      · exact hsupplied call hcall
  | @advance call calls underWay permitted =>
    obtain ⟨m, live, all⟩ := s
    obtain rfl : all = call ::ₘ calls := underWay
    exact Ample.stepped howned h permitted

theorem Reachable.ample {s : PoolState n} (h : Reachable HasRoom s) : s.Ample := by
  induction h with
  | refl => exact ample_initial
  | tail hreachable hstep ih => exact ih.step (Reachable.owned hreachable) hstep

/-! ## One to one -/

/-- No `Create` that has a slot goes without what belongs into it, no two stores handed out share
one of the three slots, and when no call is under way each pool has a slot in use for each store
handed out. -/
structure OneToOne (s : PoolState n) : Prop where
  supplied : ∀ call ∈ s.calls, call.fellShort = false
  distinct : s.live.Nodup ∧ ∀ a ∈ s.live, ∀ b ∈ s.live, a ≠ b → ∃ inner inner',
    s.memory.inner a = some inner ∧ s.memory.inner b = some inner' ∧ inner.1 ≠ inner'.1 ∧
      inner.2 ≠ inner'.2
  settled : s.calls = 0 → used s.memory.blockStoreInUse = s.live.card ∧
    used s.memory.recordStoreInUse = s.live.card ∧ used s.memory.blockSequenceInUse = s.live.card

/-- Two stores handed out hold different slots of a pool. -/
theorem ne_of_nodup {held : Multiset (Fin n)} {inner : Fin n → Option (Fin n × Fin n)}
    {f : Fin n × Fin n → Fin n} {a b : Fin n} {x y : Fin n × Fin n}
    (h : ((live.filterMap fun handle => (inner handle).map f) + held).Nodup) (ha : a ∈ live)
    (hb : b ∈ live) (hab : a ≠ b) (hx : inner a = some x) (hy : inner b = some y) : f x ≠ f y := by
  obtain ⟨others, rfl⟩ := Multiset.exists_cons_of_mem ha
  have hb' : b ∈ others := (Multiset.mem_cons.1 hb).resolve_left (Ne.symm hab)
  obtain ⟨rest, rfl⟩ := Multiset.exists_cons_of_mem hb'
  intro heq
  simp [hx, hy, heq] at h

theorem Owned.oneToOne {s : PoolState n} (h : s.Owned)
    (hsupplied : ∀ call ∈ s.calls, call.fellShort = false) : s.OneToOne := by
  have hall : ∀ f : Fin n × Fin n → Fin n,
      (s.live.filterMap fun handle => (s.memory.inner handle).map f).card = s.live.card := by
    intro f
    have hwhole := h.whole
    generalize s.live = live at hwhole ⊢
    induction live using Multiset.induction with
    | empty => rfl
    | cons handle live ih =>
      obtain ⟨inner, hinner⟩ := Option.isSome_iff_exists.1 (hwhole handle (by simp))
      have hrest := ih fun other hother => hwhole other (Multiset.mem_cons_of_mem hother)
      simp [hinner, hrest]
  refine ⟨hsupplied, ⟨?_, ?_⟩, ?_⟩
  · exact (Multiset.nodup_add.1 h.blockStores.nodup).1
  · intro a ha b hb hab
    obtain ⟨inner, hinner⟩ := Option.isSome_iff_exists.1 (h.whole a ha)
    obtain ⟨inner', hinner'⟩ := Option.isSome_iff_exists.1 (h.whole b hb)
    exact ⟨inner, inner', hinner, hinner', ne_of_nodup h.recordStores.nodup ha hb hab
      hinner hinner', ne_of_nodup h.blockSequences.nodup ha hb hab hinner hinner'⟩
  · intro hnone
    unfold used
    rw [h.blockStores.card, h.recordStores.card, h.blockSequences.card]
    simp [PoolState.blockStores, PoolState.recordStores, PoolState.blockSequences, hnone, hall]

/-- A call has fewer steps left after each of its steps. -/
theorem stepsLeft_lt {next : PoolCall n} (h : (advance m call).2 = .goesOn next) :
    next.stepsLeft < call.stepsLeft := by
  cases call with
  | acquireBlockStore acquired =>
    simp only [advance] at h
    split at h
    · cases h
    · next hpassed =>
      obtain ⟨slot, rfl, -⟩ := tryClaim_passed hpassed
      have hlt := slot.isLt
      cases h
      simp only [PoolCall.stepsLeft]
      omega
    · next hclaimed =>
      cases h
      simp only [PoolCall.stepsLeft]
      omega
  | acquireRecordStore index acquired =>
    simp only [advance] at h
    split at h
    · cases h
      simp only [PoolCall.stepsLeft]
      omega
    · next hpassed =>
      obtain ⟨slot, rfl, -⟩ := tryClaim_passed hpassed
      have hlt := slot.isLt
      cases h
      simp only [PoolCall.stepsLeft]
      omega
    · cases h
      simp only [PoolCall.stepsLeft]
      omega
  | acquireBlockSequence index recordStore acquired =>
    simp only [advance] at h
    split at h
    · cases h
      simp only [PoolCall.stepsLeft]
      omega
    · next hpassed =>
      obtain ⟨slot, rfl, -⟩ := tryClaim_passed hpassed
      have hlt := slot.isLt
      cases h
      simp only [PoolCall.stepsLeft]
      omega
    · cases h
      simp only [PoolCall.stepsLeft]
      omega
  | freeBlockStore index inner =>
    simp only [advance] at h
    split at h
    · cases inner with
      | none => cases h
      | some inner =>
        cases h
        simp [PoolCall.stepsLeft]
    · cases h
  | initialise index recordStore blockSequence => cases h
  | giveUpRecordStore index recordStore =>
    cases h
    simp [PoolCall.stepsLeft]
  | giveUpBlockStore index => cases h
  | freeBlockSequence recordStore blockSequence =>
    cases h
    simp [PoolCall.stepsLeft]
  | freeRecordStore recordStore => cases h

/-- Where every slot of the block stores' own pool is claimed with a slot more than are in use and
being left, the pools stay one to one, and every call returns. -/
theorem pools_stay_one_to_one {s : PoolState n} (h : Reachable HasRoom s) :
    s.OneToOne ∧ ∀ call ∈ s.calls, ∀ next, (advance s.memory call).2 = .goesOn next →
      next.stepsLeft < call.stepsLeft :=
  ⟨h.owned.oneToOne h.ample.supplied, fun _ _ _ => stepsLeft_lt⟩

/-- One call is at its next step, at the head of those under way. -/
theorem next {G : PoolState n → Prop} {s₀ : PoolState n}
    (h : Relation.ReflTransGen (Step G) s₀ ⟨m, live, call ::ₘ calls⟩)
    (hG : ClaimsBlockStore m call → G ⟨m, live, call ::ₘ calls⟩) :
    Relation.ReflTransGen (Step G) s₀ (PoolState.stepped live calls (advance m call)) :=
  h.tail (.advance rfl hG)

/-- A pool of one slot with no store in it. -/
def noStore (inner : Fin 1 → Option (Fin 1 × Fin 1)) : PoolState 1 :=
  ⟨⟨fun _ => false, fun _ => false, fun _ => false, inner⟩, 0, 0⟩

/-- A pool of one slot with a store in it. -/
def oneStore : PoolState 1 :=
  ⟨⟨fun _ => true, fun _ => true, fun _ => true, fun _ => some (0, 0)⟩, 0 ::ₘ 0, 0⟩

/-- A `Create` alone. -/
theorem noStore_creates {G : PoolState 1 → Prop} {inner : Fin 1 → Option (Fin 1 × Fin 1)}
    (hG : G ⟨(noStore inner).memory, 0, .acquireBlockStore 0 ::ₘ 0⟩) :
    Relation.ReflTransGen (Step G) (noStore inner) oneStore := by
  have hcreate : Relation.ReflTransGen (Step G) (noStore inner)
      ⟨(noStore inner).memory, 0, .acquireBlockStore 0 ::ₘ 0⟩ :=
    Relation.ReflTransGen.refl.tail (.create _)
  have hstore : Relation.ReflTransGen (Step G) (noStore inner)
      ⟨_, 0, .acquireRecordStore 0 0 ::ₘ 0⟩ := next hcreate fun _ => hG
  have hrecord : Relation.ReflTransGen (Step G) (noStore inner)
      ⟨_, 0, .acquireBlockSequence 0 0 0 ::ₘ 0⟩ := next hstore nofun
  have hsequence : Relation.ReflTransGen (Step G) (noStore inner)
      ⟨_, 0, .initialise 0 0 0 ::ₘ 0⟩ := next hrecord nofun
  have hdone : Relation.ReflTransGen (Step G) (noStore inner) ⟨_, 0 ::ₘ 0, 0⟩ :=
    next hsequence nofun
  convert hdone using 1
  unfold oneStore noStore
  congr 2 <;> funext slot <;> simp [Subsingleton.elim slot 0]

/-- A `Destroy` begins. -/
theorem oneStore_destroys {G : PoolState 1 → Prop} : Relation.ReflTransGen (Step G) oneStore
    ⟨⟨fun _ => false, fun _ => true, fun _ => true, fun _ => some (0, 0)⟩, 0,
      .freeBlockSequence 0 0 ::ₘ 0⟩ := by
  have hdestroy : Relation.ReflTransGen (Step G) oneStore
      ⟨oneStore.memory, 0, .freeBlockStore 0 (some (0, 0)) ::ₘ 0⟩ :=
    Relation.ReflTransGen.refl.tail (.destroy rfl)
  have hfreed : Relation.ReflTransGen (Step G) oneStore ⟨_, 0, .freeBlockSequence 0 0 ::ₘ 0⟩ :=
    next hdestroy nofun
  convert hfreed using 1
  unfold oneStore
  congr 2
  funext slot
  simp [Subsingleton.elim slot 0]

theorem oneStore_empties {G : PoolState 1 → Prop} :
    Relation.ReflTransGen (Step G) oneStore (noStore fun _ => some (0, 0)) := by
  have hsequence : Relation.ReflTransGen (Step G) oneStore ⟨_, 0, .freeRecordStore 0 ::ₘ 0⟩ :=
    next oneStore_destroys nofun
  have hdone : Relation.ReflTransGen (Step G) oneStore ⟨_, 0, 0⟩ := next hsequence nofun
  convert hdone using 1
  unfold noStore
  congr 2 <;> funext slot <;> simp [Subsingleton.elim slot 0]

theorem reachable_oneStore {G : PoolState 1 → Prop}
    (hG : G ⟨(initial 1).memory, 0, .acquireBlockStore 0 ::ₘ 0⟩) : Reachable G oneStore :=
  noStore_creates hG

/-- A store is created, destroyed and created again. -/
theorem recreated_one_to_one :
    Reachable HasRoom oneStore ∧
    Relation.ReflTransGen (Step HasRoom) oneStore (noStore fun _ => some (0, 0)) ∧
    Relation.ReflTransGen (Step HasRoom) (noStore fun _ => some (0, 0)) oneStore ∧
    (noStore fun _ => some (0, 0)).OneToOne ∧ oneStore.OneToOne := by
  have hcreated : Reachable HasRoom oneStore := reachable_oneStore (by decide)
  have hagain : Relation.ReflTransGen (Step HasRoom) (noStore fun _ => some (0, 0)) oneStore :=
    noStore_creates (by decide)
  have hdestroyed : Reachable HasRoom (noStore fun _ => some (0, 0)) :=
    hcreated.trans oneStore_empties
  exact ⟨hcreated, oneStore_empties, hagain, (pools_stay_one_to_one hdestroyed).1,
    (pools_stay_one_to_one (hdestroyed.trans hagain)).1⟩

/-- In a pool of one slot, a `Create` claims the slot while a `Destroy` has not given back what was
in it, finds no record store and gives the slot up. -/
theorem create_inside_destroy_falls_short :
    ¬ ∀ s : PoolState 1, Reachable (fun _ => True) s → s.OneToOne := by
  intro hall
  have hfreed : Reachable (fun _ => True) ⟨_, 0, .freeBlockSequence 0 0 ::ₘ 0⟩ :=
    (reachable_oneStore trivial).trans oneStore_destroys
  have hcreate : Reachable (fun _ => True)
      ⟨_, 0, .acquireBlockStore 0 ::ₘ .freeBlockSequence 0 0 ::ₘ 0⟩ :=
    hfreed.tail (.create _)
  have hclaimed : Reachable (fun _ => True)
      ⟨_, 0, .acquireRecordStore 0 0 ::ₘ .freeBlockSequence 0 0 ::ₘ 0⟩ :=
    next hcreate fun _ => trivial
  have hpassed : Reachable (fun _ => True)
      ⟨_, 0, .acquireRecordStore 0 1 ::ₘ .freeBlockSequence 0 0 ::ₘ 0⟩ := next hclaimed nofun
  have hshort : Reachable (fun _ => True)
      ⟨_, 0, .giveUpBlockStore 0 ::ₘ .freeBlockSequence 0 0 ::ₘ 0⟩ := next hpassed nofun
  have hsupplied := (hall _ hshort).supplied (.giveUpBlockStore 0) (by simp)
  cases hsupplied

end PoolState

end SolidSyslog.Store
