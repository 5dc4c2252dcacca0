import SolidSyslog.Event
import SolidSyslog.Lib.Ensures
import SolidSyslog.Lib.Span
import Mathlib.Algebra.GroupWithZero.Nat

/-!
# What the block store runs on

The block device, the security policy, the discard policy and the integrator's callbacks are outside
the store. Each call of one is a `Request`; a `Platform` says what it answers and what it does, from
a device that works to one that fails at any call. Calls are noted in a trace, with a few notes of
the store's own doings that the statements about it speak of and the code does not keep.

Positions in a block are natural numbers: a block is smaller than the address space it is read
through. The sums over all blocks are `size_t`, which need not hold them.
-/

namespace SolidSyslog.Store

open Lib

/-- `BLOCK_SEQUENCE_MODULUS`. -/
abbrev modulus : Nat := 100

instance : NeZero modulus :=
  ⟨by decide⟩

/-- A block's number in the circular sequence space. -/
abbrev Sequence := Fin modulus

/-- `enum SolidSyslogBlockStoreErrors`. -/
inductive BlockStoreError where
  | poolExhausted
  | unknownDestroy
  | blockTooSmall
  | sealFailed
  | openFailed
  | appendFailed
  | rotateFailed
  | disposeFailed
  | markSentFailed
  | readFailed
  | sizeFailed
  | recordRejected
  | recordCorrupt
  | recordRefused
  | blockEvicted
  | trailerTooLarge
  | nullConfig
  | nullBlockDevice
  | thresholdCrossed
  | max
  deriving DecidableEq, Repr

/-- `enum SolidSyslogSecurityPolicyOpenResult`. -/
inductive OpenResult where
  | rejected
  | opened
  | couldNotRun
  deriving DecidableEq, Repr

/-- What `SolidSyslogBlockStore_Create` is given and accepts: a policy whose trailer fits, the
block size the device reports, and the block ceiling as configured. -/
structure Config where
  tunables : Tunables
  trailerSize : Nat
  deviceBlockSize : Nat
  configuredMaxBlocks : Nat
  hasThreshold : Bool
  trailerFits : trailerSize ≤ tunables.maxIntegritySize

/-- Two blocks that hold one record of the greatest length each, and no trailer. -/
def Config.small : Config :=
  ⟨.small, 0, 69, 2, false, by decide⟩

/-! ## Calls -/

/-- A call out of the store. -/
inductive Request where
  | acquire (block : Sequence)
  | dispose (block : Sequence)
  | blockExists (block : Sequence)
  | read (block : Sequence) (offset count : Nat)
  | append (block : Sequence) (bytes : Bytes)
  | writeAt (block : Sequence) (offset : Nat) (bytes : Bytes)
  | size (block : Sequence)
  | sealRecord (content : Bytes)
  | openRecord (content trailer : Bytes)
  | getDiscardPolicy
  | getCapacityThreshold
  | onThresholdCrossed
  | report (severity : Severity) (category : Category) (error : BlockStoreError)
  deriving DecidableEq

/-- What a call answers: `none` from a device that failed or a policy that would not seal. A seal
gives the content and the trailer it left behind, an opened record its content. -/
@[reducible] def Request.Answer : Request → Type
  | .acquire _ => Bool
  | .dispose _ => Bool
  | .blockExists _ => Bool
  | .read _ _ _ => Option Bytes
  | .append _ _ => Bool
  | .writeAt _ _ _ => Bool
  | .size _ => Option Nat
  | .sealRecord _ => Option (Bytes × Bytes)
  | .openRecord _ _ => OpenResult × Bytes
  | .getDiscardPolicy => DiscardPolicy
  | .getCapacityThreshold => Nat
  | .onThresholdCrossed => Unit
  | .report _ _ _ => Unit

instance : (request : Request) → DecidableEq request.Answer
  | .acquire _ | .dispose _ | .blockExists _ | .append _ _ | .writeAt _ _ _ =>
    inferInstanceAs (DecidableEq Bool)
  | .read _ _ _ => inferInstanceAs (DecidableEq (Option Bytes))
  | .size _ => inferInstanceAs (DecidableEq (Option Nat))
  | .sealRecord _ => inferInstanceAs (DecidableEq (Option (Bytes × Bytes)))
  | .openRecord _ _ => inferInstanceAs (DecidableEq (OpenResult × Bytes))
  | .getDiscardPolicy => inferInstanceAs (DecidableEq DiscardPolicy)
  | .getCapacityThreshold => inferInstanceAs (DecidableEq Nat)
  | .onThresholdCrossed | .report _ _ _ => inferInstanceAs (DecidableEq Unit)

/-- Everything outside the store. -/
structure Platform (σ : Type) where
  answer : (request : Request) → σ → request.Answer × σ

/-- An entry of the trace. Beside the calls: the run of blocks the store now works on, a record
handed out (its block, its start and the length of its message), a record stepped past because the
policy rejected it, and a loop of the source that would not have ended. -/
inductive Event where
  | call (request : Request) (answer : request.Answer)
  | run (oldest write : Sequence)
  | handedOut (block : Sequence) (start length : Nat)
  | steppedPast (block : Sequence) (start length : Nat)
  | endless
  deriving DecidableEq

/-- The outside and the trace. -/
structure World (σ : Type) where
  env : σ
  trace : List Event

variable {σ : Type}

namespace World

/-- A call out of the store. -/
def ask (P : Platform σ) (request : Request) : StateM (World σ) request.Answer :=
  modifyGet fun w =>
    let outcome := P.answer request w.env
    (outcome.1, ⟨outcome.2, w.trace ++ [.call request outcome.1]⟩)

/-- A note in the trace. -/
def note (event : Event) : StateM (World σ) Unit :=
  modify fun w => { w with trace := w.trace ++ [event] }

end World

/-! ## Spans of a fixed length -/

/-- The bytes that were written into a span of `n`: whoever fills a span fills all of it and
nothing else. -/
def fit (n : Nat) (bytes : Bytes) : Bytes :=
  (bytes ++ List.replicate n 0).take n

@[simp] theorem length_fit (n : Nat) (bytes : Bytes) : (fit n bytes).length = n := by
  simp [fit]

theorem fit_of_length_eq {n : Nat} {bytes : Bytes} (h : bytes.length = n) :
    fit n bytes = bytes := by
  subst h
  simp [fit]

end SolidSyslog.Store
