import SolidSyslog.Store.Media
import SolidSyslog.Lib.Trace

/-!
# Sizes of blocks, in the trace

What the store has been told of the size of each block, and has added to it since, can be told from
the trace (`sizesKnown`). A read within that size, a record that fits into the record buffer and a
loop that ends are `WithinBounds`.
-/

namespace SolidSyslog.Store

open Lib

variable {σ : Type} {P : Platform σ} {C : Config} {G : Prop}

/-- `RECORD_BUFFER_SIZE`. -/
def Config.recordBufferSize (C : Config) : Nat :=
  2 + 2 + C.tunables.maxMessageSize + C.tunables.maxIntegritySize + 1

/-- What an event adds to the sizes known. -/
def Event.learn (known : Sequence → Option Nat) : Event → Sequence → Option Nat
  | .call (.size block) (some size) => Function.update known block (some size)
  | .call (.acquire block) true => Function.update known block (some 0)
  | .call (.dispose block) true => Function.update known block none
  | .call (.append block bytes) true =>
    Function.update known block ((known block).map (· + bytes.length))
  | _ => known

/-- The size of each block: the one the device gave last, or none for a block just acquired, and
what was appended since. -/
def sizesKnown (trace : List Event) : Sequence → Option Nat :=
  trace.foldl Event.learn fun _ => none

theorem sizesKnown_concat (trace : List Event) (event : Event) :
    sizesKnown (trace ++ [event]) = event.learn (sizesKnown trace) := by
  simp [sizesKnown]

/-- The message, its frame and its trailer fit into the record buffer. -/
def Config.FitsBuffer (C : Config) (content : Bytes) : Prop :=
  content.length + C.trailerSize + 1 ≤ C.recordBufferSize

/-- A size the device gives of some block at some time. -/
def Platform.Tells (P : Platform σ) (size : Nat) : Prop :=
  ∃ block env, (P.answer (.size block) env).1 = some size

/-- A read within the size known, where `G` holds; an append within the block size; a size the
device gave; a record within the record buffer; and no loop without an end. -/
def WithinBounds (P : Platform σ) (G : Prop) (C : Config) (before : List Event) : Event → Prop
  | .call (.read block offset count) _ =>
    G → ∃ size, sizesKnown before block = some size ∧ offset + count ≤ size
  | .call (.append block bytes) _ =>
    ∃ size, sizesKnown before block = some size ∧ size + bytes.length ≤ C.maxBlockSize
  | .call (.size _) answer => ∀ size, answer = some size → P.Tells size
  | .call (.sealRecord content) _ => C.FitsBuffer content
  | .call (.openRecord content trailer) _ => C.FitsBuffer content ∧ trailer.length = C.trailerSize
  | .endless => False
  | _ => True

/-- An event that neither touches a block or asks for its size nor can be out of bounds. -/
def Event.isPlain : Event → Bool
  | .call (.size _) _ | .call (.acquire _) _ | .call (.dispose _) _ | .call (.append _ _) _
  | .call (.read _ _ _) _ | .call (.writeAt _ _ _) _ | .call (.sealRecord _) _
  | .call (.openRecord _ _) _ | .endless => false
  | _ => true

theorem learn_of_plain {event : Event} (h : event.isPlain = true) (known : Sequence → Option Nat) :
    event.learn known = known := by
  rcases event with ⟨request, answer⟩ | _ | _ | _ | _
  · cases request <;> first | rfl | cases h
  all_goals rfl

theorem withinBounds_of_plain {event : Event} (h : event.isPlain = true) (before : List Event) :
    WithinBounds P G C before event := by
  rcases event with ⟨request, answer⟩ | _ | _ | _ | _
  · cases request <;> trivial
  all_goals trivial

/-! ## Looking at a block -/

/-- What a look at a block's records does: reads within the block's data and a question to the
policy. -/
def Event.LooksAt (C : Config) (block : Sequence) (dataSize : Nat) : Event → Prop
  | .call (.read block' offset count) _ => block' = block ∧ offset + count ≤ dataSize
  | .call (.openRecord content trailer) _ => C.FitsBuffer content ∧ trailer.length = C.trailerSize
  | _ => False

theorem learn_of_looksAt {block : Sequence} {dataSize : Nat} {event : Event}
    (h : event.LooksAt C block dataSize) (known : Sequence → Option Nat) :
    event.learn known = known := by
  rcases event with ⟨request, answer⟩ | _ | _ | _ | _
  · cases request <;> first | rfl | exact h.elim
  all_goals exact h.elim

theorem withinBounds_of_looksAt {block : Sequence} {dataSize : Nat} {before : List Event}
    {event : Event} (h : event.LooksAt C block dataSize)
    (hknown : G → sizesKnown before block = some dataSize) : WithinBounds P G C before event := by
  rcases event with ⟨request, answer⟩ | _ | _ | _ | _
  · cases request with
    | read block' offset count =>
      obtain ⟨rfl, hle⟩ := h
      exact fun hG => ⟨dataSize, hknown hG, hle⟩
    | openRecord content trailer => exact h
    | _ => exact h.elim
  all_goals exact h.elim

/-- A look at a block leaves the sizes known as they were. -/
theorem sizesKnown_of_looks {block : Sequence} {dataSize : Nat} {t t' : List Event}
    (h : Extends (Event.LooksAt C block dataSize) t t') : sizesKnown t' = sizesKnown t :=
  h.fold_eq fun known _ hlook => learn_of_looksAt hlook known

/-- A look at a block whose size is known stays within bounds. -/
theorem always_of_looks {block : Sequence} {dataSize : Nat} {t t' : List Event}
    (h : Extends (Event.LooksAt C block dataSize) t t') (ht : Always (WithinBounds P G C) t)
    (hknown : G → sizesKnown t block = some dataSize) : Always (WithinBounds P G C) t' := by
  apply h.always ht
  intro before event hbefore hlook
  apply withinBounds_of_looksAt hlook
  rwa [sizesKnown_of_looks hbefore]

end SolidSyslog.Store
