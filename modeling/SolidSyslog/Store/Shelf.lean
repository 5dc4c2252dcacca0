import SolidSyslog.Store.Entry
import SolidSyslog.Lib.CircularList
import Mathlib.Data.List.ModifyLast

/-!
# The records in the blocks

What a store that started on an empty device has on the media: whole records, block after block,
and at the end of a block what is left of one whose append was cut short. A `Shelf` is these blocks
with the read position in the first; its queue is what lies from there on.
-/

namespace SolidSyslog.Store

open Lib

variable {σ : Type} {P : Platform σ} {C : Config}

/-- Records one after the other. -/
def recordsBytes (C : Config) (entries : List Entry) : Bytes :=
  entries.flatMap (Entry.bytes C)

@[simp] theorem recordsBytes_nil : recordsBytes C [] = [] :=
  rfl

@[simp] theorem recordsBytes_cons (e : Entry) (entries : List Entry) :
    recordsBytes C (e :: entries) = e.bytes C ++ recordsBytes C entries :=
  List.flatMap_cons

@[simp] theorem recordsBytes_append (entries entries' : List Entry) :
    recordsBytes C (entries ++ entries') = recordsBytes C entries ++ recordsBytes C entries' :=
  List.flatMap_append

theorem recordsBytes_concat (entries : List Entry) (e : Entry) :
    recordsBytes C (entries ++ [e]) = recordsBytes C entries ++ e.bytes C := by
  simp

/-- Nothing, or what no record store takes for a record. -/
def Config.IsTorn (C : Config) (bytes : Bytes) : Prop :=
  bytes = [] ∨ ∀ front, C.extentAt (front ++ bytes) front.length = .error .corrupt

theorem Config.isTorn_nil : C.IsTorn [] :=
  .inl rfl

/-! ## Blocks -/

/-- The records of a block and what is left of one more. -/
structure Block where
  entries : List Entry
  torn : Bytes

namespace Block

/-- The bytes on the media. -/
def bytes (C : Config) (b : Block) : Bytes :=
  recordsBytes C b.entries ++ b.torn

/-- A new block. -/
def fresh : Block :=
  ⟨[], []⟩

/-- With one more record. -/
def stored (e : Entry) (b : Block) : Block :=
  { b with entries := b.entries ++ [e] }

/-- Its records are well formed and the rest is no record. -/
structure WellFormed (C : Config) (b : Block) : Prop where
  entries : ∀ e ∈ b.entries, e.WellFormed C
  torn : C.IsTorn b.torn

theorem wellFormed_fresh : fresh.WellFormed C :=
  ⟨nofun, C.isTorn_nil⟩

variable {b : Block} {e : Entry}

theorem WellFormed.stored (h : b.WellFormed C) (he : e.WellFormed C) :
    (b.stored e).WellFormed C where
  entries := by
    intro e' he'
    rcases List.mem_append.1 he' with he' | he'
    · exact h.entries e' he'
    · rw [List.mem_singleton.1 he']
      exact he
  torn := h.torn

/-- A record goes behind the last one where that is whole. -/
theorem bytes_stored (e : Entry) (hwhole : b.torn = []) :
    (b.stored e).bytes C = b.bytes C ++ e.bytes C := by
  simp [bytes, stored, hwhole]

end Block

/-! ## Shelves -/

/-- The read block, in its records behind and from the read position on, and the blocks after it. -/
structure Shelf where
  behind : List Entry
  unread : List Entry
  torn : Bytes
  later : List Block

namespace Shelf

/-- The read block. -/
def readBlock (S : Shelf) : Block :=
  ⟨S.behind ++ S.unread, S.torn⟩

/-- All blocks. -/
def blocks (S : Shelf) : List Block :=
  S.readBlock :: S.later

/-- The records from the read position on. -/
def queue (S : Shelf) : List Entry :=
  S.unread ++ S.later.flatMap Block.entries

/-- One empty block. -/
def empty : Shelf :=
  ⟨[], [], [], []⟩

/-- Without the read block. -/
def left (S : Shelf) : Shelf :=
  match S.later with
  | [] => empty
  | b :: later => ⟨[], b.entries, b.torn, later⟩

/-- With a new block. -/
def extended (S : Shelf) : Shelf :=
  { S with later := S.later ++ [.fresh] }

/-- With one more record in the last block. -/
def stored (e : Entry) (S : Shelf) : Shelf :=
  if S.later = [] then { S with unread := S.unread ++ [e] }
  else { S with later := S.later.modifyLast (Block.stored e) }

/-- The record at the read position is behind it. -/
def passed (S : Shelf) : Shelf :=
  { S with behind := S.behind ++ S.unread.head?.toList, unread := S.unread.tail }

/-- The record at the read position is marked, and behind it. -/
def marked (S : Shelf) : Shelf :=
  { S with
    behind := S.behind ++ S.unread.head?.toList.map ({ · with flag := sentFlagSent })
    unread := S.unread.tail }

variable {S : Shelf} {e : Entry} {rest : List Entry} {b : Block} {later : List Block}

/-! ### What becomes of the blocks -/

theorem blocks_left (hlater : S.later ≠ []) : S.left.blocks = S.later := by
  obtain ⟨behind, unread, torn, _ | ⟨b, later⟩⟩ := S
  · exact absurd rfl hlater
  · rfl

theorem blocks_extended (S : Shelf) : S.extended.blocks = S.blocks ++ [.fresh] :=
  rfl

theorem blocks_stored (e : Entry) (S : Shelf) :
    (S.stored e).blocks = S.blocks.modifyLast (Block.stored e) := by
  unfold stored blocks
  split
  · next hlast =>
    rw [hlast]
    change [(⟨S.behind ++ (S.unread ++ [e]), S.torn⟩ : Block)] = _
    rw [← List.append_assoc]
    rfl
  · next hlater =>
    obtain ⟨front, b, hfront⟩ := List.eq_nil_or_concat S.later |>.resolve_left hlater
    rw [List.concat_eq_append] at hfront
    have hread : ({ S with later := S.later.modifyLast (Block.stored e) } : Shelf).readBlock =
      S.readBlock := rfl
    rw [hread]
    dsimp only
    rw [hfront, List.modifyLast_concat, ← List.cons_append, ← List.cons_append,
      List.modifyLast_concat]

theorem readBlock_passed (S : Shelf) : S.passed.readBlock = S.readBlock := by
  obtain ⟨behind, _ | ⟨e, rest⟩, torn, later⟩ := S
  · simp [passed, readBlock]
  · simp [passed, readBlock]

theorem blocks_passed (S : Shelf) : S.passed.blocks = S.blocks := by
  rw [blocks, readBlock_passed]
  rfl

theorem blocks_marked (hunread : S.unread = e :: rest) : S.marked.blocks =
    ⟨S.behind ++ { e with flag := sentFlagSent } :: rest, S.torn⟩ :: S.later := by
  simp [blocks, readBlock, marked, hunread]

/-! ### What becomes of the queue -/

theorem queue_left (S : Shelf) : S.left.queue = S.later.flatMap Block.entries := by
  obtain ⟨behind, unread, torn, _ | ⟨b, later⟩⟩ := S
  · rfl
  · simp [left, queue]

theorem queue_extended (S : Shelf) : S.extended.queue = S.queue := by
  simp [queue, extended, Block.fresh]

theorem queue_stored (e : Entry) (S : Shelf) : (S.stored e).queue = S.queue ++ [e] := by
  unfold stored
  split
  · next hlast => simp [queue, hlast]
  · next hlater =>
    obtain ⟨front, b, hfront⟩ := List.eq_nil_or_concat S.later |>.resolve_left hlater
    rw [List.concat_eq_append] at hfront
    rw [queue, queue]
    dsimp only
    rw [hfront, List.modifyLast_concat]
    simp [Block.stored]

theorem queue_passed (hunread : S.unread = e :: rest) : S.queue = e :: S.passed.queue := by
  simp [queue, passed, hunread]

theorem queue_marked (hunread : S.unread = e :: rest) : S.queue = e :: S.marked.queue := by
  simp [queue, marked, hunread]

end Shelf

end SolidSyslog.Store
