import SolidSyslog.Store.Media
import SolidSyslog.Lib.Trace

/-!
# Writes in place, in the trace

The trace says which record was handed out last and can still be marked (`markable`) and which
flags the blocks on the device already carry (`flagsWritten`).
-/

namespace SolidSyslog.Store

open Lib

variable {σ : Type} {P : Platform σ} {C : Config}

/-! ## What the trace says -/

/-- The record handed out last, for as long as nothing has been written in place since and its block
has neither been disposed of nor acquired: its block, its start and the length of its message. -/
def markable (trace : List Event) : Option (Sequence × Nat × Nat) :=
  trace.foldl (fun handed event => match event with
    | .handedOut block start length => some (block, start, length)
    | .call (.writeAt _ _ _) _ => none
    | .call (.acquire block) _ | .call (.dispose block) _ => handed.filter (·.1 ≠ block)
    | _ => handed) none

/-- The places written in blocks that have neither been disposed of nor acquired since. -/
def flagsWritten (trace : List Event) : List (Sequence × Nat) :=
  trace.foldl (fun flags event => match event with
    | .call (.writeAt block offset _) _ => (block, offset) :: flags
    | .call (.acquire block) _ | .call (.dispose block) _ => flags.filter (·.1 ≠ block)
    | _ => flags) []

/-- A write in place sets the sent flag of the record handed out last, which no write has set. -/
def MarksRecord (C : Config) (before : List Event) : Event → Prop
  | .call (.writeAt block offset bytes) _ => bytes = [0x00] ∧
      (∃ start length, markable before = some (block, start, length) ∧
        offset = start + 4 + length + C.trailerSize) ∧
      (block, offset) ∉ flagsWritten before
  | _ => True

/-- An event that neither hands a record out, nor writes in place, nor disposes of a block, nor
acquires one. -/
def Event.isIdle : Event → Bool
  | .handedOut _ _ _ | .call (.writeAt _ _ _) _ | .call (.acquire _) _
  | .call (.dispose _) _ => false
  | _ => true

theorem markable_concat_idle (trace : List Event) {event : Event} (h : event.isIdle = true) :
    markable (trace ++ [event]) = markable trace := by
  rw [markable, List.foldl_append]
  rcases event with ⟨request, _⟩ | _ | _ | _ | _
  · cases request <;> first | rfl | cases h
  all_goals first | rfl | cases h

theorem flagsWritten_concat_idle (trace : List Event) {event : Event} (h : event.isIdle = true) :
    flagsWritten (trace ++ [event]) = flagsWritten trace := by
  rw [flagsWritten, List.foldl_append]
  rcases event with ⟨request, _⟩ | _ | _ | _ | _
  · cases request <;> first | rfl | cases h
  all_goals rfl

theorem marksRecord_of_idle (trace : List Event) {event : Event} (h : event.isIdle = true) :
    MarksRecord C trace event := by
  rcases event with ⟨request, _⟩ | _ | _ | _ | _
  · cases request <;> first | exact trivial | cases h
  all_goals exact trivial

/-! ## What a stretch of the trace leaves alone -/

namespace World

/-- From `w` to `w'` the store did nothing to the block's record handed out. -/
structure Leaves (C : Config) (block : Sequence) (w w' : World σ) : Prop where
  marks : Always (MarksRecord C) w.trace → Always (MarksRecord C) w'.trace
  markable : ∀ start length, Store.markable w.trace = some (block, start, length) →
    Store.markable w'.trace = some (block, start, length)
  flags : ∀ flag ∈ flagsWritten w'.trace, flag ∈ flagsWritten w.trace

variable {w w' w'' : World σ} {block : Sequence}

theorem Leaves.refl (w : World σ) : Leaves C block w w :=
  ⟨id, fun _ _ => id, fun _ => id⟩

theorem Leaves.trans (h : Leaves C block w w') (h' : Leaves C block w' w'') :
    Leaves C block w w'' :=
  ⟨fun hw => h'.marks (h.marks hw), fun _ _ hw => h'.markable _ _ (h.markable _ _ hw),
    fun flag hflag => h.flags flag (h'.flags flag hflag)⟩

theorem leaves_of_idle {event : Event} {env : σ} (h : event.isIdle = true) :
    Leaves C block w ⟨env, w.trace ++ [event]⟩ where
  marks hw := hw.concat (marksRecord_of_idle _ h)
  markable start length hw := by rw [markable_concat_idle _ h, hw]
  flags flag hflag := by rwa [flagsWritten_concat_idle _ h] at hflag

theorem leaves_asked {request : Request}
    (h : (Event.call request (P.answer request w.env).1).isIdle = true) :
    Leaves C block w (w.asked P request) :=
  leaves_of_idle h

theorem leaves_noted {event : Event} (h : event.isIdle = true) :
    Leaves C block w (w.noted event) :=
  leaves_of_idle h

theorem leaves_acquired {other : Sequence} (h : other ≠ block) :
    Leaves C block w (w.asked P (.acquire other)) where
  marks hw := hw.concat trivial
  markable start length hw := by
    rw [asked_trace, Store.markable, List.foldl_append, ← Store.markable, hw]
    simp [Ne.symm h]
  flags flag hflag := by
    rw [asked_trace, flagsWritten, List.foldl_append, ← flagsWritten] at hflag
    exact List.mem_of_mem_filter hflag

theorem leaves_disposed {other : Sequence} (h : other ≠ block) :
    Leaves C block w (w.asked P (.dispose other)) where
  marks hw := hw.concat trivial
  markable start length hw := by
    rw [asked_trace, Store.markable, List.foldl_append, ← Store.markable, hw]
    simp [Ne.symm h]
  flags flag hflag := by
    rw [asked_trace, flagsWritten, List.foldl_append, ← flagsWritten] at hflag
    exact List.mem_of_mem_filter hflag

/-- No block on the device carries a flag the store wrote. -/
structure Unflagged (C : Config) (w : World σ) : Prop where
  marks : Always (MarksRecord C) w.trace
  none : flagsWritten w.trace = []

theorem Unflagged.leaves (h : Unflagged C w) (hleaves : Leaves C block w w') : Unflagged C w' where
  marks := hleaves.marks h.marks
  none := by
    apply List.eq_nil_iff_forall_not_mem.2
    intro flag hflag
    have hmem := hleaves.flags flag hflag
    simp [h.none] at hmem

end World

end SolidSyslog.Store
