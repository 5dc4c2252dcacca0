import Mathlib.Data.Fin.Basic
import Mathlib.Data.List.Basic
import Mathlib.Data.Nat.ModEq
import Mathlib.Logic.Function.Basic
import Mathlib.Tactic.Common

/-!
# A ring of slots

A ring has `n` slots, the index of the slot at its head and a count of those in use. `Holds r q`
says that the slots in use are the elements of `q`, oldest first.
-/

namespace SolidSyslog.Lib

structure Ring (α : Type) (n : Nat) where
  slots : Fin n → Option α
  head : Nat
  count : Nat

namespace Ring

variable {α : Type} {n : Nat} [NeZero n] {r : Ring α n} {x : α} {q : List α}

/-- No slot was ever in use. -/
def empty : Ring α n :=
  ⟨fun _ => none, 0, 0⟩

/-- The slot that many further on from the head. -/
def index (r : Ring α n) (i : Nat) : Fin n :=
  Fin.ofNat n (r.head + i)

/-- What the slot at the head holds. -/
def front (r : Ring α n) : Option α :=
  r.slots (r.index 0)

/-- A new element behind those in use. -/
def enqueue (r : Ring α n) (x : α) : Ring α n :=
  { r with slots := Function.update r.slots (r.index r.count) (some x), count := r.count + 1 }

/-- The slot at the head is no longer in use. -/
def dequeue (r : Ring α n) : Ring α n :=
  { r with head := (r.head + 1) % n, count := r.count - 1 }

/-- The slots in use are the elements of `q`, oldest first. -/
structure Holds (r : Ring α n) (q : List α) : Prop where
  count : r.count = q.length
  room : q.length ≤ n
  slots : ∀ i (hi : i < q.length), r.slots (r.index i) = some q[i]

theorem index_inj {i j : Nat} (hi : i < n) (hj : j < n) : r.index i = r.index j ↔ i = j := by
  constructor
  · intro h
    have hmod : (r.head + i) % n = (r.head + j) % n := congrArg Fin.val h
    have hsame : i % n = j % n := Nat.ModEq.add_left_cancel' r.head hmod
    rwa [Nat.mod_eq_of_lt hi, Nat.mod_eq_of_lt hj] at hsame
  · rintro rfl
    rfl

theorem index_dequeue (r : Ring α n) (i : Nat) : r.dequeue.index i = r.index (i + 1) := by
  apply Fin.ext
  change ((r.head + 1) % n + i) % n = (r.head + (i + 1)) % n
  rw [Nat.mod_add_mod]
  congr 1
  omega

namespace Holds

theorem empty : Holds (empty : Ring α n) [] :=
  ⟨rfl, Nat.zero_le _, nofun⟩

theorem front_eq (h : Holds r (x :: q)) : r.front = some x :=
  h.slots 0 (Nat.succ_pos _)

theorem eq_nil_iff (h : Holds r q) : q = [] ↔ r.count = 0 := by
  rw [h.count, List.length_eq_zero_iff]

theorem enqueue (h : Holds r q) (hroom : r.count < n) (x : α) : Holds (r.enqueue x) (q ++ [x]) := by
  rw [h.count] at hroom
  refine ⟨by simp [Ring.enqueue, h.count], by simpa [Nat.succ_le_iff] using hroom, ?_⟩
  intro i hi
  have hle : i ≤ q.length := by simpa [Nat.lt_succ_iff] using hi
  change Function.update r.slots (r.index r.count) (some x) (r.index i) = _
  rw [h.count]
  rcases Nat.lt_or_eq_of_le hle with hlt | rfl
  · have hne : r.index i ≠ r.index q.length :=
      fun heq => absurd ((index_inj (hlt.trans hroom) hroom).1 heq) hlt.ne
    rw [Function.update_of_ne hne, h.slots i hlt, List.getElem_append_left hlt]
  · rw [Function.update_self, List.getElem_concat_length rfl]

theorem dequeue (h : Holds r (x :: q)) : Holds r.dequeue q := by
  refine ⟨by simp [Ring.dequeue, h.count], (Nat.le_succ _).trans h.room, ?_⟩
  intro i hi
  rw [index_dequeue]
  exact h.slots (i + 1) (Nat.succ_lt_succ hi)

end Holds

end Ring

end SolidSyslog.Lib
