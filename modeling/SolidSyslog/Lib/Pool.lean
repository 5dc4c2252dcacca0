import Mathlib.Data.Finset.Card
import Mathlib.Data.Fintype.Card
import Mathlib.Data.Multiset.Count
import Mathlib.Data.Multiset.Filter
import Mathlib.Data.Fintype.Basic

/-!
# A pool of slots and those who search it

A slot of a pool is in use while someone holds it (`Holds`). A search goes through the pool one slot
at a time and claims the first one it finds free; another may free a slot behind it or claim one
ahead of it meanwhile. Searches never come to the end of the pool while, from every slot on, there
are no fewer free slots than searches (`Enough`), which every step of theirs preserves.
-/

namespace SolidSyslog.Lib

variable {n : Nat} {inUse : Fin n → Bool} {held : Multiset (Fin n)} {positions : Multiset Nat}
  {slot : Fin n}

/-- The slots in use are those held, each by one holder. -/
structure Holds (inUse : Fin n → Bool) (held : Multiset (Fin n)) : Prop where
  nodup : held.Nodup
  iff : ∀ slot, inUse slot = true ↔ slot ∈ held

namespace Holds

theorem none : Holds (fun _ : Fin n => false) 0 :=
  ⟨Multiset.nodup_zero, by simp⟩

/-- A slot found free gets a holder. -/
theorem claim (h : Holds inUse held) (hfree : inUse slot = false) :
    Holds (Function.update inUse slot true) (slot ::ₘ held) := by
  have hnew : slot ∉ held := by
    rw [← h.iff, hfree]
    exact Bool.false_ne_true
  refine ⟨Multiset.nodup_cons.2 ⟨hnew, h.nodup⟩, ?_⟩
  intro other
  by_cases hother : other = slot
  · simp [hother]
  · simp [hother, h.iff]

/-- A holder gives its slot back. -/
theorem free (h : Holds inUse (slot ::ₘ held)) :
    Holds (Function.update inUse slot false) held := by
  obtain ⟨hgone, hnodup⟩ := Multiset.nodup_cons.1 h.nodup
  refine ⟨hnodup, ?_⟩
  intro other
  by_cases hother : other = slot
  · simp [hother, hgone]
  · simp [hother, h.iff]

theorem of_mem (h : Holds inUse held) (hslot : slot ∈ held) : inUse slot = true :=
  (h.iff slot).2 hslot

theorem card (h : Holds inUse held) :
    (Finset.univ.filter fun slot => inUse slot = true).card = held.card := by
  have hsame : (Finset.univ.filter fun slot => inUse slot = true) = ⟨held, h.nodup⟩ := by
    ext slot
    simp [h.iff]
  rw [hsame]
  rfl

end Holds

/-! ## Free slots -/

/-- How many slots from an index on are free. -/
def freeFrom (inUse : Fin n → Bool) (index : Nat) : Nat :=
  (Finset.univ.filter fun slot : Fin n => index ≤ slot.val ∧ inUse slot = false).card

theorem freeFrom_zero (h : Holds inUse held) : freeFrom inUse 0 + held.card = n := by
  rw [← h.card, freeFrom]
  have hsplit := Finset.card_filter_add_card_filter_not (s := (Finset.univ : Finset (Fin n)))
    (fun slot => inUse slot = false)
  simpa using hsplit

theorem freeFrom_succ (h : inUse slot = true) :
    freeFrom inUse (slot.val + 1) = freeFrom inUse slot := by
  unfold freeFrom
  congr 1
  ext other
  have hne : inUse other = false → other.val ≠ slot.val := by
    intro hfree heq
    rw [Fin.ext heq, h] at hfree
    cases hfree
  simp only [Finset.mem_filter, Finset.mem_univ, true_and]
  constructor
  · rintro ⟨hle, hfree⟩
    exact ⟨by omega, hfree⟩
  · rintro ⟨hle, hfree⟩
    have := hne hfree
    exact ⟨by omega, hfree⟩

/-- A claim takes one free slot from those up to the one claimed. -/
theorem freeFrom_claim (hfree : inUse slot = false) (index : Nat) :
    freeFrom (Function.update inUse slot true) index + (if index ≤ slot.val then 1 else 0) =
      freeFrom inUse index := by
  have herase : (Finset.univ.filter fun other : Fin n =>
      index ≤ other.val ∧ Function.update inUse slot true other = false) =
      (Finset.univ.filter fun other : Fin n => index ≤ other.val ∧ inUse other =
        false).erase slot := by
    ext other
    by_cases hother : other = slot
    · simp [hother]
    · simp [hother]
  unfold freeFrom
  rw [herase, Finset.card_erase_eq_ite]
  simp only [Finset.mem_filter, Finset.mem_univ, true_and, hfree, and_true]
  split
  · next hle =>
    have hpos : 0 < (Finset.univ.filter fun other : Fin n =>
        index ≤ other.val ∧ inUse other = false).card := by
      apply Finset.card_pos.2
      exact ⟨slot, by simp [hle, hfree]⟩
    omega
  · rfl

/-- A slot given back takes none away. -/
theorem freeFrom_free (slot : Fin n) (index : Nat) :
    freeFrom inUse index ≤ freeFrom (Function.update inUse slot false) index := by
  apply Finset.card_le_card
  intro other hother
  simp only [Finset.mem_filter, Finset.mem_univ, true_and] at hother ⊢
  refine ⟨hother.1, ?_⟩
  by_cases hsame : other = slot
  · simp [hsame]
  · simp [hsame, hother.2]

/-! ## Searches -/

/-- From every slot on there are no fewer free slots than searches. -/
def Enough (inUse : Fin n → Bool) (positions : Multiset Nat) : Prop :=
  ∀ index, positions.countP (index ≤ ·) ≤ freeFrom inUse index

namespace Enough

theorem none : Enough inUse 0 :=
  fun _ => by simp

/-- No search has come to the end. -/
theorem lt {position : Nat} (h : Enough inUse (position ::ₘ positions)) : position < n := by
  have hsome := h position
  rw [Multiset.countP_cons_of_pos _ (le_refl position)] at hsome
  have hpos : 0 < freeFrom inUse position := by omega
  obtain ⟨slot, hslot⟩ := Finset.card_pos.1 hpos
  simp only [Finset.mem_filter, Finset.mem_univ, true_and] at hslot
  have hlt := slot.isLt
  omega

/-- A search goes past a slot in use. -/
theorem pass (h : Enough inUse (slot.val ::ₘ positions)) (hused : inUse slot = true) :
    Enough inUse ((slot.val + 1) ::ₘ positions) := by
  intro index
  have hindex := h index
  have hhere := h slot
  rw [Multiset.countP_cons] at hindex hhere ⊢
  by_cases hnext : index = slot.val + 1
  · -- from the next slot on: as many free slots as from this one on
    have hmore : positions.countP (slot.val + 1 ≤ ·) ≤ positions.countP (slot.val ≤ ·) := by
      rw [Multiset.countP_eq_card_filter, Multiset.countP_eq_card_filter]
      apply Multiset.card_le_card
      exact Multiset.monotone_filter_right _ fun position hle => (Nat.le_succ _).trans hle
    rw [hnext, freeFrom_succ hused]
    simp only [le_refl, if_true] at hhere ⊢
    omega
  · have hsame : index ≤ slot.val + 1 ↔ index ≤ slot.val := by omega
    simp only [hsame]
    exact hindex

/-- A search claims the slot it is at. -/
theorem claim (h : Enough inUse (slot.val ::ₘ positions)) (hfree : inUse slot = false) :
    Enough (Function.update inUse slot true) positions := by
  intro index
  have hindex := h index
  have hclaim := freeFrom_claim hfree index
  rw [Multiset.countP_cons] at hindex
  omega

/-- A slot is given back. -/
theorem free (h : Enough inUse positions) (slot : Fin n) :
    Enough (Function.update inUse slot false) positions :=
  fun index => (h index).trans (freeFrom_free slot index)

/-- A search begins, where there are more free slots than searches. -/
theorem join (h : Enough inUse positions) (hroom : positions.card < freeFrom inUse 0) :
    Enough inUse (0 ::ₘ positions) := by
  intro index
  rw [Multiset.countP_cons]
  by_cases hzero : index = 0
  · subst hzero
    simp only [Nat.zero_le, Multiset.countP_True, if_true]
    exact hroom
  · simpa [hzero] using h index

end Enough

end SolidSyslog.Lib
