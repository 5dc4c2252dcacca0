import Mathlib.Algebra.Group.Fin.Basic
import Mathlib.Algebra.GroupWithZero.Nat
import Mathlib.Tactic.Common

/-!
# Numbers on a circle

The numbers below `n` with the successor that wraps. `ahead o x` counts the steps from `o` to `x`;
the numbers from `o` to `w` are those no further ahead than `w`.
-/

namespace SolidSyslog.Lib

variable {n : Nat}

/-- The steps from `o` to `x`. -/
def ahead (o x : Fin n) : Nat :=
  (x - o).val

theorem ahead_eq (o x : Fin n) :
    ahead o x = if o.val ≤ x.val then x.val - o.val else n + x.val - o.val := by
  have ho := o.isLt
  have hx := x.isLt
  rw [ahead, Fin.sub_def]
  dsimp only
  split
  · have hsplit : n - o.val + x.val = n + (x.val - o.val) := by omega
    rw [hsplit, Nat.add_mod_left, Nat.mod_eq_of_lt (by omega)]
  · rw [Nat.mod_eq_of_lt (by omega)]
    omega

theorem ahead_lt (o x : Fin n) : ahead o x < n :=
  (x - o).isLt

@[simp] theorem ahead_self (o : Fin n) : ahead o o = 0 := by
  simp [ahead_eq]

theorem ahead_inj {o x y : Fin n} : ahead o x = ahead o y ↔ x = y := by
  constructor
  · intro h
    have hx := x.isLt
    have hy := y.isLt
    have ho := o.isLt
    rw [ahead_eq, ahead_eq] at h
    apply Fin.ext
    split at h <;> split at h <;> omega
  · rintro rfl
    rfl

theorem ahead_eq_zero {o x : Fin n} : ahead o x = 0 ↔ x = o := by
  rw [← ahead_self o, ahead_inj]

/-- The steps to a third number, by way of a second. -/
theorem ahead_add (a b c : Fin n) :
    ahead a b + ahead b c = ahead a c ∨ ahead a b + ahead b c = ahead a c + n := by
  have ha := a.isLt
  have hb := b.isLt
  have hc := c.isLt
  rw [ahead_eq, ahead_eq, ahead_eq]
  split <;> split <;> split <;> omega

variable [NeZero n]

theorem val_next (x : Fin n) : (x + 1).val = if x.val + 1 = n then 0 else x.val + 1 := by
  have hx := x.isLt
  rw [Fin.add_def]
  dsimp only
  rw [Fin.val_one', Nat.add_mod_mod]
  split
  · next h => rw [h, Nat.mod_self]
  · rw [Nat.mod_eq_of_lt (by omega)]

/-- One step further, unless that is back at the start. -/
theorem ahead_next {o x : Fin n} (h : x + 1 ≠ o) : ahead o (x + 1) = ahead o x + 1 := by
  have hne : (x + 1).val ≠ o.val := fun heq => h (Fin.ext heq)
  have hx := x.isLt
  have ho := o.isLt
  have hval := val_next x
  rw [ahead_eq, ahead_eq]
  split at hval <;> split <;> split <;> omega

/-- Once round but one step. -/
theorem ahead_next_start (x : Fin n) : ahead (x + 1) x + 1 = n := by
  have hx := x.isLt
  rw [ahead_eq, val_next]
  split <;> split <;> omega

/-- From one step further on, one step fewer. -/
theorem ahead_from_next {o x : Fin n} (h : x ≠ o) : ahead (o + 1) x + 1 = ahead o x := by
  have hne : x.val ≠ o.val := fun heq => h (Fin.ext heq)
  have hx := x.isLt
  have ho := o.isLt
  rw [ahead_eq, ahead_eq, val_next]
  split <;> split <;> split <;> omega

theorem ahead_iterate {k : Nat} (x : Fin n) (hk : k < n) : ahead x ((· + 1)^[k] x) = k := by
  induction k with
  | zero => simp
  | succ k ih =>
    have hprev := ih (by omega)
    rw [Function.iterate_succ_apply']
    have hne : (· + 1)^[k] x + 1 ≠ x := by
      intro heq
      have hround := ahead_next_start ((· + 1)^[k] x)
      rw [heq, hprev] at hround
      omega
    rw [ahead_next hne, hprev]

/-- Once round leads back. -/
theorem iterate_next (x : Fin n) : (· + 1)^[n] x = x := by
  obtain ⟨m, hm⟩ := Nat.exists_eq_succ_of_ne_zero (NeZero.ne n)
  have hlast := ahead_iterate x (k := m) (by omega)
  have hround : ∀ k, k = m + 1 → (· + 1)^[k] x = x := by
    rintro k rfl
    rw [Function.iterate_succ_apply']
    by_contra hne
    have hlt := ahead_lt x ((· + 1)^[m] x + 1)
    rw [ahead_next hne, hlast] at hlt
    omega
  exact hround n hm

end SolidSyslog.Lib
