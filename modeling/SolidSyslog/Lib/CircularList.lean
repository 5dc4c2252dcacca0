import SolidSyslog.Lib.Circular
import Mathlib.Logic.Function.Basic

/-!
# A list laid out on a circle

The elements of a list lie at consecutive numbers of a circle, the first of them at `o`. Taking the
first away, adding one at the end and changing one at either end are updates at one number.
-/

namespace SolidSyslog.Lib

variable {α β : Type} {n : Nat} {o x : Fin n} {a b : α} {l : List α}

/-- The list from `o` on: each element one number further. -/
def laidOut (o : Fin n) (l : List α) (x : Fin n) : Option α :=
  l[ahead o x]?

theorem laidOut_eq_none : laidOut o l x = none ↔ l.length ≤ ahead o x :=
  List.getElem?_eq_none_iff

theorem isSome_laidOut : (laidOut o l x).isSome = true ↔ ahead o x < l.length := by
  rw [Option.isSome_iff_ne_none, Ne, laidOut_eq_none, Nat.not_le]

theorem laidOut_start (o : Fin n) (a : α) (l : List α) : laidOut o (a :: l) o = some a := by
  rw [laidOut, ahead_self]
  rfl

theorem laidOut_end (hx : ahead o x = l.length) : laidOut o (l ++ [a]) x = some a := by
  rw [laidOut, hx, List.getElem?_concat_length]

/-- The first element is another one. -/
theorem laidOut_cons_update (o : Fin n) (a b : α) (l : List α) :
    laidOut o (b :: l) = Function.update (laidOut o (a :: l)) o (some b) := by
  funext x
  by_cases hx : x = o
  · rw [hx, Function.update_self, laidOut_start]
  · have hpos : ahead o x ≠ 0 := fun hzero => hx (ahead_eq_zero.1 hzero)
    obtain ⟨k, hk⟩ := Nat.exists_eq_succ_of_ne_zero hpos
    rw [Function.update_of_ne hx, laidOut, laidOut, hk]
    rfl

/-- One more element. -/
theorem laidOut_concat (hx : ahead o x = l.length) (a : α) :
    laidOut o (l ++ [a]) = Function.update (laidOut o l) x (some a) := by
  funext y
  by_cases hy : y = x
  · rw [hy, Function.update_self, laidOut_end hx]
  · have hne : ahead o y ≠ l.length := by
      rw [← hx]
      exact fun heq => hy (ahead_inj.1 heq)
    rw [Function.update_of_ne hy, laidOut, laidOut, List.getElem?_append]
    split
    · rfl
    · rw [List.getElem?_eq_none (by rw [List.length_singleton]; omega),
        List.getElem?_eq_none (by omega)]

/-- The last element is another one. -/
theorem laidOut_concat_update (hx : ahead o x = l.length) (a b : α) :
    laidOut o (l ++ [b]) = Function.update (laidOut o (l ++ [a])) x (some b) := by
  rw [laidOut_concat hx b, laidOut_concat hx a, Function.update_idem]

/-- Without the first element. -/
theorem laidOut_tail [NeZero n] (hlength : (a :: l).length ≤ n) :
    laidOut (o + 1) l = Function.update (laidOut o (a :: l)) o none := by
  funext x
  by_cases hx : x = o
  · have hround := ahead_next_start o
    rw [List.length_cons] at hlength
    rw [hx, Function.update_self, laidOut_eq_none]
    omega
  · have hstep := ahead_from_next hx
    rw [Function.update_of_ne hx, laidOut, laidOut, ← hstep]
    rfl

end SolidSyslog.Lib
