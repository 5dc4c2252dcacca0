import Mathlib.Tactic.Common

/-!
# Chains of conditions

A step of a stateful component answers whether it succeeded, with the state it leaves. A chain of
steps stops at the first that fails. `Attempted fails holds r` says what is so after a failure and
what after a success.
-/

namespace SolidSyslog.Lib

variable {State : Type} {fails holds holds' : State → Prop} {r : Bool × State}

/-- The next step, where the one before succeeded. -/
def andThen (r : Bool × State) (next : State → Bool × State) : Bool × State :=
  if r.1 then next r.2 else r

/-- A failure leaves what `fails`, a success what `holds`. -/
def Attempted (fails holds : State → Prop) (r : Bool × State) : Prop :=
  if r.1 then holds r.2 else fails r.2

namespace Attempted

theorem of_true (h : r.1 = true) (hholds : holds r.2) : Attempted fails holds r := by
  rw [Attempted, if_pos h]
  exact hholds

theorem of_false (h : r.1 = false) (hfails : fails r.2) : Attempted fails holds r := by
  rw [Attempted, if_neg (by simp [h])]
  exact hfails

/-- Either way the state is one of both kinds. -/
theorem of_both (hfails : fails r.2) (hholds : r.1 = true → holds r.2) :
    Attempted fails holds r := by
  unfold Attempted
  split
  · next h => exact hholds h
  · exact hfails

theorem holds_of (h : Attempted fails holds r) (htrue : r.1 = true) : holds r.2 := by
  rwa [Attempted, if_pos htrue] at h

theorem fails_of (h : Attempted fails holds r) (hfalse : r.1 = false) : fails r.2 := by
  rwa [Attempted, if_neg (by simp [hfalse])] at h

theorem andThen (h : Attempted fails holds r) {next : State → Bool × State}
    (hnext : ∀ s, holds s → Attempted fails holds' (next s)) :
    Attempted fails holds' (andThen r next) := by
  unfold Lib.andThen
  split
  · next htrue => exact hnext r.2 (h.holds_of htrue)
  · next hfalse =>
    have hfalse : r.1 = false := by simpa using hfalse
    exact of_false hfalse (h.fails_of hfalse)

end Attempted

end SolidSyslog.Lib
