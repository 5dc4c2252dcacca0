import Mathlib.Data.List.Induction
import Mathlib.Tactic.Common

/-!
# The first fault of each streak

A list of outcomes has `none` where something went well and `some a` where it failed as `a` says. A
streak is the same kind of fault again and again with nothing else between. `firsts kind l` keeps
the fault that begins each streak of `l`.
-/

namespace SolidSyslog.Lib

variable {α κ : Type} [DecidableEq κ] {kind : α → κ} {l : List (Option α)}

/-- What an outcome is in view of the one before it: the first fault of a streak, or nothing new. -/
def newFault (kind : α → κ) (previous outcome : Option α) : List α :=
  if outcome.map kind = previous.map kind then [] else outcome.toList

/-- The faults that begin a streak. -/
def firsts (kind : α → κ) (l : List (Option α)) : List α :=
  ((none :: l).zip l).flatMap fun pair => newFault kind pair.1 pair.2

/-- The outcome before the next one. A list begins as behind one that went well. -/
def lastOutcome (l : List (Option α)) : Option α :=
  l.getLast?.join

@[simp] theorem lastOutcome_concat (outcome : Option α) :
    lastOutcome (l ++ [outcome]) = outcome := by
  simp [lastOutcome]

theorem zip_cons_concat {β : Type} (first : β) (l : List β) (last : β) :
    (first :: (l ++ [last])).zip (l ++ [last]) =
      (first :: l).zip l ++ [((first :: l).getLast (List.cons_ne_nil _ _), last)] := by
  induction l generalizing first with
  | nil => rfl
  | cons next l ih =>
    have hrest := ih next
    simp only [List.cons_append, List.zip_cons_cons, hrest, List.getLast_cons_cons]

theorem getLast_none_cons (l : List (Option α)) :
    (none :: l).getLast (List.cons_ne_nil _ _) = lastOutcome l := by
  induction l using List.reverseRecOn with
  | nil => rfl
  | append_singleton l last =>
    rw [lastOutcome_concat]
    exact List.getLast_concat (l := none :: l)

/-- One outcome more adds its fault where it begins a streak. -/
theorem firsts_concat (outcome : Option α) :
    firsts kind (l ++ [outcome]) = firsts kind l ++ newFault kind (lastOutcome l) outcome := by
  unfold firsts
  rw [zip_cons_concat, getLast_none_cons, List.flatMap_append, List.flatMap_singleton]

end SolidSyslog.Lib
