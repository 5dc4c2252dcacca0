import Mathlib.Tactic.Common

/-!
# Interleavings that keep to a rule

What several parties do to a state is a list of moves, each of which takes a state to the next one
or is not possible there. A rule says which moves are admitted in which states. What every admitted
move preserves holds of every state reached over such moves.
-/

namespace SolidSyslog.Lib

variable {State Move : Type} {step : State → Move → Option State} {rule : State → Move → Prop}
  {s s' : State}

/-- The states reached from `s` over moves that the rule admits. -/
inductive Reached (step : State → Move → Option State) (rule : State → Move → Prop) (s : State) :
    State → Prop
  | start : Reached step rule s s
  | step {s₁ s₂ : State} (before : Reached step rule s s₁) (move : Move) (admitted : rule s₁ move)
      (moved : step s₁ move = some s₂) : Reached step rule s s₂

/-- Any move is admitted. -/
def anyMove (_ : State) (_ : Move) : Prop :=
  True

/-- The state after a list of moves, where each is possible and admitted. -/
def runMoves (step : State → Move → Option State) (rule : State → Move → Prop)
    [∀ s move, Decidable (rule s move)] (s : State) : List Move → Option State
  | [] => some s
  | move :: moves =>
    if rule s move then
      match step s move with
      | some s' => runMoves step rule s' moves
      | none => none
    else none

instance (s : State) (move : Move) : Decidable (anyMove s move) :=
  inferInstanceAs (Decidable True)

namespace Reached

/-- What every admitted move preserves holds of every state reached. -/
theorem invariant {I : State → Prop} (h : Reached step rule s s') (hs : I s)
    (hstep : ∀ {s₁ move s₂}, I s₁ → rule s₁ move → step s₁ move = some s₂ → I s₂) : I s' := by
  induction h with
  | start => exact hs
  | step before move admitted moved ih => exact hstep ih admitted moved

theorem trans {s'' : State} (h : Reached step rule s s') (h' : Reached step rule s' s'') :
    Reached step rule s s'' := by
  induction h' with
  | start => exact h
  | step before move admitted moved ih => exact .step ih move admitted moved

/-- A list of moves leads to a state reached. -/
theorem of_runMoves [∀ s move, Decidable (rule s move)] {moves : List Move}
    (h : runMoves step rule s moves = some s') : Reached step rule s s' := by
  induction moves generalizing s with
  | nil =>
    obtain rfl : s = s' := Option.some.inj h
    exact .start
  | cons move moves ih =>
    unfold runMoves at h
    split at h
    · next hadmitted =>
      split at h
      · next s₁ hmoved => exact trans (.step .start move hadmitted hmoved) (ih h)
      · cases h
    · cases h

end Reached

end SolidSyslog.Lib
