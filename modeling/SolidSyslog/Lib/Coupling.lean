import Mathlib.Tactic.Common

/-!
# Two programs run side by side

`Coupled R m n Q` says that the stateful computations `m` and `n`, run from states that `R` relates,
end in answers that `Q` relates and in states that `R` still relates. The rules follow the shape of
the code, one for each construct a `do` block is made of: two programs that differ only in what
their states are made of are coupled by going through both at once.
-/

namespace SolidSyslog.Lib

variable {σ τ α β γ δ : Type}

/-- Run from related states, `m` and `n` end in related answers and related states. -/
def Coupled (R : σ → τ → Prop) (m : StateM σ α) (n : StateM τ β) (Q : α → β → Prop) : Prop :=
  ∀ s t, R s t → Q (m s).1 (n t).1 ∧ R (m s).2 (n t).2

namespace Coupled

variable {R : σ → τ → Prop} {m m' : StateM σ α} {n n' : StateM τ β} {Q : α → β → Prop}

theorem mono {Q' : α → β → Prop} (h : Coupled R m n Q) (hQ : ∀ a b, Q a b → Q' a b) :
    Coupled R m n Q' :=
  fun s t hR => (h s t hR).imp_left (hQ _ _)

theorem pure {a : α} {b : β} (h : Q a b) :
    Coupled R (Pure.pure a : StateM σ α) (Pure.pure b : StateM τ β) Q :=
  fun _ _ hR => ⟨h, hR⟩

theorem bind {f : α → StateM σ γ} {g : β → StateM τ δ} {Q' : γ → δ → Prop}
    (h : Coupled R m n Q) (hfg : ∀ a b, Q a b → Coupled R (f a) (g b) Q') :
    Coupled R (m >>= f) (n >>= g) Q' := by
  intro s t hR
  obtain ⟨hQ, hR'⟩ := h s t hR
  exact hfg _ _ hQ _ _ hR'

theorem get : Coupled R (get : StateM σ σ) (get : StateM τ τ) R :=
  fun _ _ hR => ⟨hR, hR⟩

theorem modify {f : σ → σ} {g : τ → τ} (h : ∀ s t, R s t → R (f s) (g t)) :
    Coupled R (modify f : StateM σ PUnit) (modify g : StateM τ PUnit) (fun _ _ => True) :=
  fun s t hR => ⟨trivial, h s t hR⟩

/-- Two tests that agree send both programs the same way. -/
theorem ite {c d : Prop} [Decidable c] [Decidable d] (hcd : c ↔ d) (hthen : Coupled R m n Q)
    (helse : Coupled R m' n' Q) :
    Coupled R (if c then m else m') (if d then n else n') Q := by
  by_cases hd : d
  · rw [if_pos hd, if_pos (hcd.2 hd)]
    exact hthen
  · rw [if_neg hd, if_neg fun hc => hd (hcd.1 hc)]
    exact helse

end Coupled

end SolidSyslog.Lib
