import Mathlib.Tactic.Common

/-!
# Postconditions of stateful code

`Ensures m Q s` says that the stateful computation `m`, run from the state `s`, ends with an answer
and a state that satisfy `Q`. The rules follow the shape of the code: one for each construct a
`do` block is made of, one for a computation over a part of the state (`zoom`), and consequence.
A function's specification is one `Ensures` fact; its callers use that fact and never unfold it.
-/

namespace SolidSyslog.Lib

variable {σ τ α β : Type}

/-- Running `m` from `s` ends in an answer and a state that satisfy `Q`. -/
def Ensures (m : StateM σ α) (Q : α → σ → Prop) (s : σ) : Prop :=
  Q (m s).1 (m s).2

/-- A computation over one part of the state, run on the whole. -/
def zoom (get : σ → τ) (put : σ → τ → σ) (m : StateM τ α) : StateM σ α :=
  fun s => ((m (get s)).1, put s (m (get s)).2)

namespace Ensures

variable {m : StateM σ α} {f : α → StateM σ β} {Q : α → σ → Prop} {R : β → σ → Prop} {s : σ}

theorem mono {Q' : α → σ → Prop} (h : Ensures m Q s) (hQ : ∀ a s', Q a s' → Q' a s') :
    Ensures m Q' s :=
  hQ _ _ h

theorem and {Q' : α → σ → Prop} (h : Ensures m Q s) (h' : Ensures m Q' s) :
    Ensures m (fun a s' => Q a s' ∧ Q' a s') s :=
  ⟨h, h'⟩

theorem bind (h : Ensures m Q s) (hf : ∀ a s', Q a s' → Ensures (f a) R s') :
    Ensures (m >>= f) R s :=
  hf _ _ h

/-- A computation whose outcome is settled. -/
theorem eq_mk {a : α} {s' : σ} (h : Ensures m (fun a' t => a' = a ∧ t = s') s) : m s = (a, s') :=
  Prod.ext h.1 h.2

theorem ite {c : Prop} [Decidable c] {m' : StateM σ α} (ht : c → Ensures m Q s)
    (he : ¬ c → Ensures m' Q s) : Ensures (if c then m else m') Q s := by
  split
  · next h => exact ht h
  · next h => exact he h

end Ensures

section Steps

variable {m : StateM σ α} {f : α → StateM σ β} {Q : α → σ → Prop} {R : β → σ → Prop} {s : σ}

@[simp] theorem ensures_pure {a : α} : Ensures (pure a) Q s = Q a s :=
  rfl

@[simp] theorem ensures_bind :
    Ensures (m >>= f) R s = Ensures m (fun a s' => Ensures (f a) R s') s :=
  rfl

@[simp] theorem ensures_map {g : α → β} :
    Ensures (g <$> m) R s = Ensures m (fun a s' => R (g a) s') s :=
  rfl

@[simp] theorem ensures_get {Q : σ → σ → Prop} :
    Ensures (get : StateM σ σ) Q s = Q s s :=
  rfl

@[simp] theorem ensures_modify {g : σ → σ} {Q : PUnit → σ → Prop} :
    Ensures (modify g : StateM σ PUnit) Q s = Q ⟨⟩ (g s) :=
  rfl

@[simp] theorem ensures_modifyGet {g : σ → α × σ} :
    Ensures (modifyGet g : StateM σ α) Q s = Q (g s).1 (g s).2 :=
  rfl

end Steps

end SolidSyslog.Lib
