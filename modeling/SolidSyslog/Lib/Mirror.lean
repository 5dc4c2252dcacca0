import SolidSyslog.Lib.Ensures

/-!
# Code over more state that does what other code does

`Mirrors part ok m m' t` says that `m`, run from `t`, answers and leaves of the part of the state
what `m'` does, and leaves the rest as `ok` asks. The rules follow the shape of the code; where the
part's code is known to ensure something, the code that follows may use it.
-/

namespace SolidSyslog.Lib

variable {σ τ α β : Type}

/-- Run from `t`, `m` does to the part of the state what `m'` does, and ends in `ok`. -/
def Mirrors (part : τ → σ) (ok : τ → Prop) (m : StateM τ α) (m' : StateM σ α) (t : τ) : Prop :=
  Ensures m (fun a t' => ok t' ∧ (a, part t') = m' (part t)) t

namespace Mirrors

variable {part : τ → σ} {ok : τ → Prop} {m : StateM τ α} {m' : StateM σ α} {f : α → StateM τ β}
  {f' : α → StateM σ β} {t : τ}

theorem ensures {Q : α → σ → Prop} (h : Mirrors part ok m m' t) (hQ : Ensures m' Q (part t)) :
    Ensures m (fun a t' => ok t' ∧ (a, part t') = m' (part t) ∧ Q a (part t')) t := by
  refine ⟨h.1, h.2, ?_⟩
  unfold Ensures at hQ
  rwa [← h.2] at hQ

theorem pure {a : α} (h : ok t) : Mirrors part ok (pure a) (Pure.pure a) t :=
  ⟨h, rfl⟩

/-- The code that follows may use what the part's code ensures. -/
theorem bind {Q : α → σ → Prop} (h : Mirrors part ok m m' t) (hQ : Ensures m' Q (part t))
    (hf : ∀ a t', ok t' → Q a (part t') → Mirrors part ok (f a) (f' a) t') :
    Mirrors part ok (m >>= f) (m' >>= f') t := by
  obtain ⟨hok, heq, hpost⟩ := h.ensures hQ
  obtain ⟨hok', heq'⟩ := hf _ _ hok hpost
  refine ⟨hok', heq'.trans ?_⟩
  change f' _ _ = f' (m' (part t)).1 (m' (part t)).2
  rw [← heq]

theorem bind' (h : Mirrors part ok m m' t)
    (hf : ∀ a t', ok t' → Mirrors part ok (f a) (f' a) t') :
    Mirrors part ok (m >>= f) (m' >>= f') t :=
  h.bind (Q := fun _ _ => True) trivial fun a t' hok _ => hf a t' hok

theorem ite {c : Prop} [Decidable c] {n : StateM τ α} {n' : StateM σ α}
    (ht : c → Mirrors part ok m m' t) (he : ¬ c → Mirrors part ok n n' t) :
    Mirrors part ok (if c then m else n) (if c then m' else n') t := by
  split
  · next h => exact ht h
  · next h => exact he h

/-- The part's own code, run on the whole. -/
theorem zoom {put : τ → σ → τ} (h : ok t) (hpart : ∀ s, part (put t s) = s)
    (hok : ∀ s, ok t → ok (put t s)) : Mirrors part ok (Lib.zoom part put m') m' t :=
  ⟨hok _ h, Prod.ext rfl (hpart _)⟩

end Mirrors

/-- The code after a computation whose outcome is known. -/
theorem bind_apply_of_eq {m : StateM σ α} {f : α → StateM σ β} {s s' : σ} {a : α}
    (h : (a, s') = m s) : (m >>= f) s = f a s' := by
  change f (m s).1 (m s).2 = f a s'
  rw [← h]

end SolidSyslog.Lib
