import Mathlib.Data.List.Induction
import Mathlib.Tactic.Common

/-!
# Facts that hold at every entry of a trace

A trace lists what a component did, oldest first. `Always J t` says that each entry of `t` stands
in the relation `J` to the entries before it. A component that checks `J` whenever it adds an
entry keeps `Always J` over every run. `Extends p t t'` says that `t'` goes on from `t` with entries
of `p`. `Pending raises clears t` says that an entry of `t` raises what none after it clears.
-/

namespace SolidSyslog.Lib

variable {α : Type}

/-- Each entry of the trace is one that `J` allows after the entries before it. -/
def Always (J : List α → α → Prop) (t : List α) : Prop :=
  ∀ before entry after, t = before ++ entry :: after → J before entry

namespace Always

variable {J K : List α → α → Prop} {t : List α} {entry : α}

theorem nil : Always J [] := by
  intro before entry after h
  exact absurd h.symm (List.append_ne_nil_of_right_ne_nil _ (List.cons_ne_nil _ _))

theorem concat (h : Always J t) (hentry : J t entry) : Always J (t ++ [entry]) := by
  intro before e after heq
  rcases List.eq_nil_or_concat after with rfl | ⟨front, last, rfl⟩
  · obtain ⟨rfl, rfl⟩ : t = before ∧ entry = e := by
      simpa using List.append_inj' heq rfl
    exact hentry
  · have hsplit : t ++ [entry] = (before ++ e :: front) ++ [last] := by simpa using heq
    obtain ⟨rfl, -⟩ := List.append_inj' hsplit rfl
    exact h before e front rfl

theorem mono (h : Always J t) (hJK : ∀ before entry, J before entry → K before entry) :
    Always K t :=
  fun before entry after heq => hJK before entry (h before entry after heq)

end Always

/-- The trace `t'` is `t` and then entries of `p`. -/
def Extends (p : α → Prop) (t t' : List α) : Prop :=
  ∃ new, t' = t ++ new ∧ ∀ entry ∈ new, p entry

namespace Extends

variable {p q : α → Prop} {t t' t'' : List α} {entry : α}

theorem refl (t : List α) : Extends p t t :=
  ⟨[], by simp, by simp⟩

theorem trans (h : Extends p t t') (h' : Extends p t' t'') : Extends p t t'' := by
  obtain ⟨new, rfl, hnew⟩ := h
  obtain ⟨new', rfl, hnew'⟩ := h'
  refine ⟨new ++ new', by simp, fun entry hentry => ?_⟩
  rcases List.mem_append.1 hentry with hentry | hentry
  · exact hnew entry hentry
  · exact hnew' entry hentry

theorem concat (h : Extends p t t') (hentry : p entry) : Extends p t (t' ++ [entry]) :=
  h.trans ⟨[entry], rfl, by simpa using hentry⟩

theorem mono (h : Extends p t t') (hpq : ∀ entry, p entry → q entry) : Extends q t t' := by
  obtain ⟨new, rfl, hnew⟩ := h
  exact ⟨new, rfl, fun entry hentry => hpq entry (hnew entry hentry)⟩

/-- What no entry of `p` changes is as it was. -/
theorem fold_eq {β : Type} {f : β → α → β} {b : β} (h : Extends p t t')
    (hf : ∀ b entry, p entry → f b entry = b) : t'.foldl f b = t.foldl f b := by
  obtain ⟨new, rfl, hnew⟩ := h
  rw [List.foldl_append]
  generalize t.foldl f b = c
  induction new with
  | nil => rfl
  | cons entry new ih =>
    rw [List.foldl_cons, hf c entry (hnew entry List.mem_cons_self)]
    exact ih fun e he => hnew e (List.mem_cons_of_mem _ he)

/-- Entries of `p` that `J` allows wherever they stand keep it. -/
theorem always {J : List α → α → Prop} (h : Extends p t t') (ht : Always J t)
    (hJ : ∀ before entry, Extends p t before → p entry → J before entry) : Always J t' := by
  obtain ⟨new, rfl, hnew⟩ := h
  induction new using List.reverseRecOn with
  | nil => simpa using ht
  | append_singleton new entry ih =>
    have hfront : ∀ e ∈ new, p e := fun e he => hnew e (List.mem_append_left _ he)
    rw [← List.append_assoc]
    apply (ih hfront).concat
    exact hJ _ _ ⟨new, rfl, hfront⟩ (hnew entry (by simp))

end Extends

/-- An entry of the trace raises something, and no entry after it clears that. -/
def Pending (raises clears : α → Prop) (t : List α) : Prop :=
  ∃ before entry after, t = before ++ entry :: after ∧ raises entry ∧
    ∀ later ∈ after, ¬ clears later

namespace Pending

variable {raises clears : α → Prop} {t : List α} {entry : α}

theorem not_nil : ¬ Pending raises clears [] := by
  rintro ⟨before, entry, after, h, -⟩
  exact List.append_ne_nil_of_right_ne_nil _ (List.cons_ne_nil _ _) h.symm

/-- One entry more raises it, or leaves it raised. -/
theorem concat_iff : Pending raises clears (t ++ [entry]) ↔
    raises entry ∨ Pending raises clears t ∧ ¬ clears entry := by
  constructor
  · rintro ⟨before, e, after, heq, hraises, hafter⟩
    rcases List.eq_nil_or_concat after with rfl | ⟨front, last, rfl⟩
    · obtain ⟨-, rfl⟩ : t = before ∧ entry = e := by
        simpa using List.append_inj' heq rfl
      exact .inl hraises
    · have hsplit : t ++ [entry] = (before ++ e :: front) ++ [last] := by simpa using heq
      obtain ⟨rfl, hlast⟩ := List.append_inj' hsplit rfl
      obtain rfl : entry = last := by simpa using hlast
      exact .inr ⟨⟨before, e, front, rfl, hraises, fun later hlater =>
        hafter later (by simp [hlater])⟩, hafter entry (by simp)⟩
  · rintro (hraises | ⟨⟨before, e, after, rfl, hraises, hafter⟩, hclears⟩)
    · exact ⟨t, entry, [], rfl, hraises, nofun⟩
    · refine ⟨before, e, after ++ [entry], by simp, hraises, ?_⟩
      intro later hlater
      rcases List.mem_append.1 hlater with hlater | hlater
      · exact hafter later hlater
      · rw [List.mem_singleton.1 hlater]
        exact hclears

/-- Behind an entry that clears it, what went before does not count. -/
theorem append_iff (hclears : clears entry) (hraises : ¬ raises entry) {rest : List α} :
    Pending raises clears (t ++ entry :: rest) ↔ Pending raises clears rest := by
  induction rest using List.reverseRecOn with
  | nil =>
    rw [concat_iff]
    exact ⟨fun h => h.elim (absurd · hraises) fun h => absurd hclears h.2,
      fun h => absurd h not_nil⟩
  | append_singleton rest last ih =>
    rw [← List.cons_append, ← List.append_assoc, concat_iff, concat_iff, ih]

end Pending

end SolidSyslog.Lib
