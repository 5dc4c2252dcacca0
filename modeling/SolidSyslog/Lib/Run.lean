import Mathlib.Data.List.Basic
import Mathlib.Tactic.Common

/-!
# Runs of a component, invariants and simulation

A component is a step relation: in a state, an operation gives an answer and a next state. A run
does a list of operations and collects the answers. What each step preserves every run preserves
(`Run.invariant`), and a component that answers each operation as a specification allows answers
every list of operations as the specification allows (`forward_simulation`), with a run that
exists for each list, so a component that hangs or faults refines nothing.
-/

namespace SolidSyslog.Lib

variable {State Spec Op Answer : Type}

/-- A run of `step` from one state to another over a list of operations, with the answers given. -/
inductive Run (step : State → Op → Answer → State → Prop) :
    State → List Op → List Answer → State → Prop
  | nil (s : State) : Run step s [] [] s
  | cons {s s' s'' : State} {op : Op} {answer : Answer} {ops : List Op} {answers : List Answer}
      (first : step s op answer s') (rest : Run step s' ops answers s'') :
      Run step s (op :: ops) (answer :: answers) s''

namespace Run

variable {step : State → Op → Answer → State → Prop}

/-- What every step on the operations of `D` preserves, every run over them preserves. -/
theorem invariant {I : State → Prop} {D : Op → Prop} {s s' : State} {ops : List Op}
    {answers : List Answer} (h : Run step s ops answers s') (hops : ∀ op ∈ ops, D op) (hs : I s)
    (hstep : ∀ {s op answer s'}, D op → I s → step s op answer s' → I s') : I s' := by
  induction h with
  | nil => exact hs
  | cons first rest ih =>
    exact ih (fun op hop => hops op (List.mem_cons_of_mem _ hop))
      (hstep (hops _ List.mem_cons_self) hs first)

/-- What every step keeps of a state and the answers that led to it, every run keeps. -/
theorem history {I : State → List Answer → Prop} {s s' : State} {ops : List Op}
    {answers past : List Answer} (h : Run step s ops answers s') (hs : I s past)
    (hstep : ∀ {s op answer s' past}, I s past → step s op answer s' → I s' (past ++ [answer])) :
    I s' (past ++ answers) := by
  induction h generalizing past with
  | nil =>
    rw [List.append_nil]
    exact hs
  | @cons s s' s'' op answer ops answers first rest ih =>
    have hrest := ih (hstep hs first)
    rwa [List.append_assoc, List.singleton_append] at hrest

/-- Two runs, one after the other. -/
theorem append {s s₁ s' : State} {ops ops' : List Op} {answers answers' : List Answer}
    (h : Run step s ops answers s₁) (h' : Run step s₁ ops' answers' s') :
    Run step s (ops ++ ops') (answers ++ answers') s' := by
  induction h with
  | nil => exact h'
  | cons first rest ih => exact .cons first (ih h')

/-- A run can be cut behind any of its answers. -/
theorem split {s s' : State} {ops : List Op} {answers answers' : List Answer}
    (h : Run step s ops (answers ++ answers') s') : ∃ s₁,
      Run step s (ops.take answers.length) answers s₁ ∧
        Run step s₁ (ops.drop answers.length) answers' s' := by
  induction answers generalizing s ops with
  | nil => exact ⟨s, .nil s, h⟩
  | cons answer answers ih =>
    cases h with
    | cons first rest =>
      obtain ⟨s₁, hfront, hback⟩ := ih rest
      exact ⟨s₁, .cons first hfront, hback⟩

/-- The last answer of a run was given by its last step. -/
theorem last {s s' : State} {ops : List Op} {answers : List Answer} {answer : Answer}
    (h : Run step s ops (answers ++ [answer]) s') : ∃ s₁ op, step s₁ op answer s' := by
  obtain ⟨s₁, -, hlast⟩ := h.split
  cases hops : ops.drop answers.length with
  | nil =>
    rw [hops] at hlast
    cases hlast
  | cons op ops =>
    rw [hops] at hlast
    cases hlast with
    | cons first rest =>
      cases rest
      exact ⟨s₁, op, first⟩

theorem mono {step' : State → Op → Answer → State → Prop} {s s' : State} {ops : List Op}
    {answers : List Answer} (h : Run step s ops answers s')
    (hstep : ∀ {s op answer s'}, step s op answer s' → step' s op answer s') :
    Run step' s ops answers s' := by
  induction h with
  | nil s => exact .nil s
  | cons first rest ih => exact .cons (hstep first) ih

/-- A run whose every step a specification allows is a run of the specification. -/
theorem simulates {allowed : Spec → Op → Answer → Spec → Prop} {R : State → Spec → Prop}
    {D : Op → Prop} {s s' : State} {q : Spec} {ops : List Op} {answers : List Answer}
    (h : Run step s ops answers s') (hops : ∀ op ∈ ops, D op) (hR : R s q)
    (hstep : ∀ {s q op answer s'}, D op → R s q → step s op answer s' →
      ∃ q', allowed q op answer q' ∧ R s' q') :
    ∃ q', Run allowed q ops answers q' ∧ R s' q' := by
  induction h generalizing q with
  | nil => exact ⟨q, .nil q, hR⟩
  | cons first rest ih =>
    obtain ⟨q₁, hallowed, hR₁⟩ := hstep (hops _ List.mem_cons_self) hR first
    obtain ⟨q', hrun, hR'⟩ := ih (fun op hop => hops op (List.mem_cons_of_mem _ hop)) hR₁
    exact ⟨q', .cons hallowed hrun, hR'⟩

/-- A step that has one outcome makes a run that has one outcome. -/
theorem deterministic {s s₁ s₂ : State} {ops : List Op} {as₁ as₂ : List Answer}
    (h₁ : Run step s ops as₁ s₁) (h₂ : Run step s ops as₂ s₂)
    (hdet : ∀ {s op a₁ a₂ s₁ s₂}, step s op a₁ s₁ → step s op a₂ s₂ → a₁ = a₂ ∧ s₁ = s₂) :
    as₁ = as₂ ∧ s₁ = s₂ := by
  induction h₁ generalizing as₂ s₂ with
  | nil => cases h₂; exact ⟨rfl, rfl⟩
  | cons first rest ih =>
    cases h₂ with
    | cons first' rest' =>
      obtain ⟨rfl, rfl⟩ := hdet first first'
      obtain ⟨rfl, rfl⟩ := ih rest'
      exact ⟨rfl, rfl⟩

/-! ## The run of a function -/

section Function

variable {f : Op → State → Answer × State}

/-- The answers a function gives to some operations, and the state they end in. -/
def doAll (f : Op → State → Answer × State) : List Op → State → List Answer × State
  | [], s => ([], s)
  | op :: ops, s =>
    let done := f op s
    let rest := doAll f ops done.2
    (done.1 :: rest.1, rest.2)

/-- The operations, each behind the state it is done in. -/
def along (f : Op → State → Answer × State) : List Op → State → List (State × Op)
  | [], _ => []
  | op :: ops, s => (s, op) :: along f ops (f op s).2

/-- A function that steps where its condition holds runs where it holds all along. -/
theorem of_along {D : State → Op → Prop}
    (hstep : ∀ {s op}, D s op → step s op (f op s).1 (f op s).2) {ops : List Op} {s : State}
    (hD : ∀ call ∈ along f ops s, D call.1 call.2) :
    Run step s ops (doAll f ops s).1 (doAll f ops s).2 := by
  induction ops generalizing s with
  | nil => exact .nil s
  | cons op ops ih =>
    have hfirst := hD (s, op) List.mem_cons_self
    exact .cons (hstep hfirst) (ih fun call hcall => hD call (List.mem_cons_of_mem _ hcall))

end Function

end Run

/-- A component whose every step is one its specification allows refines it over every list of
operations. -/
theorem forward_simulation {step : State → Op → Answer → State → Prop}
    {allowed : Spec → Op → Answer → Spec → Prop} {R : State → Spec → Prop} {D : Op → Prop}
    (hstep : ∀ {s q op}, D op → R s q →
      ∃ answer s' q', step s op answer s' ∧ allowed q op answer q' ∧ R s' q')
    {s : State} {q : Spec} (h : R s q) (ops : List Op) (hops : ∀ op ∈ ops, D op) :
    ∃ answers s' q', Run step s ops answers s' ∧ Run allowed q ops answers q' ∧ R s' q' := by
  induction ops generalizing s q with
  | nil => exact ⟨[], s, q, .nil s, .nil q, h⟩
  | cons op ops ih =>
    obtain ⟨answer, s₁, q₁, hs, hq, h₁⟩ := hstep (hops op List.mem_cons_self) h
    obtain ⟨answers, s', q', hrun, hspec, h'⟩ :=
      ih h₁ (fun op hop => hops op (List.mem_cons_of_mem _ hop))
    exact ⟨answer :: answers, s', q', .cons hs hrun, .cons hq hspec, h'⟩

end SolidSyslog.Lib
