import Mathlib.Logic.Function.Iterate
import SolidSyslog.Lib.Interleaving
import SolidSyslog.Lib.Trace

/-!
# A compare-exchange loop

Tasks that read a shared cell, compute the next value from what they read, and put it there if the
cell still has what they read, trying again with what they find if it has not. Under every order of
their steps the values put there are the iterates of the one function, in order, and a task tries
again only because another has got its value in.
-/

namespace SolidSyslog.Lib

/-- A step of a task at the cell. -/
inductive CellEntry (τ α : Type) where
  | loaded (task : τ) (value : α)
  | exchanged (task : τ) (expected desired : α) (ok : Bool)
  deriving DecidableEq

namespace CellEntry

variable {τ α : Type}

/-- Whose step it is. -/
def task : CellEntry τ α → τ
  | loaded t _ => t
  | exchanged t _ _ _ => t

/-- What it has put into the cell, and for whom. -/
def put : CellEntry τ α → Option (τ × α)
  | exchanged t _ desired true => some (t, desired)
  | _ => none

/-- It has put a value into the cell. -/
def Puts (entry : CellEntry τ α) : Prop :=
  entry.put.isSome

/-- It has put nothing into the cell, and its task tries again. -/
def Retries : CellEntry τ α → Prop
  | exchanged _ _ _ ok => ok = false
  | loaded _ _ => False

end CellEntry

/-- A shared cell, and what each task in the loop has read of it. -/
structure SharedCell (τ α : Type) where
  value : α
  current : τ → Option α
  trace : List (CellEntry τ α)

namespace SharedCell

variable {τ α : Type}

def initial (value : α) : SharedCell τ α :=
  ⟨value, fun _ => none, []⟩

/-- The values put into the cell, in order. -/
def puts (s : SharedCell τ α) : List (τ × α) :=
  s.trace.filterMap CellEntry.put

section Step

variable [DecidableEq τ] [DecidableEq α] (next : α → α) (s : SharedCell τ α)

/-- The next step of a task: a task outside the loop reads the cell, one inside exchanges. -/
def step (task : τ) : Option (SharedCell τ α) :=
  match s.current task with
  | none => some { s with
      current := Function.update s.current task (some s.value)
      trace := s.trace ++ [.loaded task s.value] }
  | some current =>
    if s.value = current then some {
      value := next current
      current := Function.update s.current task none
      trace := s.trace ++ [.exchanged task current (next current) true] }
    else some { s with
      current := Function.update s.current task (some s.value)
      trace := s.trace ++ [.exchanged task current (next current) false] }

end Step

/-- A task tries again only if a value has been put there since its last step. -/
def RetriesAfterPut (before : List (CellEntry τ α)) (entry : CellEntry τ α) : Prop :=
  entry.Retries → ∃ earlier later, before = earlier ++ later ∧ (∃ e ∈ later, e.Puts) ∧
    ∀ e ∈ later, e.task ≠ entry.task

/-- What holds of the cell after any steps. -/
structure Iterated (next : α → α) (start : α) (s : SharedCell τ α) : Prop where
  value : s.value = next^[s.puts.length] start
  puts : s.puts.map Prod.snd = (List.range s.puts.length).map fun k => next^[k + 1] start
  read : ∀ task current, s.current task = some current → ∃ earlier later,
    s.trace = earlier ++ later ∧ (∀ e ∈ later, e.task ≠ task) ∧
      (s.value = current ∨ ∃ e ∈ later, e.Puts)
  retries : Always RetriesAfterPut s.trace

namespace Iterated

variable {next : α → α} {start : α} {s s' : SharedCell τ α}

theorem initial : Iterated next start (initial start : SharedCell τ α) where
  value := rfl
  puts := rfl
  read _ _ h := by cases h
  retries := Always.nil

variable [DecidableEq τ] {task : τ}

/-- The task that steps has read the cell now; what the others have read is as old as it was. -/
theorem read_update {entry : CellEntry τ α} {value : α} {reads : Option α}
    (h : Iterated next start s)
    (htask : entry.task = task) (hvalue : value = s.value ∨ entry.Puts)
    (hreads : ∀ current, reads = some current → value = current) (t : τ) (current : α)
    (hcurrent : Function.update s.current task reads t = some current) :
    ∃ earlier later, s.trace ++ [entry] = earlier ++ later ∧ (∀ e ∈ later, e.task ≠ t) ∧
      (value = current ∨ ∃ e ∈ later, e.Puts) := by
  rcases eq_or_ne t task with rfl | hne
  · rw [Function.update_self] at hcurrent
    exact ⟨s.trace ++ [entry], [], by simp, by simp, .inl (hreads current hcurrent)⟩
  · rw [Function.update_of_ne hne] at hcurrent
    obtain ⟨earlier, later, htrace, hothers, hseen⟩ := h.read t current hcurrent
    refine ⟨earlier, later ++ [entry], by rw [htrace, List.append_assoc], ?_, ?_⟩
    · intro e he
      rcases List.mem_append.1 he with he | he
      · exact hothers e he
      · obtain rfl := List.mem_singleton.1 he
        rw [htask]
        exact hne.symm
    · rcases hseen with hsame | ⟨e, he, hputs⟩
      · rcases hvalue with rfl | hputs
        · exact .inl hsame
        · exact .inr ⟨entry, by simp, hputs⟩
      · exact .inr ⟨e, List.mem_append_left _ he, hputs⟩

theorem step [DecidableEq α] (h : Iterated next start s) (hstep : s.step next task = some s') :
    Iterated next start s' := by
  unfold SharedCell.step at hstep
  split at hstep
  · cases hstep
    have hputs : SharedCell.puts { s with
        current := Function.update s.current task (some s.value)
        trace := s.trace ++ [.loaded task s.value] } = s.puts := by
      simp [SharedCell.puts, CellEntry.put]
    refine ⟨?_, ?_, h.read_update rfl (.inl rfl) fun _ => Option.some.inj, ?_⟩
    · rw [hputs]
      exact h.value
    · rw [hputs]
      exact h.puts
    · exact h.retries.concat fun hretries => hretries.elim
  · next current hcurrent =>
    split at hstep
    · next hsame =>
      cases hstep
      have hputs : SharedCell.puts { s with
          value := next current
          current := Function.update s.current task none
          trace := s.trace ++ [.exchanged task current (next current) true] } =
            s.puts ++ [(task, next current)] := by
        simp [SharedCell.puts, CellEntry.put]
      have hnext : next current = next^[s.puts.length + 1] start := by
        rw [Function.iterate_succ_apply', ← h.value, hsame]
      refine ⟨?_, ?_, h.read_update rfl (.inr rfl) (by simp), ?_⟩
      · rw [hputs, List.length_append, List.length_singleton]
        exact hnext
      · rw [hputs, List.map_append, List.length_append, List.length_singleton, List.range_succ,
          List.map_append, h.puts]
        simp [hnext]
      · exact h.retries.concat fun hretries => Bool.noConfusion hretries
    · next hother =>
      cases hstep
      have hputs : SharedCell.puts { s with
          current := Function.update s.current task (some s.value)
          trace := s.trace ++ [.exchanged task current (next current) false] } = s.puts := by
        simp [SharedCell.puts, CellEntry.put]
      refine ⟨?_, ?_, h.read_update rfl (.inl rfl) fun _ => Option.some.inj, ?_⟩
      · rw [hputs]
        exact h.value
      · rw [hputs]
        exact h.puts
      · refine h.retries.concat fun _ => ?_
        obtain ⟨earlier, later, htrace, hothers, hseen⟩ := h.read task current hcurrent
        exact ⟨earlier, later, htrace, hseen.resolve_left hother, hothers⟩

end Iterated

/-- Whatever the order of the tasks' steps, the values put into the cell are the iterates of the
function, and a task tries again only if another has put its value there. -/
theorem iterated_of_reached [DecidableEq τ] [DecidableEq α] {next : α → α} {start : α}
    {s : SharedCell τ α} (h : Reached (SharedCell.step next) anyMove (initial start) s) :
    Iterated next start s :=
  h.invariant .initial fun hiterated _ => hiterated.step

end SharedCell

end SolidSyslog.Lib
