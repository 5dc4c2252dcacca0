import SolidSyslog.Store.Media
import Mathlib.Data.List.Induction

/-!
# A device that failed, in the trace

The trace goes through a small automaton. While no call of the device has failed it is clean; a
failed call breaks it; the freeze that names the failed operation closes it. A device call after a
failure, a second freeze or a freeze that names another operation would ruin it.
-/

namespace SolidSyslog.Store

open Lib

variable {σ : Type} {P : Platform σ} {C : Config}

/-! ## The trace -/

/-- The error a `STORE_FROZEN` event carries; `none` for every other event. -/
def Event.freezes : Event → Option BlockStoreError
  | .call (.report _ .storeFrozen error) _ => some error
  | _ => none

/-- Whether the error is the name of the operation that failed. -/
def names : Request → BlockStoreError → Bool
  | .acquire _, error => error == .openFailed || error == .rotateFailed
  | .dispose _, error => error == .disposeFailed
  | .read _ _ _, error => error == .readFailed
  | .append _ _, error => error == .appendFailed
  | .writeAt _ _ _, error => error == .markSentFailed
  | .size _, error => error == .sizeFailed
  | _, _ => false

/-- How far the trace has come. -/
inductive Phase where
  | clean
  | broken (request : Request)
  | reported
  | ruined

/-- The phase after one more event. -/
def Phase.next (current : Phase) (event : Event) : Phase :=
  match current, event.freezes, event with
  | .clean, some _, _ => .ruined
  | .clean, none, .call request answer =>
    if Event.isFailure (.call request answer) then .broken request else .clean
  | .clean, none, _ => .clean
  | .broken failed, some error, _ => if names failed error then .reported else .ruined
  | .broken failed, none, event => if event.isDeviceCall then .ruined else .broken failed
  | .reported, some _, _ => .ruined
  | .reported, none, event => if event.isDeviceCall then .ruined else .reported
  | .ruined, _, _ => .ruined

def phase (trace : List Event) : Phase :=
  trace.foldl Phase.next .clean

theorem phase_concat (trace : List Event) (event : Event) :
    phase (trace ++ [event]) = (phase trace).next event := by
  simp [phase]

/-- An event that neither calls the device nor freezes the store. -/
def Event.isHarmless (event : Event) : Prop :=
  event.isDeviceCall = false ∧ event.freezes = none

/-- An event of a device that works. -/
def Event.isWorking (event : Event) : Prop :=
  event.isFailure = false ∧ event.freezes = none

/-- What a phase says of the trace. -/
def Phase.Says (trace : List Event) : Phase → Prop
  | .clean => ∀ e ∈ trace, e.isWorking
  | .broken failed => ∃ before answer after, trace = before ++ .call failed answer :: after ∧
      Event.isFailure (.call failed answer) = true ∧
      (∀ e ∈ before, e.isWorking) ∧ (∀ e ∈ after, e.isHarmless)
  | .reported => ∃ before failed answer between frozen error after,
      trace = before ++ .call failed answer :: (between ++ frozen :: after) ∧
      Event.isFailure (.call failed answer) = true ∧
      frozen.freezes = some error ∧ names failed error = true ∧
      (∀ e ∈ before, e.isWorking) ∧ (∀ e ∈ between, e.isHarmless) ∧ (∀ e ∈ after, e.isHarmless)
  | .ruined => True

theorem forall_mem_concat {p : Event → Prop} {trace : List Event} {event : Event}
    (h : ∀ e ∈ trace, p e) (hevent : p event) : ∀ e ∈ trace ++ [event], p e := by
  intro e he
  rcases List.mem_append.1 he with he | he
  · exact h e he
  · rw [List.mem_singleton.1 he]
    exact hevent

theorem Phase.says_next {trace : List Event} {current : Phase} (h : current.Says trace)
    (event : Event) : (current.next event).Says (trace ++ [event]) := by
  cases current with
  | clean =>
    cases hfreezes : event.freezes with
    | some error => simp [Phase.next, hfreezes, Phase.Says]
    | none =>
      rcases event with ⟨request, answer⟩ | _ | _ | _ | _
      · simp only [Phase.next, hfreezes]
        by_cases hfail : Event.isFailure (.call request answer) = true
        · rw [if_pos hfail]
          exact ⟨trace, answer, [], rfl, hfail, h, by simp⟩
        · rw [if_neg hfail]
          exact forall_mem_concat h ⟨by simpa using hfail, hfreezes⟩
      all_goals exact forall_mem_concat h ⟨rfl, rfl⟩
  | broken failed =>
    obtain ⟨before, answer, after, rfl, hfail, hbefore, hafter⟩ := h
    cases hfreezes : event.freezes with
    | some error =>
      by_cases hnames : names failed error = true
      · have hnext : (Phase.broken failed).next event = .reported := by
          simp [Phase.next, hfreezes, hnames]
        rw [hnext]
        exact ⟨before, failed, answer, after, event, error, [], by simp, hfail, hfreezes, hnames,
          hbefore, hafter, by simp⟩
      · simp [Phase.next, hfreezes, hnames, Phase.Says]
    | none =>
      by_cases hdevice : event.isDeviceCall = true
      · simp [Phase.next, hfreezes, hdevice, Phase.Says]
      · have hnext : (Phase.broken failed).next event = .broken failed := by
          simp [Phase.next, hfreezes, hdevice]
        rw [hnext]
        exact ⟨before, answer, after ++ [event], by simp, hfail, hbefore,
          forall_mem_concat hafter ⟨by simpa using hdevice, hfreezes⟩⟩
  | reported =>
    obtain ⟨before, failed, answer, between, frozen, error, after, rfl, hfail, hfrozen, hnames,
      hbefore, hbetween, hafter⟩ := h
    cases hfreezes : event.freezes with
    | some error => simp [Phase.next, hfreezes, Phase.Says]
    | none =>
      by_cases hdevice : event.isDeviceCall = true
      · simp [Phase.next, hfreezes, hdevice, Phase.Says]
      · have hnext : Phase.reported.next event = .reported := by
          simp [Phase.next, hfreezes, hdevice]
        rw [hnext]
        exact ⟨before, failed, answer, between, frozen, error, after ++ [event], by simp, hfail,
          hfrozen, hnames, hbefore, hbetween,
          forall_mem_concat hafter ⟨by simpa using hdevice, hfreezes⟩⟩
  | ruined => trivial

theorem phase_says (trace : List Event) : (phase trace).Says trace := by
  induction trace using List.reverseRecOn with
  | nil =>
    intro e he
    cases he
  | append_singleton trace event ih =>
    rw [phase_concat]
    exact Phase.says_next ih event

/-! ## The world through a call -/

namespace World

variable {w : World σ}

/-- No call of the device has failed. -/
def Clean (w : World σ) : Prop :=
  phase w.trace = .clean

/-- A call of the device failed, and nothing has called it or reported the freeze since. -/
def Broken (w : World σ) (failed : Request) : Prop :=
  phase w.trace = .broken failed

theorem Clean.asked_of_working (h : w.Clean) {request : Request}
    (hworks : Event.isWorking (.call request (P.answer request w.env).1)) :
    (w.asked P request).Clean := by
  unfold Clean at h ⊢
  rw [asked_trace, phase_concat, h]
  simp [Phase.next, hworks.1, hworks.2]

theorem Clean.asked_of_failure (h : w.Clean) (request : Request)
    (hfails : Event.isFailure (.call request (P.answer request w.env).1) = true) :
    (w.asked P request).Broken request := by
  unfold Clean at h
  unfold Broken
  have hfreezes : Event.freezes (.call request (P.answer request w.env).1) = none := by
    cases request <;> first | rfl | cases hfails
  rw [asked_trace, phase_concat, h]
  simp [Phase.next, hfails, hfreezes]

theorem Clean.noted (h : w.Clean) {event : Event}
    (hnote : ∀ request answer, event ≠ .call request answer) :
    (w.noted event).Clean := by
  unfold Clean at h ⊢
  rw [noted_trace, phase_concat, h]
  cases event with
  | call request answer => exact absurd rfl (hnote request answer)
  | _ => rfl

theorem Clean.report (h : w.Clean) {severity : Severity} {category : Category}
    {error : BlockStoreError} (hcategory : category ≠ .storeFrozen) :
    (w.asked P (.report severity category error)).Clean := by
  apply h.asked_of_working
  refine ⟨rfl, ?_⟩
  unfold Event.freezes
  split
  · next heq => simp_all
  · rfl

end World

end SolidSyslog.Store
