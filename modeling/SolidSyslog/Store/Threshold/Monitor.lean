import SolidSyslog.Store.BlockSequence
import SolidSyslog.Store.Bounds.Trace

/-!
# The capacity threshold, in the trace

A monitor reads the trace. It knows the run of blocks, the sizes and whether the store has just
refused a record, and so how many bytes are used whenever the store asks for its threshold; its
latch is up while they are at or above it. When the latch goes up, the event is due next and the
callback after it, and neither may come at any other time.
-/

namespace SolidSyslog.Store

open Lib

variable {σ : Type} {P : Platform σ} {C : Config}

/-- `BlockSequence_IsAboveThreshold`. -/
def isAboveThreshold (used threshold : Nat) : Bool :=
  threshold != 0 && threshold ≤ used

/-- What has to come next. -/
inductive Due where
  | nothing
  | event
  | callback
  deriving DecidableEq

structure Monitor where
  sizes : Sequence → Option Nat
  run : Option (Sequence × Sequence)
  refused : Bool
  latch : Bool
  due : Due

/-- The event of a crossing. -/
def Event.isCrossing : Event → Bool
  | .call (.report _ .storeThresholdCrossed _) _ => true
  | _ => false

/-- The callback of a crossing. -/
def Event.isCallback : Event → Bool
  | .call .onThresholdCrossed _ => true
  | _ => false

/-- The policy's answer that makes the store refuse a record. -/
def Event.isRefusal : Event → Bool
  | .call .getDiscardPolicy policy => policy != .oldest
  | _ => false

/-- The run of blocks after an event. -/
def Event.moves (run : Option (Sequence × Sequence)) : Event → Option (Sequence × Sequence)
  | .run oldest write => some (oldest, write)
  | _ => run

namespace Monitor

/-- The bytes used: all there are while the store refuses, else the blocks before the write block
and what that one holds. -/
def usedBytes (C : Config) (m : Monitor) : Nat :=
  if m.refused then BlockSequence.totalBytes C
  else match m.run with
    | some (oldest, write) => (ahead oldest write * C.maxBlockSize + (m.sizes write).getD 0) %
        2 ^ C.tunables.sizeBits
    | none => 0

/-- The latch and what is due, after an event. -/
def judge (C : Config) (m : Monitor) : Event → Bool × Due
  | .call .getCapacityThreshold threshold =>
    let above := isAboveThreshold (m.usedBytes C) threshold
    (above, if above && !m.latch then .event else .nothing)
  | .call (.report _ .storeThresholdCrossed _) _ => (m.latch, .callback)
  | .call .onThresholdCrossed _ => (m.latch, .nothing)
  | _ => (m.latch, m.due)

def next (C : Config) (m : Monitor) (event : Event) : Monitor where
  sizes := event.learn m.sizes
  run := event.moves m.run
  refused := event.isRefusal
  latch := (m.judge C event).1
  due := (m.judge C event).2

/-- The event of a crossing comes when it is due and not otherwise, and so does the callback. -/
def Allows (m : Monitor) (event : Event) : Prop :=
  (event.isCrossing = true ↔ m.due = .event) ∧ (event.isCallback = true ↔ m.due = .callback)

end Monitor

/-- The monitor after a trace. -/
def monitor (C : Config) (trace : List Event) : Monitor :=
  trace.foldl (Monitor.next C) ⟨fun _ => none, none, false, false, .nothing⟩

@[simp] theorem monitor_concat (trace : List Event) (event : Event) :
    monitor C (trace ++ [event]) = (monitor C trace).next C event := by
  simp [monitor]

theorem monitor_sizes (trace : List Event) : (monitor C trace).sizes = sizesKnown trace := by
  induction trace using List.reverseRecOn with
  | nil => rfl
  | append_singleton trace event ih =>
    rw [monitor_concat, sizesKnown_concat, ← ih]
    rfl

/-- The monitor's latch is as given, nothing is due, and everything came when it was due. -/
structure Latched (C : Config) (trace : List Event) (latch : Bool) : Prop where
  latch : (monitor C trace).latch = latch
  due : (monitor C trace).due = .nothing
  calls : Always (fun before event => (monitor C before).Allows event) trace

theorem latched_nil : Latched C [] false :=
  ⟨rfl, rfl, .nil⟩

/-- An event that says nothing of the threshold. -/
def Event.isSilent : Event → Bool
  | .call .getCapacityThreshold _ | .call (.report _ .storeThresholdCrossed _) _
  | .call .onThresholdCrossed _ => false
  | _ => true

theorem judge_of_silent {event : Event} (h : event.isSilent = true) (m : Monitor) :
    m.judge C event = (m.latch, m.due) := by
  unfold Monitor.judge
  split <;> first | rfl | cases h

theorem allows_of_silent {event : Event} (h : event.isSilent = true) {m : Monitor}
    (hdue : m.due = .nothing) : m.Allows event := by
  have hcrossing : event.isCrossing = false := by
    unfold Event.isCrossing
    split <;> first | rfl | cases h
  have hcallback : event.isCallback = false := by
    unfold Event.isCallback
    split <;> first | rfl | cases h
  simp [Monitor.Allows, hcrossing, hcallback, hdue]

theorem Latched.concat {trace : List Event} {latch : Bool} (h : Latched C trace latch)
    {event : Event} (hsilent : event.isSilent = true) : Latched C (trace ++ [event]) latch := by
  have hjudge := judge_of_silent (C := C) hsilent (monitor C trace)
  refine ⟨?_, ?_, h.calls.concat (allows_of_silent hsilent h.due)⟩
  · rw [monitor_concat, ← h.latch]
    exact congrArg Prod.fst hjudge
  · rw [monitor_concat, ← h.due]
    exact congrArg Prod.snd hjudge

theorem Latched.silent {trace trace' : List Event} {latch : Bool} (h : Latched C trace latch)
    (hsilent : Extends (fun event => event.isSilent = true) trace trace') :
    Latched C trace' latch := by
  obtain ⟨new, rfl, hnew⟩ := hsilent
  induction new using List.reverseRecOn with
  | nil => simpa using h
  | append_singleton new event ih =>
    rw [← List.append_assoc]
    apply Latched.concat
    · exact ih fun e he => hnew e (List.mem_append_left _ he)
    · exact hnew event (by simp)

/-- The threshold is asked for. -/
theorem Latched.asked {trace : List Event} {latch : Bool} (h : Latched C trace latch)
    (threshold : Nat) :
    (monitor C (trace ++ [.call .getCapacityThreshold threshold])).latch =
        isAboveThreshold ((monitor C trace).usedBytes C) threshold ∧
      (monitor C (trace ++ [.call .getCapacityThreshold threshold])).due =
        (if isAboveThreshold ((monitor C trace).usedBytes C) threshold && !latch then .event
          else .nothing) ∧
      Always (fun before event => (monitor C before).Allows event)
        (trace ++ [.call .getCapacityThreshold threshold]) := by
  refine ⟨?_, ?_, h.calls.concat ?_⟩
  · rw [monitor_concat]
    rfl
  · rw [monitor_concat, ← h.latch]
    rfl
  · simp [Monitor.Allows, Event.isCrossing, Event.isCallback, h.due]

/-- Once the event and the callback have come, nothing is due. -/
theorem Latched.announced {trace : List Event} {latch : Bool}
    (hlatch : (monitor C trace).latch = latch) (hdue : (monitor C trace).due = .event)
    (hcalls : Always (fun before event => (monitor C before).Allows event) trace) :
    Latched C (trace ++ [.call (.report .warning .storeThresholdCrossed .thresholdCrossed) ()] ++
      [.call .onThresholdCrossed ()]) latch := by
  refine ⟨?_, ?_, Always.concat (hcalls.concat ?_) ?_⟩
  · rw [monitor_concat, monitor_concat, ← hlatch]
    rfl
  · rw [monitor_concat, monitor_concat]
    rfl
  · simp [Monitor.Allows, Event.isCrossing, Event.isCallback, hdue]
  · rw [monitor_concat]
    simp [Monitor.Allows, Event.isCrossing, Event.isCallback, Monitor.next, Monitor.judge]

/-- An event that moves no block, says nothing of the threshold and is no failed seal. -/
def Event.isStill : Event → Bool
  | .run _ _ => false
  | event => event.isSilent && !event.isFailedSeal

theorem silent_of_still {event : Event} (h : event.isStill = true) : event.isSilent = true := by
  unfold Event.isStill at h
  split at h
  · cases h
  · rw [Bool.and_eq_true] at h
    exact h.1

theorem moves_of_still {event : Event} (h : event.isStill = true)
    (run : Option (Sequence × Sequence)) : event.moves run = run := by
  cases event with
  | run oldest write => cases h
  | _ => rfl

theorem failedSeals_of_still {trace trace' : List Event}
    (h : Extends (fun event => event.isStill = true) trace trace') :
    failedSeals trace' = failedSeals trace := by
  obtain ⟨new, rfl, hnew⟩ := h
  have hnone : failedSeals new = 0 := by
    apply List.countP_eq_zero.2
    intro event hevent hfailed
    have hstill : event.isStill = true := hnew event hevent
    unfold Event.isStill at hstill
    split at hstill
    · cases hstill
    · rw [hfailed, Bool.not_true, Bool.and_false] at hstill
      cases hstill
  rw [failedSeals_append, hnone, Nat.add_zero]

theorem run_of_still {trace trace' : List Event}
    (h : Extends (fun event => event.isStill = true) trace trace') :
    (monitor C trace').run = (monitor C trace).run := by
  obtain ⟨new, rfl, hnew⟩ := h
  induction new using List.reverseRecOn with
  | nil => simp
  | append_singleton new event ih =>
    rw [← List.append_assoc, monitor_concat, ← ih fun e he => hnew e (List.mem_append_left _ he)]
    exact moves_of_still (hnew event (by simp)) _

end SolidSyslog.Store
