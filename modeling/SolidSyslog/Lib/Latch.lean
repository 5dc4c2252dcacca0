import Mathlib.Data.List.Basic
import Mathlib.Tactic.Common

/-!
# A report for each run of faults

A latched report is made at the first fault of a run and at no other fault of it; the run lasts
until something clears it. `RunsReported` says this of a list of observations: each report comes
right after the fault that began a run, and each fault that begins a run is followed by its
report. `count_report_eq_runCount` reads off that there are as many reports as runs.
-/

namespace SolidSyslog.Lib

/-- What is seen of a latched report: a fault, the report of a run, the end of a run. -/
inductive Observation where
  | fault
  | report
  | clear
  deriving DecidableEq, Repr

/-- Every run of faults has one report, made at its first fault. The flag says whether a run is
under way. -/
def RunsReported : Bool → List Observation → Prop
  | _, [] => True
  | false, .fault :: .report :: rest => RunsReported true rest
  | true, .fault :: rest => RunsReported true rest
  | _, .clear :: rest => RunsReported false rest
  | _, _ => False

/-- Whether a run is under way after the observations. -/
def inRun : Bool → List Observation → Bool
  | latched, [] => latched
  | _, .fault :: rest => inRun true rest
  | latched, .report :: rest => inRun latched rest
  | _, .clear :: rest => inRun false rest

/-- The number of maximal runs of faults that begin in the list. -/
def runCount : Bool → List Observation → Nat
  | _, [] => 0
  | latched, .fault :: rest => (if latched then 0 else 1) + runCount true rest
  | latched, .report :: rest => runCount latched rest
  | _, .clear :: rest => runCount false rest

/-- What one more fault adds to the observations, given whether a run is under way. -/
def faultObservations (latched : Bool) : List Observation :=
  if latched then [.fault] else [.fault, .report]

theorem RunsReported.append {latched : Bool} {seen more : List Observation}
    (h : RunsReported latched seen) (hmore : RunsReported (inRun latched seen) more) :
    RunsReported latched (seen ++ more) := by
  induction latched, seen using RunsReported.induct with
  | case1 latched => exact hmore
  | case2 rest ih => exact ih h hmore
  | case3 rest ih =>
    simp only [List.cons_append, RunsReported] at h ⊢
    exact ih h hmore
  | case4 latched rest ih => cases latched <;> exact ih h hmore
  | case5 latched seen hnil hfalse htrue hclear =>
    cases latched <;> rcases seen with _ | ⟨(_ | _ | _), rest⟩ <;> simp_all [RunsReported]

theorem runsReported_fault (latched : Bool) : RunsReported latched (faultObservations latched) := by
  cases latched <;> exact trivial

theorem inRun_append (latched : Bool) (seen more : List Observation) :
    inRun latched (seen ++ more) = inRun (inRun latched seen) more := by
  induction seen generalizing latched with
  | nil => rfl
  | cons o seen ih => cases o <;> exact ih _

theorem inRun_fault (latched : Bool) : inRun latched (faultObservations latched) = true := by
  cases latched <;> rfl

/-- Observations that take a latch from one position to another, with a report for each run. -/
structure LatchRun (latched : Bool) (seen : List Observation) (latched' : Bool) : Prop where
  reported : RunsReported latched seen
  ends : inRun latched seen = latched'

namespace LatchRun

variable {latched latched' latched'' : Bool} {seen more : List Observation}

theorem nil (latched : Bool) : LatchRun latched [] latched :=
  ⟨trivial, rfl⟩

theorem append (h : LatchRun latched seen latched') (hmore : LatchRun latched' more latched'') :
    LatchRun latched (seen ++ more) latched'' := by
  refine ⟨h.reported.append ?_, ?_⟩
  · rw [h.ends]
    exact hmore.reported
  · rw [inRun_append, h.ends, hmore.ends]

theorem fault (latched : Bool) : LatchRun latched (faultObservations latched) true :=
  ⟨runsReported_fault latched, inRun_fault latched⟩

theorem clear (latched : Bool) : LatchRun latched [.clear] false := by
  cases latched <;> exact ⟨trivial, rfl⟩

end LatchRun

/-- There are as many reports as runs. -/
theorem count_report_eq_runCount {latched : Bool} {seen : List Observation}
    (h : RunsReported latched seen) : seen.count .report = runCount latched seen := by
  induction latched, seen using RunsReported.induct with
  | case1 latched => rfl
  | case2 rest ih =>
    have := ih h
    simp [runCount, this]
    omega
  | case3 rest ih =>
    simp only [RunsReported] at h
    simpa [runCount] using ih h
  | case4 latched rest ih => cases latched <;> simpa [runCount] using ih h
  | case5 latched seen hnil hfalse htrue hclear =>
    cases latched <;> rcases seen with _ | ⟨(_ | _ | _), rest⟩ <;> simp_all [RunsReported]

end SolidSyslog.Lib
