import SolidSyslog.Lib.Run
import Mathlib.Data.List.Chain
import Mathlib.Data.Nat.Bitwise
import Mathlib.Logic.Function.Basic
import Mathlib.Tactic.Ring

/-!
# sysUpTime on a 32-bit tick counter

`SolidSyslogFreeRtosSysUpTime32.c` and `SolidSyslogCmsisRtosSysUpTime.c`. A call extends the counter
in a critical section, where it counts the wraps of the counter, and scales what it found outside of
it, so that calls of several tasks overlap there. The counter reads the true tick time modulo
`2 ^ 32`.
-/

namespace SolidSyslog.Rtos

open Lib

/-! ## The calls -/

/-- The two statics of `Extend`. -/
structure Phase where
  lastTicks : UInt32
  rollovers : UInt32
  deriving DecidableEq

/-- The statics as the program starts with them. -/
def Phase.initial : Phase :=
  ⟨0, 0⟩

/-- `Extend`: the counter with the wraps above it, and the statics after. -/
def extend (phase : Phase) (nowTicks : UInt32) : UInt64 × Phase :=
  let rollovers := if nowTicks < phase.lastTicks then phase.rollovers + 1 else phase.rollovers
  (rollovers.toUInt64 <<< 32 ||| nowTicks.toUInt64, ⟨nowTicks, rollovers⟩)

/-- `Hundredths`. -/
def hundredths (ticks : UInt64) (rate : UInt32) : UInt32 :=
  let wholeSecondHundredths := ticks / rate.toUInt64 * 100
  let subSecondHundredths := ticks % rate.toUInt64 * 100 / rate.toUInt64
  (wholeSecondHundredths + subSecondHundredths).toUInt32

/-- `FreeRtosSysUpTime_Extend`. -/
def freeRtosSysUpTimeExtend (phase : Phase) (nowTicks : UInt32) : UInt64 × Phase :=
  extend phase nowTicks

/-- `FreeRtosSysUpTime_Hundredths`, with `configTICK_RATE_HZ`. -/
def freeRtosSysUpTimeHundredths (ticks : UInt64) (configTickRateHz : UInt32) : UInt32 :=
  hundredths ticks configTickRateHz

/-- `CmsisRtosSysUpTime_Extend`. -/
def cmsisRtosSysUpTimeExtend (phase : Phase) (nowTicks : UInt32) : UInt64 × Phase :=
  extend phase nowTicks

/-- `CmsisRtosSysUpTime_Hundredths`. -/
def cmsisRtosSysUpTimeHundredths (ticks : UInt64) (tickFreqHz : UInt32) : UInt32 :=
  hundredths ticks tickFreqHz

/-- The statics, and what each task in a call has found in its critical section. -/
structure Calls (Task : Type) where
  phase : Phase
  ticks : Task → Option UInt64

/-- A task runs the critical section of a call at a true tick time, or leaves the call. -/
inductive Move (Task : Type) where
  | enter (task : Task) (time : Nat)
  | leave (task : Task)

variable {Task : Type} [DecidableEq Task]

/-- No task is in a call yet. -/
def Calls.initial : Calls Task :=
  ⟨.initial, fun _ => none⟩

/-- One move of a task in a `GetSysUpTime` made of these two functions, and what it returns. -/
inductive CallStep (extend : Phase → UInt32 → UInt64 × Phase)
    (hundredths : UInt64 → UInt32 → UInt32)
    (rate : UInt32) : Calls Task → Move Task → Option UInt32 → Calls Task → Prop
  | enter {calls : Calls Task} {task : Task} {time : Nat} (idle : calls.ticks task = none) :
      CallStep extend hundredths rate calls (.enter task time) none
        ⟨(extend calls.phase (UInt32.ofNat time)).2,
          Function.update calls.ticks task (some (extend calls.phase (UInt32.ofNat time)).1)⟩
  | leave {calls : Calls Task} {task : Task} {ticks : UInt64}
      (found : calls.ticks task = some ticks) :
      CallStep extend hundredths rate calls (.leave task) (some (hundredths ticks rate))
        ⟨calls.phase, Function.update calls.ticks task none⟩

/-- `SolidSyslogFreeRtos_GetSysUpTime`, of any number of tasks. -/
def FreeRtosStep (configTickRateHz : UInt32) :
    Calls Task → Move Task → Option UInt32 → Calls Task → Prop :=
  CallStep freeRtosSysUpTimeExtend freeRtosSysUpTimeHundredths configTickRateHz

/-- `SolidSyslogCmsisRtos_GetSysUpTime`, of any number of tasks. -/
def CmsisRtosStep (tickFreqHz : UInt32) :
    Calls Task → Move Task → Option UInt32 → Calls Task → Prop :=
  CallStep cmsisRtosSysUpTimeExtend cmsisRtosSysUpTimeHundredths tickFreqHz

/-! ## The scaling is exact -/

/-- Dividing before scaling loses nothing. -/
theorem scaled_eq (ticks : Nat) {rate : Nat} (hrate : 0 < rate) :
    ticks / rate * 100 + ticks % rate * 100 / rate = 100 * ticks / rate := by
  have hsplit : 100 * ticks = ticks % rate * 100 + rate * (ticks / rate * 100) := by
    conv_lhs => rw [← Nat.mod_add_div ticks rate]
    ring
  rw [hsplit, Nat.add_mul_div_left _ _ hrate, Nat.add_comm]

/-- The whole seconds may be too many for 64 bits; the low 32 of the sum are still right. -/
theorem hundredths_eq (ticks : UInt64) {rate : UInt32} (hrate : 0 < rate) :
    hundredths ticks rate = UInt32.ofNat (100 * ticks.toNat / rate.toNat) := by
  have hpos : 0 < rate.toNat := UInt32.lt_iff_toNat_lt.1 hrate
  have hlt : rate.toNat < 2 ^ 32 := rate.toNat_lt
  have hsub : ticks.toNat % rate.toNat * 100 < 2 ^ 64 := by
    have hmod := Nat.mod_lt ticks.toNat hpos
    omega
  rw [← UInt32.toNat_inj, ← scaled_eq ticks.toNat hpos]
  simp only [hundredths, UInt64.toNat_toUInt32, UInt64.toNat_add, UInt64.toNat_mul,
    UInt64.toNat_div,
    UInt64.toNat_mod, UInt32.toNat_toUInt64, UInt64.reduceToNat, UInt32.toNat_ofNat']
  rw [Nat.mod_eq_of_lt hsub]
  omega

/-! ## The phase follows the wraps -/

/-- The statics after a call whose critical section ran at this time. -/
def phaseAt (time : Nat) : Phase :=
  ⟨UInt32.ofNat time, UInt32.ofNat (time / 2 ^ 32)⟩

/-- What the two halves of the ticks make together. -/
theorem joined_toNat (high low : UInt32) :
    (high.toUInt64 <<< 32 ||| low.toUInt64).toNat = high.toNat * 2 ^ 32 + low.toNat := by
  have hhigh : high.toNat < 2 ^ 32 := high.toNat_lt
  have hshift : (high.toUInt64 <<< 32).toNat = high.toNat <<< 32 := by
    simp only [UInt64.toNat_shiftLeft, UInt32.toNat_toUInt64, UInt64.reduceToNat, Nat.reduceMod]
    rw [Nat.shiftLeft_eq]
    omega
  rw [UInt64.toNat_or, hshift, UInt32.toNat_toUInt64,
    ← Nat.shiftLeft_add_eq_or_of_lt low.toNat_lt, Nat.shiftLeft_eq]

/-- Where less than a whole turn of the counter went by, a counter that reads less has wrapped,
once. -/
theorem extend_phaseAt {time time' : Nat} (hle : time ≤ time') (hgap : time' < time + 2 ^ 32)
    (htime : time' < 2 ^ 64) :
    (extend (phaseAt time) (UInt32.ofNat time')).1.toNat = time' ∧
      (extend (phaseAt time) (UInt32.ofNat time')).2 = phaseAt time' := by
  have hrollovers : (if UInt32.ofNat time' < (phaseAt time).lastTicks then
    (phaseAt time).rollovers + 1
      else (phaseAt time).rollovers) = UInt32.ofNat (time' / 2 ^ 32) := by
    rw [← UInt32.toNat_inj]
    by_cases hless : UInt32.ofNat time' < (phaseAt time).lastTicks
    · rw [if_pos hless]
      rw [UInt32.lt_iff_toNat_lt] at hless
      simp only [phaseAt, UInt32.toNat_ofNat', UInt32.toNat_add, UInt32.reduceToNat] at hless ⊢
      omega
    · rw [if_neg hless]
      rw [UInt32.lt_iff_toNat_lt] at hless
      simp only [phaseAt, UInt32.toNat_ofNat'] at hless ⊢
      omega
  constructor
  · rw [extend]
    dsimp only
    rw [hrollovers, joined_toNat, UInt32.toNat_ofNat', UInt32.toNat_ofNat']
    omega
  · rw [extend]
    dsimp only
    rw [hrollovers]
    rfl

/-! ## Runs -/

/-- The times at which critical sections have run. -/
def times (moves : List (Move Task)) : List Nat :=
  moves.filterMap fun
    | .enter _ time => some time
    | .leave _ => none

/-- The time at which each task has run its last critical section, from what was known before. -/
def enteredFrom (since : Task → Option Nat) : List (Move Task) → Task → Option Nat
  | [] => since
  | .enter task time :: moves => enteredFrom (Function.update since task (some time)) moves
  | .leave _ :: moves => enteredFrom since moves

/-- The time at which each task has run its last critical section. -/
def enteredAt (moves : List (Move Task)) : Task → Option Nat :=
  enteredFrom (fun _ => none) moves

/-- Sections run one after another, each less than a turn of the counter after the one before. -/
def Spaced (times : List Nat) : Prop :=
  List.IsChain (fun time time' => time ≤ time' ∧ time' < time + 2 ^ 32) times

/-- In a run, from any time on, a task returns the hundredths of the time at which it entered. -/
theorem run_returns {rate : UInt32} (hrate : 0 < rate) {calls calls' : Calls Task}
    {moves : List (Move Task)} {answers : List (Option UInt32)}
    (hrun : Run (CallStep extend hundredths rate) calls moves answers calls') {last : Nat}
    {since : Task → Option Nat} (hphase : calls.phase = phaseAt last)
    (hticks : ∀ task ticks, calls.ticks task = some ticks → since task = some ticks.toNat)
    (hspaced : Spaced (last :: times moves)) (hbounded : ∀ time ∈ times moves, time < 2 ^ 64)
    {k : Nat} {task : Task} (hleave : moves[k]? = some (.leave task)) :
    ∃ time, enteredFrom since (moves.take k) task = some time ∧
      answers[k]? = some (some (UInt32.ofNat (100 * time / rate.toNat))) := by
  induction hrun generalizing last since k with
  | nil => cases hleave
  | @cons calls calls₁ calls' move answer moves answers first rest ih =>
    cases first with
    | @enter entering time idle =>
      obtain ⟨hfirst, hspaced⟩ := List.isChain_cons_cons.1 hspaced
      obtain ⟨htime, hbounded⟩ := List.forall_mem_cons.1 hbounded
      obtain ⟨hfound, hnext⟩ := extend_phaseAt hfirst.1 hfirst.2 htime
      cases k with
      | zero => cases hleave
      | succ k =>
        have hphase₁ : (extend calls.phase (UInt32.ofNat time)).2 = phaseAt time := by
          rw [hphase]
          exact hnext
        have hticks₁ : ∀ other ticks, Function.update calls.ticks entering
            (some (extend calls.phase (UInt32.ofNat time)).1) other = some ticks →
              Function.update since entering (some time) other = some ticks.toNat := by
          intro other ticks hother
          by_cases hsame : other = entering
          · rw [hsame, Function.update_self, hphase, Option.some.injEq] at hother
            rw [hsame, Function.update_self, ← hother, hfound]
          · rw [Function.update_of_ne hsame] at hother ⊢
            exact hticks other ticks hother
        exact ih hphase₁ hticks₁ hspaced hbounded hleave
    | @leave leaving ticks found =>
      cases k with
      | zero =>
        obtain rfl : leaving = task := by simpa using hleave
        exact ⟨ticks.toNat, hticks _ _ found, by rw [hundredths_eq ticks hrate]; rfl⟩
      | succ k =>
        refine ih hphase ?_ hspaced hbounded hleave
        intro other ticks' hother
        dsimp only at hother
        by_cases hsame : other = leaving
        · rw [hsame, Function.update_self] at hother
          cases hother
        · rw [Function.update_of_ne hsame] at hother
          exact hticks other ticks' hother

/-- Whatever wraps lie between, and however the tasks overlap: every call returns the hundredths of
a second of the true time of its critical section, modulo `2 ^ 32`. -/
theorem sysUpTime_survives_wraps {rate : UInt32} (hrate : 0 < rate) {calls : Calls Task}
    {moves : List (Move Task)} {answers : List (Option UInt32)}
    (hrun : Run (FreeRtosStep rate) .initial moves answers calls ∨
      Run (CmsisRtosStep rate) .initial moves answers calls)
    (hfirst : ∀ time ∈ (times moves).head?, time < 2 ^ 32) (hspaced : Spaced (times moves))
    (hbounded : ∀ time ∈ times moves, time < 2 ^ 64) {k : Nat} {task : Task}
    (hleave : moves[k]? = some (.leave task)) :
    ∃ time result, enteredAt (moves.take k) task = some time ∧ answers[k]? = some (some result) ∧
      result.toNat = 100 * time / rate.toNat % 2 ^ 32 := by
  have hrun' : Run (CallStep extend hundredths rate) .initial moves answers calls :=
    hrun.elim id id
  have hstart : Spaced (0 :: times moves) := by
    cases htimes : times moves with
    | nil => exact List.isChain_singleton 0
    | cons time rest =>
      rw [htimes] at hfirst hspaced
      have htime := hfirst time rfl
      exact List.isChain_cons_cons.2 ⟨⟨Nat.zero_le _, by omega⟩, hspaced⟩
  have hphase : (Calls.initial : Calls Task).phase = phaseAt 0 := rfl
  have hticks : ∀ task ticks, (Calls.initial : Calls Task).ticks task = some ticks →
      (none : Option Nat) = some ticks.toNat := nofun
  obtain ⟨time, hentered, hanswer⟩ := run_returns hrate hrun' hphase hticks hstart hbounded hleave
  exact ⟨time, _, hentered, hanswer, UInt32.toNat_ofNat'⟩

/-- Two tasks, of which the second enters behind a wrap and before the first returns. -/
def overWrap : List (Move Bool) :=
  [.enter false 4294967295, .enter true 4294967396, .leave false, .leave true]

theorem sysUpTime_survives_one_wrap : ∃ answers calls,
    Run (FreeRtosStep 1000) .initial overWrap answers calls ∧
      ∃ time result, enteredAt (overWrap.take 3) true = some time ∧
        answers[3]? = some (some result) ∧ result.toNat = 100 * time / 1000 % 2 ^ 32 := by
  have hrun : Run (FreeRtosStep 1000) .initial overWrap [none, none, _, _] _ :=
    .cons (.enter rfl) (.cons (.enter rfl) (.cons (.leave rfl) (.cons (.leave rfl) (.nil _))))
  refine ⟨_, _, hrun, sysUpTime_survives_wraps (by decide) (.inl hrun) ?_ ?_ ?_ rfl⟩
  · intro time htime
    obtain rfl : 4294967295 = time := Option.some.inj htime
    decide
  · exact List.isChain_cons_cons.2 ⟨by decide, List.isChain_singleton _⟩
  · intro time htime
    rcases List.mem_cons.1 htime with rfl | htime
    · decide
    · rw [List.mem_singleton.1 htime]
      decide

end SolidSyslog.Rtos
