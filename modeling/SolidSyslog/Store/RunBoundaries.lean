import SolidSyslog.Store.BlockSequence

/-!
# Where the run of blocks lies

The two searches of the block sequence over its presence map: the next block present, and the ends
of the run at a restart, which are those of the largest gap. A presence map that is one run of
numbers gives that run back.
-/

namespace SolidSyslog.Store

open Lib

variable {present : Sequence → Bool}

/-! ## The next block present -/

/-- The search ends on the first block present, if it goes far enough to meet one. -/
theorem nextPresent_eq {start x : Sequence} {fuel : Nat} (hx : present x = true)
    (hfuel : ahead start x < fuel) : ∃ y, BlockSequence.nextPresent present start fuel = some y ∧
      present y = true ∧ ahead start y ≤ ahead start x ∧
      ∀ z, ahead start z < ahead start y → present z = false := by
  induction fuel generalizing start with
  | zero => exact absurd hfuel (Nat.not_lt_zero _)
  | succ fuel ih =>
    unfold BlockSequence.nextPresent
    by_cases hstart : present start = true
    · rw [if_pos hstart]
      refine ⟨start, rfl, hstart, by simp, ?_⟩
      intro z hz
      simp at hz
    · rw [if_neg hstart]
      have hne : x ≠ start := by
        rintro rfl
        exact hstart hx
      have hstep := ahead_from_next hne
      have hfuel' : ahead (nextSequence start) x < fuel := by
        rw [nextSequence]
        omega
      obtain ⟨y, hy, hpresent, hle, hbefore⟩ := ih hfuel'
      have hyne : y ≠ start := by
        rintro rfl
        exact hstart hpresent
      have hystep := ahead_from_next hyne
      rw [nextSequence] at hle hbefore
      refine ⟨y, hy, hpresent, by omega, ?_⟩
      intro z hz
      by_cases hzstart : z = start
      · subst hzstart
        simpa using hstart
      · have hzstep := ahead_from_next hzstart
        exact hbefore z (by omega)

/-! ## Gaps -/

/-- The numbers of a gap are absent and it begins after a block present. -/
structure IsGap (present : Sequence → Bool) (gap : Gap) : Prop where
  absent : ∀ z, ahead gap.start z < gap.length → present z = false
  starts : present (gap.start - 1) = true

theorem IsGap.length_lt {gap : Gap} (h : IsGap present gap) : gap.length < modulus := by
  by_contra hlong
  have hlt := ahead_lt gap.start (gap.start - 1)
  have habsent := h.absent (gap.start - 1) (by omega)
  rw [h.starts] at habsent
  cases habsent

/-- What the walk knows at an index: the gap it is in ends there; the largest is the one it is in or
is followed by a block present. -/
structure Walked (present : Sequence → Bool) (index : Sequence) (gaps : Gap × Gap) : Prop where
  outside : gaps.2.length = 0 → present index = true
  inside : 0 < gaps.2.length → IsGap present gaps.2 ∧
    ahead gaps.2.start index + 1 = gaps.2.length
  largest : 0 < gaps.1.length → IsGap present gaps.1 ∧
    (gaps.1 = gaps.2 ∨ ∀ e, ahead gaps.1.start e = gaps.1.length → present e = true)
  le : gaps.2.length ≤ gaps.1.length

/-- The number after the gap the walk is in is the next one. -/
theorem Walked.ahead_next {index : Sequence} {gaps : Gap × Gap} (h : Walked present index gaps)
    (hin : 0 < gaps.2.length) : ahead gaps.2.start (nextSequence index) = gaps.2.length := by
  obtain ⟨hgap, hend⟩ := h.inside hin
  have hindex : present index = false := hgap.absent index (by omega)
  have hne : nextSequence index ≠ gaps.2.start := by
    intro heq
    have hstarts := hgap.starts
    rw [← heq, nextSequence, add_sub_cancel_right, hindex] at hstarts
    cases hstarts
  rw [nextSequence] at hne ⊢
  rw [Lib.ahead_next hne, hend]

theorem Walked.step_of_present {index : Sequence} {gaps : Gap × Gap}
    (h : Walked present index gaps) (hpresent : present (nextSequence index) = true) :
    Walked present (nextSequence index) (gaps.1, { gaps.2 with length := 0 }) := by
  refine ⟨fun _ => hpresent, fun h0 => absurd h0 (lt_irrefl 0), fun hlong => ?_, Nat.zero_le _⟩
  obtain ⟨hgap, hopen⟩ := h.largest hlong
  refine ⟨hgap, .inr ?_⟩
  rcases hopen with heq | hclosed
  · have hlong' : 0 < gaps.2.length := heq ▸ hlong
    intro e he
    dsimp only at he
    rw [heq] at he
    have hnext : e = nextSequence index := ahead_inj.1 (he.trans (h.ahead_next hlong').symm)
    rwa [hnext]
  · exact hclosed

/-- An absent number begins a gap or makes it longer. -/
theorem Walked.grow {index : Sequence} {gaps : Gap × Gap} (h : Walked present index gaps)
    (habsent : present (nextSequence index) = false) :
    IsGap present (gaps.2.grow (nextSequence index)) ∧
      ahead (gaps.2.grow (nextSequence index)).start (nextSequence index) = gaps.2.length := by
  unfold Gap.grow
  by_cases hnew : gaps.2.length = 0
  · rw [if_pos hnew, hnew]
    refine ⟨⟨?_, ?_⟩, by simp⟩
    · intro z hz
      dsimp only at hz
      obtain rfl : z = nextSequence index := ahead_eq_zero.1 (by omega)
      exact habsent
    · rw [nextSequence, add_sub_cancel_right]
      exact h.outside hnew
  · rw [if_neg hnew]
    have hin : 0 < gaps.2.length := by omega
    have hend := h.ahead_next hin
    obtain ⟨hgap, -⟩ := h.inside hin
    refine ⟨⟨?_, hgap.starts⟩, hend⟩
    intro z hz
    dsimp only at hz
    by_cases hz' : ahead gaps.2.start z < gaps.2.length
    · exact hgap.absent z hz'
    · obtain rfl : z = nextSequence index := (ahead_inj (o := gaps.2.start)).1 (by omega)
      exact habsent

theorem Walked.step_of_absent {index : Sequence} {gaps : Gap × Gap}
    (h : Walked present index gaps) (habsent : present (nextSequence index) = false) :
    Walked present (nextSequence index)
      (if gaps.1.length < (gaps.2.grow (nextSequence index)).length
        then gaps.2.grow (nextSequence index) else gaps.1, gaps.2.grow (nextSequence index)) := by
  obtain ⟨hgap, hend⟩ := h.grow habsent
  have hlength : (gaps.2.grow (nextSequence index)).length = gaps.2.length + 1 := rfl
  refine ⟨fun hzero => ?_, fun _ => ⟨hgap, congrArg (· + 1) hend⟩, fun hlong => ?_, ?_⟩
  · dsimp only at hzero
    omega
  · dsimp only at hlong ⊢
    by_cases hlonger : gaps.1.length < (gaps.2.grow (nextSequence index)).length
    · rw [if_pos hlonger]
      exact ⟨hgap, .inl rfl⟩
    · rw [if_neg hlonger] at hlong ⊢
      obtain ⟨hlargest, hopen⟩ := h.largest hlong
      refine ⟨hlargest, .inr ?_⟩
      rcases hopen with heq | hclosed
      · rw [heq] at hlonger
        omega
      · exact hclosed
  · dsimp only
    split
    · exact le_rfl
    · omega

theorem Walked.step {index : Sequence} {gaps : Gap × Gap} (h : Walked present index gaps) :
    Walked present (nextSequence index) (widen present gaps (nextSequence index)) := by
  unfold widen
  split
  · next hpresent => exact h.step_of_present hpresent
  · next habsent => exact h.step_of_absent (by simpa using habsent)

theorem walked_walk {steps : Nat} {index : Sequence} {gaps : Gap × Gap}
    (h : Walked present index gaps) :
    Walked present (nextSequence^[steps] index) (walk present steps index gaps) := by
  induction steps generalizing index gaps with
  | zero => exact h
  | succ steps ih => exact ih h.step

theorem le_length_widen (gaps : Gap × Gap) (index : Sequence) :
    gaps.1.length ≤ (widen present gaps index).1.length := by
  unfold widen
  split
  · exact le_rfl
  · dsimp only
    split
    · next hlonger => exact hlonger.le
    · exact le_rfl

theorem length_widen_pos {gaps : Gap × Gap} {index : Sequence} (h : present index = false) :
    0 < (widen present gaps index).1.length := by
  have hgrow : (gaps.2.grow index).length = gaps.2.length + 1 := rfl
  unfold widen
  rw [if_neg (by simp [h])]
  dsimp only
  split <;> omega

/-- The walk meets every absent number. -/
theorem length_walk_pos {steps : Nat} {index : Sequence} {gaps : Gap × Gap} {x : Sequence}
    (hx : present x = false) (hmet : 0 < gaps.1.length ∨ ahead (nextSequence index) x < steps) :
    0 < (walk present steps index gaps).1.length := by
  induction steps generalizing index gaps with
  | zero =>
    rcases hmet with hmet | hmet
    · exact hmet
    · omega
  | succ steps ih =>
    unfold walk
    apply ih
    rcases hmet with hmet | hmet
    · exact .inl (lt_of_lt_of_le hmet (le_length_widen _ _))
    · by_cases hhere : x = nextSequence index
      · subst hhere
        exact .inl (length_widen_pos hx)
      · have hstep : ahead (nextSequence (nextSequence index)) x + 1 =
            ahead (nextSequence index) x := ahead_from_next hhere
        exact .inr (by omega)

/-! ## The run -/

/-- The numbers from `o` to `w`. -/
def InRun (o w x : Sequence) : Prop :=
  ahead o x ≤ ahead o w

instance (o w x : Sequence) : Decidable (InRun o w x) :=
  inferInstanceAs (Decidable (_ ≤ _))

/-- The run from a later block on. -/
theorem InRun.from_later {o w n x : Sequence} (hx : InRun o w x) (hn : InRun o w n)
    (hle : ahead o n ≤ ahead o x) : InRun n w x := by
  have hxadd := ahead_add o n x
  have hwadd := ahead_add o n w
  have hlt := ahead_lt n x
  have hlt' := ahead_lt n w
  have hbound := ahead_lt o x
  have hbound' := ahead_lt o w
  unfold InRun at *
  omega

theorem InRun.of_later {o w n x : Sequence} (hx : InRun n w x) (hn : InRun o w n) :
    InRun o w x ∧ ahead o n ≤ ahead o x := by
  have hxadd := ahead_add o n x
  have hwadd := ahead_add o n w
  have hlt := ahead_lt n x
  have hlt' := ahead_lt n w
  have hbound := ahead_lt o x
  have hbound' := ahead_lt o w
  unfold InRun at *
  omega

/-- The largest gap, where a block is present and a number is absent. -/
theorem largestGap_spec {lastPresent absent : Sequence} (hlast : present lastPresent = true)
    (habsent : present absent = false) :
    let gap := largestGap present lastPresent
    0 < gap.length ∧ IsGap present gap ∧
      ∀ e, ahead gap.start e = gap.length → present e = true := by
  have hwalked : Walked present (nextSequence^[modulus] lastPresent)
      (walk present modulus lastPresent (⟨0, 0⟩, ⟨0, 0⟩)) :=
    walked_walk ⟨fun _ => hlast, nofun, nofun, le_rfl⟩
  have hround : nextSequence^[modulus] lastPresent = lastPresent := iterate_next lastPresent
  rw [hround] at hwalked
  have hlong : 0 < (largestGap present lastPresent).length :=
    length_walk_pos habsent (.inr (ahead_lt _ _))
  obtain ⟨hgap, hopen⟩ := hwalked.largest hlong
  refine ⟨hlong, hgap, ?_⟩
  rcases hopen with heq | hclosed
  · -- the walk ends on a block present, so it is in no gap
    have hin : 0 < (walk present modulus lastPresent (⟨0, 0⟩, ⟨0, 0⟩)).2.length := by
      rw [← heq]
      exact hlong
    obtain ⟨hcurrent, hend⟩ := hwalked.inside hin
    have hlast' := hcurrent.absent lastPresent (by omega)
    rw [hlast] at hlast'
    cases hlast'
  · exact hclosed

/-- What the restart finds where a block is present and a number is absent: both ends of the run are
present, and the numbers outside it, of which there is one, are absent. -/
theorem locateRunBoundaries_spec {lastPresent absent : Sequence}
    (hlast : present lastPresent = true)
    (habsent : present absent = false) :
    let run := locateRunBoundaries present lastPresent
    present run.1 = true ∧ present run.2 = true ∧ nextSequence run.2 ≠ run.1 ∧
      ∀ x, ¬ InRun run.1 run.2 x → present x = false := by
  obtain ⟨hlong, hgap, hclosed⟩ := largestGap_spec hlast habsent
  have hlt := hgap.length_lt
  have hrun : locateRunBoundaries present lastPresent =
      ((largestGap present lastPresent).start +
        Fin.ofNat modulus (largestGap present lastPresent).length,
        (largestGap present lastPresent).start - 1) := by
    unfold locateRunBoundaries
    rw [if_pos hlong]
  rw [hrun]
  generalize largestGap present lastPresent = gap at *
  dsimp only
  have holdest : ahead gap.start (gap.start + Fin.ofNat modulus gap.length) = gap.length := by
    rw [ahead, add_sub_cancel_left]
    exact Nat.mod_eq_of_lt hlt
  have hwrite : ahead gap.start (gap.start - 1) + 1 = modulus := by
    have hround := ahead_next_start (gap.start - 1)
    rwa [sub_add_cancel] at hround
  refine ⟨hclosed _ holdest, hgap.starts, ?_, ?_⟩
  · rw [nextSequence, sub_add_cancel]
    intro heq
    rw [← heq, ahead_self] at holdest
    omega
  · intro x hx
    apply hgap.absent
    have hbound := ahead_lt (gap.start + Fin.ofNat modulus gap.length) x
    have hbound' := ahead_lt (gap.start + Fin.ofNat modulus gap.length) (gap.start - 1)
    have hxadd := ahead_add gap.start (gap.start + Fin.ofNat modulus gap.length) x
    have hwadd := ahead_add gap.start (gap.start + Fin.ofNat modulus gap.length) (gap.start - 1)
    have hbound'' := ahead_lt gap.start x
    unfold InRun at hx
    omega

/-- A presence map that is one run gives it back. -/
theorem locateRunBoundaries_of_run {lastPresent o w : Sequence}
    (hlast : present lastPresent = true) (hrun : ∀ x, present x = true ↔ InRun o w x)
    (hroom : nextSequence w ≠ o) : locateRunBoundaries present lastPresent = (o, w) := by
  have habsent : present (nextSequence w) = false := by
    by_contra hpresent
    have hin := (hrun (nextSequence w)).1 (by simpa using hpresent)
    unfold InRun at hin
    rw [nextSequence] at hroom hin
    rw [ahead_next hroom] at hin
    omega
  obtain ⟨holdest, hwrite, hdistinct, houtside⟩ := locateRunBoundaries_spec hlast habsent
  generalize locateRunBoundaries present lastPresent = run at *
  obtain ⟨o', w'⟩ := run
  dsimp only at holdest hwrite hdistinct houtside
  rw [nextSequence] at hdistinct
  have hinO : ahead o o' ≤ ahead o w := (hrun o').1 holdest
  have hinW : ahead o w' ≤ ahead o w := (hrun w').1 hwrite
  have hoo : o' = o := by
    by_contra hne
    have hprev : present (o' - 1) = false := by
      apply houtside
      have hround := ahead_next_start (o' - 1)
      have hlt := ahead_lt o' (w' + 1)
      rw [ahead_next hdistinct] at hlt
      rw [sub_add_cancel] at hround
      unfold InRun
      omega
    have hstep : ahead o (o' - 1 + 1) = ahead o (o' - 1) + 1 := by
      apply ahead_next
      rwa [sub_add_cancel]
    rw [sub_add_cancel] at hstep
    have hin : present (o' - 1) = true := (hrun _).2 (by unfold InRun; omega)
    rw [hprev] at hin
    cases hin
  subst hoo
  have hww : w' = w := by
    by_contra hne
    have hnext : present (w' + 1) = false := by
      apply houtside
      unfold InRun
      rw [ahead_next hdistinct]
      omega
    have hless : ahead o' w' ≠ ahead o' w := fun heq => hne (ahead_inj.1 heq)
    have hin : present (w' + 1) = true := by
      apply (hrun _).2
      unfold InRun
      rw [ahead_next hdistinct]
      omega
    rw [hnext] at hin
    cases hin
  rw [hww]

theorem walk_of_full {steps : Nat} {index : Sequence} {gaps : Gap × Gap}
    (hfull : ∀ x, present x = true) : (walk present steps index gaps).1 = gaps.1 := by
  induction steps generalizing index gaps with
  | zero => rfl
  | succ steps ih =>
    rw [walk, ih, widen, if_pos (hfull _)]

/-- A presence map without a gap gives the defaults. -/
theorem locateRunBoundaries_of_full {lastPresent : Sequence} (hfull : ∀ x, present x = true) :
    locateRunBoundaries present lastPresent = (0, 99) := by
  unfold locateRunBoundaries largestGap
  rw [walk_of_full hfull]
  rfl

end SolidSyslog.Store
