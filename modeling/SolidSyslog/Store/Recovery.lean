import SolidSyslog.Store.Sequence.Operations

/-!
# The run found again

A presence map that lies in an interval of the circle, with no hole as long as the gap outside it,
gives that interval back: the largest gap of the walk is the one outside. From there the read goes
over the blocks present one after the other, whatever the calls that read and whatever the device
answers to them.
-/

namespace SolidSyslog.Store

open Lib

variable {present : Sequence → Bool} {o w : Sequence}

variable {σ : Type} {P : Platform σ} {C : Config} {presence : σ → Sequence → Bool}

/-! ## Gaps that are whole -/

/-- A gap with a block present after it. -/
structure IsWholeGap (present : Sequence → Bool) (gap : Gap) : Prop extends IsGap present gap where
  long : 0 < gap.length
  ends : ∀ e, ahead gap.start e = gap.length → present e = true

/-- The numbers outside the interval from `o` to `w`. -/
def outerGap (o w : Sequence) : Gap :=
  ⟨nextSequence w, ahead (nextSequence w) o⟩

/-- The blocks present lie in the interval from `o` to `w`, both its ends among them, and every hole
in it is shorter than the gap outside it. -/
structure IsRecoverable (present : Sequence → Bool) (o w : Sequence) : Prop where
  oldest : present o = true
  write : present w = true
  inside : ∀ x, present x = true → InRun o w x
  room : nextSequence w ≠ o
  shorter : ∀ gap, IsWholeGap present gap → (∀ z, ahead gap.start z < gap.length → InRun o w z) →
    gap.length < (outerGap o w).length

/-- A gap begins at every start of a gap it contains. -/
theorem IsGap.start_le {g h : Gap} {z : Sequence} (hg : IsGap present g) (hh : IsGap present h)
    (hz : ahead g.start z < g.length) (hle : ahead g.start h.start ≤ ahead g.start z) :
    h.start = g.start := by
  by_contra hne
  have hback := ahead_from_next (o := h.start - 1) (x := g.start)
  rw [sub_add_cancel] at hback
  have habsent : ahead g.start (h.start - 1) < g.length := by
    have hstep : ahead g.start (h.start - 1 + 1) = ahead g.start (h.start - 1) + 1 := by
      apply ahead_next
      rwa [sub_add_cancel]
    rw [sub_add_cancel] at hstep
    omega
  have hstarts := hh.starts
  rw [hg.absent _ habsent] at hstarts
  cases hstarts

/-- Two gaps with a number in common begin together. -/
theorem IsGap.start_eq {g h : Gap} {z : Sequence} (hg : IsGap present g) (hh : IsGap present h)
    (hzg : ahead g.start z < g.length) (hzh : ahead h.start z < h.length) : g.start = h.start := by
  have hthere := ahead_add g.start h.start z
  have hback := ahead_add h.start g.start z
  have hlt := ahead_lt g.start z
  have hlt' := ahead_lt h.start z
  have hbound := ahead_lt g.start h.start
  have hbound' := ahead_lt h.start g.start
  by_cases hle : ahead g.start h.start ≤ ahead g.start z
  · exact (hg.start_le hh hzg hle).symm
  · exact hh.start_le hg hzh (by omega)

/-! ## The largest gap -/

theorem walk_add (first second : Nat) (index : Sequence) (gaps : Gap × Gap) :
    walk present (first + second) index gaps =
      walk present second (nextSequence^[first] index) (walk present first index gaps) := by
  induction first generalizing index gaps with
  | zero => rw [Nat.zero_add]; rfl
  | succ first ih =>
    rw [Nat.succ_add, walk, ih]
    rfl

theorem le_length_walk (steps : Nat) (index : Sequence) (gaps : Gap × Gap) :
    gaps.1.length ≤ (walk present steps index gaps).1.length := by
  induction steps generalizing index gaps with
  | zero => exact le_refl _
  | succ steps ih => exact (le_length_widen gaps (nextSequence index)).trans (ih _ _)

theorem iterate_nextSequence (k : Nat) (x : Sequence) (hk : k < modulus) :
    ahead x (nextSequence^[k] x) = k :=
  ahead_iterate x hk

/-- No whole gap is longer than the largest: the walk is in it when it passes its last number. -/
theorem IsWholeGap.length_le {gap : Gap} {lastPresent : Sequence} (h : IsWholeGap present gap)
    (hlast : present lastPresent = true) :
    gap.length ≤ (largestGap present lastPresent).length := by
  have hlong := h.long
  have hlt := h.length_lt
  -- the last number of the gap, and the steps of the walk up to it
  obtain ⟨e, he⟩ : ∃ e, ahead gap.start e + 1 = gap.length := by
    refine ⟨nextSequence^[gap.length - 1] gap.start, ?_⟩
    rw [iterate_nextSequence _ _ (by omega)]
    omega
  have hmet : nextSequence^[ahead lastPresent e] lastPresent = e := by
    apply (ahead_inj (o := lastPresent)).1
    exact iterate_nextSequence _ _ (ahead_lt _ _)
  have hsteps := ahead_lt lastPresent e
  obtain ⟨rest, hrest⟩ := Nat.exists_eq_add_of_le hsteps.le
  have hwalked : Walked present (nextSequence^[ahead lastPresent e] lastPresent)
      (walk present (ahead lastPresent e) lastPresent (⟨0, 0⟩, ⟨0, 0⟩)) :=
    walked_walk ⟨fun _ => hlast, nofun, nofun, le_rfl⟩
  have hmono := @le_length_walk present rest
    (nextSequence^[ahead lastPresent e] lastPresent)
    (walk present (ahead lastPresent e) lastPresent (⟨0, 0⟩, ⟨0, 0⟩))
  rw [← walk_add, ← hrest] at hmono
  change _ ≤ (largestGap present lastPresent).length at hmono
  rw [hmet] at hwalked
  generalize walk present (ahead lastPresent e) lastPresent (⟨0, 0⟩, ⟨0, 0⟩) = gaps at *
  have hinside : 0 < gaps.2.length := by
    by_contra hout
    have hpresent := hwalked.outside (by omega)
    rw [h.absent e (by omega)] at hpresent
    cases hpresent
  obtain ⟨hcurrent, hend⟩ := hwalked.inside hinside
  have hstart := hcurrent.start_eq h.toIsGap (z := e) (by omega) (by omega)
  rw [hstart] at hend
  have hle := hwalked.le
  omega

theorem length_outerGap (o w : Sequence) : (outerGap o w).length + ahead o w + 1 = modulus := by
  have hround := ahead_next_start w
  have hback := ahead_add (w + 1) o w
  have hlt := ahead_lt (w + 1) o
  have hlt' := ahead_lt o w
  change ahead (w + 1) o + ahead o w + 1 = modulus
  have hmodulus : modulus = 100 := rfl
  omega

theorem not_inRun_of_outer {z : Sequence}
    (hz : ahead (outerGap o w).start z < (outerGap o w).length) : ¬ InRun o w z := by
  intro hin
  have hlength := length_outerGap o w
  have hadd := ahead_add (w + 1) o z
  have hlt := ahead_lt (w + 1) z
  change ahead (w + 1) z < ahead (w + 1) o at hz
  change ahead (w + 1) o + ahead o w + 1 = modulus at hlength
  unfold InRun at hin
  omega

theorem outer_of_not_inRun {z : Sequence} (hz : ¬ InRun o w z) :
    ahead (outerGap o w).start z < (outerGap o w).length := by
  have hlength := length_outerGap o w
  have hadd := ahead_add (w + 1) o z
  have hlt := ahead_lt o z
  have hlt' := ahead_lt (w + 1) z
  change ahead (w + 1) z < ahead (w + 1) o
  change ahead (w + 1) o + ahead o w + 1 = modulus at hlength
  unfold InRun at hz
  omega

namespace IsRecoverable

theorem whole_outerGap (h : IsRecoverable present o w) : IsWholeGap present (outerGap o w) where
  absent z hz := by
    by_contra hpresent
    exact not_inRun_of_outer hz (h.inside z (by simpa using hpresent))
  starts := by
    change present (w + 1 - 1) = true
    rw [add_sub_cancel_right]
    exact h.write
  long := by
    apply Nat.pos_of_ne_zero
    intro hzero
    have hback : ahead (nextSequence w) o = 0 := hzero
    exact h.room (ahead_eq_zero.1 hback).symm
  ends e he := by
    obtain rfl : e = o := ahead_inj.1 he
    exact h.oldest

/-- The largest gap is the one outside. -/
theorem largestGap_eq (h : IsRecoverable present o w) {lastPresent : Sequence}
    (hlast : present lastPresent = true) : largestGap present lastPresent = outerGap o w := by
  have houter := h.whole_outerGap
  obtain ⟨hlong, hgap, hclosed⟩ :=
    largestGap_spec hlast (houter.absent (outerGap o w).start (by simpa using houter.long))
  have hle := houter.length_le hlast
  generalize largestGap present lastPresent = gap at *
  have hwhole : IsWholeGap present gap := ⟨hgap, hlong, hclosed⟩
  -- a number of the largest gap is outside, or the gap would be a hole
  obtain ⟨z, hz, hout⟩ : ∃ z, ahead gap.start z < gap.length ∧ ¬ InRun o w z := by
    by_contra hnone
    have hshorter := h.shorter gap hwhole (by simpa using hnone)
    omega
  have hstart := hgap.start_eq houter.toIsGap hz (outer_of_not_inRun hout)
  -- the gap outside ends on `o`, which is present
  have hlength : gap.length ≤ (outerGap o w).length := by
    by_contra hlonger
    have habsent := hgap.absent o (by
      rw [hstart]
      change ahead (nextSequence w) o < gap.length
      exact Nat.lt_of_not_le hlonger)
    rw [h.oldest] at habsent
    cases habsent
  obtain ⟨start, length⟩ := gap
  dsimp only at hstart hlength hle
  rw [hstart, Nat.le_antisymm hlength hle]

/-- The ends of the run are found, whichever block present the walk begins at. -/
theorem locateRunBoundaries_eq (h : IsRecoverable present o w) {lastPresent : Sequence}
    (hlast : present lastPresent = true) : locateRunBoundaries present lastPresent = (o, w) := by
  have houter := h.whole_outerGap
  unfold locateRunBoundaries
  rw [h.largestGap_eq hlast]
  dsimp only
  rw [if_pos houter.long]
  have hend : (outerGap o w).start + Fin.ofNat modulus (outerGap o w).length = o := by
    apply (ahead_inj (o := (outerGap o w).start)).1
    rw [ahead, add_sub_cancel_left]
    exact Nat.mod_eq_of_lt houter.length_lt
  rw [hend]
  change (o, w + 1 - 1) = (o, w)
  rw [add_sub_cancel_right]

end IsRecoverable

/-! ## Opening -/

/-- The device says which blocks it has, and has them still when it has been asked. -/
structure TellsPresence (P : Platform σ) (presence : σ → Sequence → Bool) : Prop where
  blockExists : ∀ block env, (P.answer (.blockExists block) env).1 = presence env block
  undisturbed : ∀ block env, presence (P.answer (.blockExists block) env).2 = presence env

/-- The read is at `r` in a run that ends at `w`, and the blocks from there on are those present. -/
structure BlockSequence.ReadsAt (present : Sequence → Bool) (w r : Sequence) (s : BlockSequence) :
    Prop where
  readSequence : s.readSequence = r
  oldestSequence : s.oldestSequence = r
  writeSequence : s.writeSequence = w
  blockPresent : ∀ x, InRun r w x → s.blockPresent x = present x

namespace BlockSequence

variable {s : SequenceState σ} {r : Sequence}

theorem ReadsAt.noteDeviceFailure {b : BlockSequence} (h : b.ReadsAt present w r)
    (error : BlockStoreError) : (b.noteDeviceFailure error).ReadsAt present w r := by
  unfold BlockSequence.noteDeviceFailure
  split
  · exact h
  · exact ⟨h.readSequence, h.oldestSequence, h.writeSequence, h.blockPresent⟩

theorem scanForBlockPresence_tells (hP : TellsPresence P presence) {lastPresent : Option Sequence}
    {numbers : List Sequence}
    (hlast : ∀ x, lastPresent = some x → presence s.world.env x = true) :
    Ensures (scanForBlockPresence P lastPresent numbers) (fun last s' =>
      (∀ x ∈ numbers, s'.seq.blockPresent x = presence s.world.env x) ∧
      (∀ x, s.seq.blockPresent x = presence s.world.env x →
        s'.seq.blockPresent x = presence s.world.env x) ∧
      (∀ x, last = some x → presence s.world.env x = true) ∧
      (last = none → lastPresent = none ∧ ∀ x ∈ numbers, presence s.world.env x = false)) s := by
  induction numbers generalizing lastPresent s with
  | nil => exact ⟨nofun, fun _ h => h, hlast, fun h => ⟨h, nofun⟩⟩
  | cons block rest ih =>
    unfold scanForBlockPresence
    apply ensures_ask
    rw [hP.blockExists, ensures_bind, ensures_setSeq]
    let asked : SequenceState σ :=
      ⟨{ s.seq with
          blockPresent := Function.update s.seq.blockPresent block (presence s.world.env block) },
        s.world.asked P (.blockExists block)⟩
    have hsame : presence asked.world.env = presence s.world.env := hP.undisturbed _ _
    have hlast' : ∀ x, (if presence s.world.env block then some block else lastPresent) = some x →
        presence asked.world.env x = true := by
      intro x hx
      rw [hsame]
      split at hx
      · next hblock =>
        cases hx
        exact hblock
      · exact hlast x hx
    have hrest := @ih asked _ hlast'
    rw [hsame] at hrest
    refine hrest.mono ?_
    rintro last s' ⟨hmapped, hkept, hsome, hnone⟩
    refine ⟨?_, ?_, hsome, ?_⟩
    · intro x hx
      rcases List.mem_cons.1 hx with rfl | hx
      · exact hkept x (Function.update_self ..)
      · exact hmapped x hx
    · intro x hx
      apply hkept
      by_cases hblock : x = block
      · rw [hblock]
        exact Function.update_self ..
      · exact (Function.update_of_ne hblock ..).trans hx
    · intro hlast
      obtain ⟨hblock, habsent⟩ := hnone hlast
      by_cases hpresent : presence s.world.env block = true
      · rw [if_pos hpresent] at hblock
        cases hblock
      · rw [if_neg hpresent] at hblock
        refine ⟨hblock, ?_⟩
        intro x hx
        rcases List.mem_cons.1 hx with rfl | hx
        · simpa using hpresent
        · exact habsent x hx

/-- The notice of a crossed threshold is of no matter to the read. -/
theorem notifyThresholdCrossed_readsAt (h : s.seq.ReadsAt present w r) :
    Ensures (notifyThresholdCrossed P C) (fun _ s' => s'.seq.ReadsAt present w r) s := by
  refine notifyThresholdCrossed_keeps (I := fun s' => s'.seq.ReadsAt present w r) h ?_ ?_
  · exact fun _ _ h => ⟨h.readSequence, h.oldestSequence, h.writeSequence, h.blockPresent⟩
  · exact fun _ _ _ h => h

theorem scanForExistingBlocks_recovers (hP : TellsPresence P presence)
    (h : IsRecoverable (presence s.world.env) o w) :
    Ensures (scanForExistingBlocks P)
      (fun found s' => found = true ∧ s'.seq.ReadsAt (presence s.world.env) w o) s := by
  unfold scanForExistingBlocks
  have hscan : Ensures (scanForBlockPresence P none (List.finRange modulus)) _ s :=
    scanForBlockPresence_tells hP nofun
  apply hscan.bind
  rintro last s₁ ⟨hmapped, -, hsome, hnone⟩
  have hpresent : s₁.seq.blockPresent = presence s.world.env :=
    funext fun x => hmapped x (List.mem_finRange x)
  cases last with
  | none =>
    have habsent := (hnone rfl).2 o (List.mem_finRange o)
    rw [h.oldest] at habsent
    cases habsent
  | some lastPresent =>
    dsimp only
    simp only [ensures_bind, ensures_seq, ensures_setSeq, ensures_pure]
    rw [hpresent, h.locateRunBoundaries_eq (hsome lastPresent rfl)]
    exact ⟨trivial, rfl, rfl, rfl, fun _ _ => rfl⟩

/-- `SolidSyslogBlockSequence_Open` finds the run again. -/
theorem openBlocks_recovers (hP : TellsPresence P presence)
    (h : IsRecoverable (presence s.world.env) o w) :
    Ensures (openBlocks P C) (fun _ s' => s'.seq.ReadsAt (presence s.world.env) w o) s := by
  unfold openBlocks
  apply (scanForExistingBlocks_recovers hP h).bind
  rintro _ s₁ ⟨rfl, hreads⟩
  rw [if_pos rfl, ensures_bind, ensures_noteRun, ensures_bind, ensures_seq]
  apply ensures_ask
  split
  · next writePosition hsize =>
    rw [ensures_bind, ensures_setSeq]
    apply Ensures.bind (notifyThresholdCrossed_readsAt ?_)
    · intro _ s' hs'
      exact hs'
    · exact ⟨hreads.readSequence, hreads.oldestSequence, hreads.writeSequence, hreads.blockPresent⟩
  · rw [ensures_bind, ensures_setSeq, ensures_pure]
    exact hreads.noteDeviceFailure _

/-! ## Reading -/

/-- A call of the sequence that reading makes. -/
inductive ReadCall where
  | setReadCursor (cursor : Nat)
  | readBlockSize
  | markWriteBlockCorrupt
  | leaveReadBlock
  | disposeReadBlockIfDrained

/-- One call. The caller leaves a block only where the read is behind the write. -/
def read (P : Platform σ) (C : Config) : ReadCall → Action σ Unit
  | .setReadCursor cursor => setSeq fun s => s.setReadCursor cursor
  | .readBlockSize => do let _ ← readBlockSizeOf P
  | .markWriteBlockCorrupt => setSeq fun s => s.markWriteBlockCorrupt
  | .leaveReadBlock => do
    if (← seq).readIsBehindWrite then
      let _ ← disposeReadBlock P C
  | .disposeReadBlockIfDrained => do let _ ← disposeReadBlockIfDrained P C

/-- The blocks that calls take the read to, one after the other. -/
def visited (P : Platform σ) (C : Config) : List ReadCall → Action σ (List Sequence)
  | [] => return []
  | call :: calls => do
    let before ← seq
    read P C call
    let after ← seq
    let rest ← visited P C calls
    return if after.readSequence = before.readSequence then rest else after.readSequence :: rest

/-- `n` is the first block present after `r`. -/
structure Follows (present : Sequence → Bool) (w r n : Sequence) : Prop where
  there : present n = true
  ne : n ≠ r
  within : InRun r w n
  first : ∀ x, x ≠ r → ahead r x < ahead r n → present x = false

/-- The read stays where it is or goes on to the block that follows. -/
def ReadsOn (present : Sequence → Bool) (w r : Sequence) (s : BlockSequence) : Prop :=
  s.ReadsAt present w r ∨ ∃ n, Follows present w r n ∧ s.ReadsAt present w n

theorem advancePastDisposedReadBlock_follows (hwrite : present w = true) (hne : r ≠ w)
    (holdest : s.seq.oldestSequence = r) (hw : s.seq.writeSequence = w)
    (hpresent : ∀ x, x ≠ r → InRun r w x → s.seq.blockPresent x = present x)
    (hgone : s.seq.blockPresent r = false) :
    Ensures (advancePastDisposedReadBlock P C)
      (fun _ s' => ∃ n, Follows present w r n ∧ s'.seq.ReadsAt present w n) s := by
  unfold advancePastDisposedReadBlock nextPresentSequence
  simp only [ensures_bind, ensures_seq]
  rw [holdest]
  have hreaches : s.seq.blockPresent w = true := by
    rw [hpresent w (Ne.symm hne) (le_refl _), hwrite]
  obtain ⟨n, hn, hthere, hle, hbefore⟩ := nextPresent_eq hreaches (ahead_lt (nextSequence r) w)
  rw [hn]
  have hnr : n ≠ r := by
    rintro rfl
    rw [hgone] at hthere
    cases hthere
  have hstep := ahead_from_next hnr
  have hstepw := ahead_from_next (Ne.symm hne)
  rw [nextSequence] at hle hbefore
  have hwithin : InRun r w n := by
    unfold InRun
    omega
  have hfollows : Follows present w r n := by
    refine ⟨?_, hnr, hwithin, ?_⟩
    · rw [← hpresent n hnr hwithin, hthere]
    · intro x hxr hx
      have hstepx := ahead_from_next hxr
      rw [← hpresent x hxr (by unfold InRun at *; omega)]
      exact hbefore x (by omega)
  simp only [ensures_setSeq, ensures_pure, ensures_noteRun]
  refine Ensures.mono (notifyThresholdCrossed_readsAt ?_) fun _ s' hs' => ⟨n, hfollows, hs'⟩
  refine ⟨rfl, rfl, hw, ?_⟩
  intro x hx
  obtain ⟨hxin, hxle⟩ := hx.of_later hwithin
  apply hpresent x ?_ hxin
  rintro rfl
  rw [ahead_self, Nat.le_zero, ahead_eq_zero] at hxle
  exact hnr hxle

theorem disposeReadBlock_readsOn (hwrite : present w = true) (h : s.seq.ReadsAt present w r)
    (hbehind : r ≠ w) :
    Ensures (disposeReadBlock P C) (fun disposed s' =>
      (disposed = true → ∃ n, Follows present w r n ∧ s'.seq.ReadsAt present w n) ∧
      (disposed = false → s'.seq.ReadsAt present w r) ∧
      ((∀ block env, (P.answer (.dispose block) env).1 = true) → disposed = true)) s := by
  unfold disposeReadBlock
  simp only [ensures_bind, ensures_seq]
  rw [h.readSequence]
  apply ensures_disposeBlock
  · intro _
    rw [if_pos rfl, ensures_bind]
    let gone : SequenceState σ :=
      ⟨{ s.seq with blockPresent := Function.update s.seq.blockPresent r false },
        s.world.asked P (.dispose r)⟩
    have hfollows : Ensures (advancePastDisposedReadBlock P C)
        (fun _ s' => ∃ n, Follows present w r n ∧ s'.seq.ReadsAt present w n) gone := by
      refine advancePastDisposedReadBlock_follows hwrite hbehind h.oldestSequence h.writeSequence
        ?_ (Function.update_self ..)
      intro x hx hin
      exact (Function.update_of_ne hx ..).trans (h.blockPresent x hin)
    exact hfollows.mono fun _ s' hs' => ⟨fun _ => hs', nofun, fun _ => rfl⟩
  · intro hfailed
    rw [if_neg Bool.false_ne_true, ensures_bind, ensures_setSeq, ensures_pure]
    refine ⟨nofun, fun _ => h.noteDeviceFailure _, ?_⟩
    intro halways
    rw [halways] at hfailed
    cases hfailed

theorem readBlockSizeOf_readsAt (h : s.seq.ReadsAt present w r) :
    Ensures (readBlockSizeOf P) (fun _ s' => s'.seq.ReadsAt present w r) s := by
  unfold readBlockSizeOf
  rw [ensures_bind, ensures_seq]
  apply Ensures.ite
  · intro _
    exact h
  · intro _
    apply Ensures.ite
    · intro _
      exact h
    · intro _
      apply ensures_ask
      split
      · exact ⟨h.readSequence, h.oldestSequence, h.writeSequence, h.blockPresent⟩
      · rw [ensures_bind, ensures_setSeq, ensures_bind, ensures_setSeq, ensures_pure]
        have hforgot : ReadsAt present w r { s.seq with readBlockSizeKnown := false } :=
          ⟨h.readSequence, h.oldestSequence, h.writeSequence, h.blockPresent⟩
        exact hforgot.noteDeviceFailure _

/-- What one call does to the read. -/
theorem read_readsOn (hwrite : present w = true) (h : s.seq.ReadsAt present w r) (call : ReadCall) :
    Ensures (read P C call) (fun _ s' => s'.seq.ReadsOn present w r) s := by
  have hdispose {t : SequenceState σ} (ht : t.seq.ReadsAt present w r) (hbehind : r ≠ w) :
      Ensures (disposeReadBlock P C) (fun _ s' => s'.seq.ReadsOn present w r) t := by
    refine (disposeReadBlock_readsOn hwrite ht hbehind).mono ?_
    rintro disposed s' ⟨htrue, hfalse, -⟩
    cases disposed with
    | true => exact .inr (htrue rfl)
    | false => exact .inl (hfalse rfl)
  cases call with
  | setReadCursor cursor =>
    exact .inl ⟨h.readSequence, h.oldestSequence, h.writeSequence, h.blockPresent⟩
  | readBlockSize =>
    unfold read
    apply (readBlockSizeOf_readsAt h).bind
    exact fun _ _ h' => .inl h'
  | markWriteBlockCorrupt =>
    exact .inl ⟨h.readSequence, h.oldestSequence, h.writeSequence, h.blockPresent⟩
  | leaveReadBlock =>
    unfold read
    rw [ensures_bind, ensures_seq]
    apply Ensures.ite
    · intro hbehind
      have hne : r ≠ w := by
        rintro rfl
        simp [readIsBehindWrite, h.readSequence, h.writeSequence] at hbehind
      apply (hdispose h hne).bind
      exact fun _ _ h' => h'
    · exact fun _ => .inl h
  | disposeReadBlockIfDrained =>
    unfold read disposeReadBlockIfDrained
    simp only [ensures_bind, ensures_seq]
    apply Ensures.ite
    · exact fun _ => .inl h
    · intro hbehind
      have hne : r ≠ w := by
        rintro rfl
        simp [isReadBlockActiveWrite, h.readSequence, h.writeSequence] at hbehind
      rw [ensures_bind]
      refine (readBlockSizeOf_readsAt h).mono ?_
      intro size s₁ h₁
      cases size with
      | none => exact .inl h₁
      | some readBlockSize =>
        rw [ensures_bind, ensures_seq]
        apply Ensures.ite
        · exact fun _ => hdispose h₁ hne
        · exact fun _ => .inl h₁

/-- What calls do to the read, from a block on: the blocks visited are those present up to the one
it is at, in their order. -/
structure Visits (present : Sequence → Bool) (w r : Sequence) (blocks : List Sequence)
    (s : BlockSequence) : Prop where
  reads : ∃ last, InRun r w last ∧ s.ReadsAt present w last ∧
    ∀ x, x ∈ r :: blocks ↔ present x = true ∧ ahead r x ≤ ahead r last
  ordered : (r :: blocks).Pairwise fun x y => ahead r x < ahead r y

theorem Follows.visits {n : Sequence} {blocks : List Sequence} {b : BlockSequence}
    (hr : present r = true) (h : Follows present w r n) (hn : b.Visits present w n blocks) :
    b.Visits present w r (n :: blocks) := by
  obtain ⟨⟨last, hlast, hreads, hmem⟩, hordered⟩ := hn
  obtain ⟨hlast', hle⟩ := hlast.of_later h.within
  -- the steps from `r` go by way of `n`
  have hsteps : ∀ {x}, x ∈ n :: blocks → ahead r x = ahead r n + ahead n x ∧
      ahead r x ≤ ahead r last := by
    intro x hx
    have hx' : InRun n last x := ((hmem x).1 hx).2
    obtain ⟨hin, hafter⟩ := hx'.of_later hle
    have hadd := ahead_add r n x
    have hlt := ahead_lt n x
    exact ⟨by omega, hin⟩
  have hpos : 0 < ahead r n := Nat.pos_of_ne_zero (ahead_eq_zero.not.2 h.ne)
  refine ⟨⟨last, hlast', hreads, ?_⟩, List.pairwise_cons.2 ⟨?_, ?_⟩⟩
  · intro x
    rw [List.mem_cons]
    constructor
    · rintro (rfl | hx)
      · exact ⟨hr, by simp⟩
      · exact ⟨((hmem x).1 hx).1, (hsteps hx).2⟩
    · rintro ⟨hx, hxle⟩
      by_cases hxr : x = r
      · exact .inl hxr
      · refine .inr ((hmem x).2 ⟨hx, ?_⟩)
        have hnx : ahead r n ≤ ahead r x := by
          by_contra hbefore
          have habsent := h.first x hxr (by omega)
          rw [hx] at habsent
          cases habsent
        have hxin : InRun r last x := hxle
        exact hxin.from_later hle hnx
  · intro y hy
    rw [ahead_self, (hsteps hy).1]
    exact Nat.add_pos_left hpos _
  · refine hordered.imp_of_mem ?_
    intro x y hx hy hxy
    rw [(hsteps hx).1, (hsteps hy).1]
    exact Nat.add_lt_add_left hxy _

theorem visited_visits (hwrite : present w = true) (hr : present r = true)
    (h : s.seq.ReadsAt present w r) (calls : List ReadCall) :
    Ensures (visited P C calls) (fun blocks s' => s'.seq.Visits present w r blocks) s := by
  induction calls generalizing s r with
  | nil =>
    unfold visited
    rw [ensures_pure]
    refine ⟨⟨r, ?_, h, ?_⟩, List.pairwise_singleton _ _⟩
    · unfold InRun
      simp
    intro x
    rw [List.mem_singleton, ahead_self, Nat.le_zero, ahead_eq_zero]
    constructor
    · rintro rfl
      exact ⟨hr, rfl⟩
    · exact fun hx => hx.2
  | cons call calls ih =>
    unfold visited
    rw [ensures_bind, ensures_seq]
    apply (read_readsOn hwrite h call).bind
    rintro _ s₁ (h₁ | ⟨n, hn, h₁⟩)
    · rw [ensures_bind, ensures_seq]
      apply (ih hr h₁).bind
      intro blocks s' h'
      rw [ensures_pure, h.readSequence, h₁.readSequence, if_pos rfl]
      exact h'
    · rw [ensures_bind, ensures_seq]
      apply (ih hn.there h₁).bind
      intro blocks s' h'
      rw [ensures_pure, h.readSequence, h₁.readSequence, if_neg hn.ne]
      exact hn.visits hr h'

/-- Where every dispose succeeds, the read that leaves block after block comes to the end. -/
theorem leaves_reach (halways : ∀ block env, (P.answer (.dispose block) env).1 = true)
    (hwrite : present w = true) (h : s.seq.ReadsAt present w r) : ∃ calls,
    Ensures (visited P C calls) (fun _ s' => s'.seq.hasUnsent = false) s := by
  induction hleft : ahead r w using Nat.strong_induction_on generalizing s r with
  | _ left ih =>
    by_cases hend : r = w
    · refine ⟨[.setReadCursor s.seq.writePosition], ?_⟩
      change BlockSequence.hasUnsent (s.seq.setReadCursor s.seq.writePosition) = false
      simp [hasUnsent, readIsBehindWrite, setReadCursor, h.readSequence, h.writeSequence, hend]
    · obtain ⟨hfollows, -, hsucceeds⟩ := disposeReadBlock_readsOn (P := P) (C := C) hwrite h hend
      obtain ⟨n, hn, hreads⟩ := hfollows (hsucceeds halways)
      have hnearer : ahead n w < left := by
        have hpos : 0 < ahead r n := Nat.pos_of_ne_zero (ahead_eq_zero.not.2 hn.ne)
        have hadd := ahead_add r n w
        have hlt := ahead_lt n w
        have hwithin := hn.within
        unfold InRun at hwithin
        omega
      obtain ⟨calls, hcalls⟩ := ih _ hnearer hreads rfl
      refine ⟨.leaveReadBlock :: calls, ?_⟩
      have hleave : Ensures (read P C .leaveReadBlock)
          (fun _ t => t = (disposeReadBlock P C s).2) s := by
        have hbehind : s.seq.readIsBehindWrite = true := by
          simp [readIsBehindWrite, h.readSequence, h.writeSequence, hend]
        unfold read
        rw [ensures_bind, ensures_seq, if_pos hbehind]
        rfl
      unfold visited
      rw [ensures_bind, ensures_seq]
      apply hleave.bind
      rintro _ _ rfl
      exact hcalls

/-- Opening finds the ends of a run with holes in it, and reading from there to the end visits the
blocks present, each once and in their order. -/
theorem run_is_recovered (hP : TellsPresence P presence)
    (h : IsRecoverable (presence s.world.env) o w) :
    Ensures (openBlocks P C) (fun _ opened =>
      opened.seq.oldestSequence = o ∧ opened.seq.readSequence = o ∧ opened.seq.writeSequence = w ∧
      (∀ calls, Ensures (visited P C calls) (fun blocks s' =>
        (o :: blocks).Pairwise (fun x y => ahead o x < ahead o y) ∧
        (∀ x ∈ o :: blocks, presence s.world.env x = true) ∧
        (s'.seq.hasUnsent = false → ∀ x, presence s.world.env x = true → x ∈ o :: blocks) ∧
        ((∀ block env, (P.answer (.dispose block) env).1 = true) → ∃ more,
          Ensures (visited P C more) (fun _ s'' => s''.seq.hasUnsent = false) s')) opened)) s := by
  refine (openBlocks_recovers hP h).mono ?_
  intro _ opened hopened
  refine ⟨hopened.oldestSequence, hopened.readSequence, hopened.writeSequence, ?_⟩
  intro calls
  refine (visited_visits h.write h.oldest hopened calls).mono ?_
  rintro blocks s' ⟨⟨last, hlast, hreads, hmem⟩, hordered⟩
  refine ⟨hordered, fun x hx => ((hmem x).1 hx).1, ?_, fun halways =>
    leaves_reach halways h.write hreads⟩
  intro hdone x hx
  refine (hmem x).2 ⟨hx, ?_⟩
  have hend : last = w := by
    by_contra hbehind
    simp [hasUnsent, readIsBehindWrite, hreads.readSequence, hreads.writeSequence, hbehind] at hdone
  rw [hend]
  exact h.inside x hx

/-- A device with the empty blocks 98, 0 and 1: a hole where the numbers wrap. -/
def holeAtWrap : Media :=
  fun x => if x = 98 ∨ x = 0 ∨ x = 1 then some [] else none

theorem holeAtWrap_recoverable : IsRecoverable (fun x => (holeAtWrap x).isSome) 98 1 where
  oldest := rfl
  write := rfl
  inside := by decide
  room := by decide
  shorter := by
    intro gap hgap hin
    have hstart : ∀ x, (holeAtWrap x).isSome = false → InRun 98 1 x → x = 99 := by decide
    have hhole := hstart gap.start (hgap.absent _ (by simpa using hgap.long))
      (hin _ (by simpa using hgap.long))
    have hshort : gap.length ≤ 1 := by
      by_contra hlonger
      have habsent := hgap.absent 0 (by
        rw [hhole]
        exact Nat.lt_of_not_le hlonger)
      cases habsent
    exact Nat.lt_of_le_of_lt hshort (by decide)

theorem run_is_recovered_hole :
    Ensures (openBlocks (ramDevice .oldest) .small) (fun _ opened =>
      opened.seq.oldestSequence = 98 ∧ opened.seq.writeSequence = 1 ∧
      Ensures (visited (ramDevice .oldest) .small [.leaveReadBlock, .leaveReadBlock])
        (fun blocks s' => blocks = [0, 1] ∧ s'.seq.readSequence = 1 ∧
          (98 :: blocks).Pairwise fun x y => ahead 98 x < ahead 98 y) opened)
      ⟨initial, ⟨holeAtWrap, []⟩⟩ := by
  have htells : TellsPresence (ramDevice .oldest) (fun m x => (m x).isSome) :=
    ⟨fun _ _ => rfl, fun _ _ => rfl⟩
  obtain ⟨holdest, -, hwrite, hvisits⟩ :=
    run_is_recovered (C := .small) (s := ⟨initial, ⟨holeAtWrap, []⟩⟩) htells holeAtWrap_recoverable
  have hvisited := hvisits [.leaveReadBlock, .leaveReadBlock]
  exact ⟨holdest, hwrite, by decide +kernel, by decide +kernel, hvisited.1⟩

end BlockSequence

end SolidSyslog.Store
