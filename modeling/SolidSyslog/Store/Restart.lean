import SolidSyslog.Store.Recovery
import SolidSyslog.Store.Representation

/-!
# A restart after a restart

A start may dispose of corrupt blocks at the front of the run, and the next one searches the map
that is left for its largest gap. The gap outside the run is the largest before the first block
goes, or one of the largest; each block that goes makes it longer and no hole longer. So the second
start finds the run the first one left, scans the block the first one came to rest on, and leaves
everything as it is.
-/

namespace SolidSyslog.Store

open Lib

variable {σ : Type} {P : Platform σ} {C : Config} {media : σ → Media} {m : Media}
  {o w n : Sequence} {present : Sequence → Bool}

/-- A call that changes what the device holds. -/
def Event.changesDevice : Event → Bool
  | .call (.acquire _) _ | .call (.dispose _) _ | .call (.append _ _) _
  | .call (.writeAt _ _ _) _ => true
  | _ => false

/-! ## The gap outside the run -/

/-- The blocks present lie in the interval from `o` to `w`, both its ends among them, and no hole in
it is longer than the gap outside it. -/
structure IsGapped (present : Sequence → Bool) (o w : Sequence) : Prop where
  oldest : present o = true
  write : present w = true
  inside : ∀ x, present x = true → InRun o w x
  within : ∀ gap, IsWholeGap present gap → (∀ z, ahead gap.start z < gap.length → InRun o w z) →
    gap.length ≤ (outerGap o w).length

theorem IsRecoverable.gapped (h : IsRecoverable present o w) : IsGapped present o w where
  oldest := h.oldest
  write := h.write
  inside := h.inside
  within gap hgap hin := (h.shorter gap hgap hin).le

/-- What a start takes for the run. -/
theorem gapped_locateRunBoundaries {lastPresent : Sequence} (hlast : present lastPresent = true) :
    IsGapped present (locateRunBoundaries present lastPresent).1
      (locateRunBoundaries present lastPresent).2 := by
  by_cases hfull : ∀ x, present x = true
  · rw [locateRunBoundaries_of_full hfull]
    refine ⟨hfull 0, hfull 99, ?_, ?_⟩
    · intro x _
      have hlt : ahead 0 x < 100 := ahead_lt 0 x
      exact Nat.le_of_lt_succ hlt
    · intro gap hgap _
      have habsent := hgap.absent gap.start (by simpa using hgap.long)
      rw [hfull] at habsent
      cases habsent
  · obtain ⟨absent, hnot⟩ := not_forall.1 hfull
    have habsent : present absent = false := by simpa using hnot
    obtain ⟨holdest, hwrite, -, houtside⟩ := locateRunBoundaries_spec hlast habsent
    refine ⟨holdest, hwrite, ?_, ?_⟩
    · intro x hx
      by_contra hout
      rw [houtside x hout] at hx
      cases hx
    · intro gap hgap _
      have hle := hgap.length_le hlast
      have hlt := (largestGap_spec hlast habsent).2.1.length_lt
      have hlong := (largestGap_spec hlast habsent).1
      -- the gap outside is the largest
      have houter : (outerGap (locateRunBoundaries present lastPresent).1
          (locateRunBoundaries present lastPresent).2).length =
          (largestGap present lastPresent).length := by
        unfold locateRunBoundaries outerGap
        rw [if_pos hlong]
        dsimp only
        rw [nextSequence, sub_add_cancel, ahead, add_sub_cancel_left]
        exact Nat.mod_eq_of_lt hlt
      rw [houter]
      exact hle

/-- What is left of a map when a block goes. -/
theorem present_update {x : Sequence} :
    (Function.update m o none x).isSome = true ↔ x ≠ o ∧ (m x).isSome = true := by
  by_cases hx : x = o
  · rw [hx, Function.update_self]
    simp
  · rw [Function.update_of_ne hx]
    simp [hx]

/-- The first block of the run goes: the gap outside grows, and no hole does. -/
theorem IsGapped.left {v : View} (hn : v.Next n)
    (h : IsGapped (fun x => (v.media x).isSome) v.oldest v.write) :
    IsRecoverable (fun x => (Function.update v.media v.oldest none x).isSome) n v.write where
  oldest := present_update.2 ⟨hn.ne, hn.present⟩
  write := present_update.2 ⟨hn.write_ne, h.write⟩
  inside := by
    intro x hx
    obtain ⟨hne, hpresent⟩ := present_update.1 hx
    apply (h.inside x hpresent).from_later hn.le
    by_contra hbefore
    rw [hn.first x hne (by omega)] at hpresent
    cases hpresent
  room := by
    intro heq
    have hwrite : nextSequence v.write ≠ v.oldest := by
      rw [heq]
      exact hn.ne
    have hle : ahead v.oldest n ≤ ahead v.oldest v.write := hn.le
    rw [← heq, nextSequence, ahead_next hwrite] at hle
    omega
  shorter := by
    intro gap hgap hin
    have hgone : ¬ InRun n v.write v.oldest := by
      intro hback
      obtain ⟨-, hle⟩ := hback.of_later hn.le
      rw [ahead_self, Nat.le_zero, ahead_eq_zero] at hle
      exact hn.ne hle
    have hwhole : IsWholeGap (fun x => (v.media x).isSome) gap := by
      refine ⟨⟨?_, (present_update.1 hgap.starts).2⟩, hgap.long, ?_⟩
      · intro z hz
        have habsent := hgap.absent z hz
        have hne : z ≠ v.oldest := by
          rintro rfl
          exact hgone (hin _ hz)
        rwa [Function.update_of_ne hne] at habsent
      · intro e he
        exact (present_update.1 (hgap.ends e he)).2
    have hle := h.within gap hwhole fun z hz => ((hin z hz).of_later hn.le).1
    have hbefore := length_outerGap v.oldest v.write
    have hafter := length_outerGap n v.write
    have hadd := ahead_add v.oldest n v.write
    have hpos : ahead v.oldest n ≠ 0 := fun hzero => hn.ne (ahead_eq_zero.1 hzero)
    have hwithin : ahead v.oldest n ≤ ahead v.oldest v.write := hn.le
    have hlt := ahead_lt n v.write
    omega

/-! ## The run found again -/

theorem Media.lastPresent_isSome {numbers : List Sequence} {last : Option Sequence}
    (hlast : ∀ x, last = some x → (m x).isSome = true) :
    ∀ x, m.lastPresent last numbers = some x → (m x).isSome = true := by
  induction numbers generalizing last with
  | nil => exact hlast
  | cons block rest ih =>
    apply ih
    intro x hx
    dsimp only at hx
    split at hx
    · next hblock =>
      cases hx
      exact hblock
    · exact hlast x hx

theorem Media.lastPresent_ne_none {numbers : List Sequence} {last : Option Sequence}
    (hpresent : last.isSome = true ∨ ∃ x ∈ numbers, (m x).isSome = true) :
    (m.lastPresent last numbers).isSome = true := by
  induction numbers generalizing last with
  | nil =>
    rcases hpresent with hpresent | ⟨x, hx, -⟩
    · exact hpresent
    · cases hx
  | cons block rest ih =>
    apply ih
    by_cases hblock : (m block).isSome = true
    · simp [hblock]
    · dsimp only
      rw [if_neg hblock]
      rcases hpresent with hpresent | ⟨x, hx, hpresent⟩
      · exact .inl hpresent
      · rcases List.mem_cons.1 hx with rfl | hx
        · exact absurd hpresent hblock
        · exact .inr ⟨x, hx, hpresent⟩

/-- Where there are blocks, a start takes them for a run. -/
theorem Media.run_of_present (h : (m o).isSome = true) : ∃ last, (m last).isSome = true ∧
    m.run = some (locateRunBoundaries (fun x => (m x).isSome) last) := by
  obtain ⟨last, hlast⟩ := Option.isSome_iff_exists.1
    (@Media.lastPresent_ne_none m _ none (.inr ⟨o, List.mem_finRange o, h⟩))
  have hpresent := @Media.lastPresent_isSome m (List.finRange modulus) none (fun _ h => by cases h)
  refine ⟨last, hpresent last hlast, ?_⟩
  rw [Media.run, hlast, Option.map_some]

/-- A start that finds these blocks takes them for the run from `o` to `w`. -/
structure Media.Regained (m : Media) (o w : Sequence) : Prop where
  gapped : IsGapped (fun x => (m x).isSome) o w
  run : m.run = some (o, w)

theorem IsRecoverable.regained (h : IsRecoverable (fun x => (m x).isSome) o w) :
    m.Regained o w := by
  obtain ⟨last, hlast, hrun⟩ := Media.run_of_present h.oldest
  refine ⟨h.gapped, ?_⟩
  rw [hrun, h.locateRunBoundaries_eq hlast]

/-- One block and nothing else. -/
theorem recoverable_first (hempty : ∀ x, m x = none) :
    IsRecoverable (fun x => (m.after (.acquire 0) x).isSome) 0 0 := by
  have hpresent : ∀ x, (m.after (.acquire 0) x).isSome = true → x = 0 := by
    intro x hx
    by_contra hne
    rw [Media.after, Function.update_of_ne hne, hempty] at hx
    cases hx
  refine ⟨rfl, rfl, ?_, by decide, ?_⟩
  · intro x hx
    rw [hpresent x hx]
    exact le_refl _
  · intro gap hgap hin
    have hstart := hin gap.start (by simpa using hgap.long)
    rw [InRun, ahead_self, Nat.le_zero, ahead_eq_zero] at hstart
    have habsent := hgap.absent 0 (by simpa [hstart] using hgap.long)
    cases habsent

namespace StoreView

variable {V V' W : StoreView}

/-! ## What the first start leaves -/

/-- A start has come to this block of the media it will leave. -/
structure Resumable (V : StoreView) : Prop where
  regained : V.view.media.Regained V.view.oldest V.view.write
  cursor : V.view.cursor = 0
  corrupt : V.view.corrupt = false

theorem reportLoss_view (V : StoreView) (fault : BlockStoreError) :
    ∃ trace, (V.reportLoss fault).view = { V.view with trace := trace } := by
  unfold reportLoss
  split
  · exact ⟨_, rfl⟩
  · exact ⟨_, rfl⟩

theorem spoiled_view (V : StoreView) : ∃ trace, V.spoiled.view =
    { V.view with cursor := V.view.writeSize, corrupt := true, trace := trace } := by
  obtain ⟨trace, hview⟩ := reportLoss_view V .recordCorrupt
  refine ⟨trace, ?_⟩
  rw [spoiled, hview]

theorem Resumable.left (h : V.Resumable) (hn : V.view.Next n) :
    ((((V.scanned C).left n).reportLoss .recordCorrupt)).Resumable := by
  obtain ⟨trace, hview⟩ := reportLoss_view ((V.scanned C).left n) .recordCorrupt
  refine ⟨?_, ?_, ?_⟩
  · rw [hview]
    exact (h.regained.gapped.left hn).regained
  · rw [hview]
    rfl
  · rw [hview]
    exact h.corrupt

theorem Resuming.resumable (h : Resuming C V V') (hV : V.Resumable) : V'.Resumable := by
  induction h with
  | refl V => exact hV
  | head _ next _ ih => exact ih (hV.left next)

/-- What a start opens on, it has not disturbed yet. -/
theorem initial_resumable {t : List Event} {v : View} (hopened : View.Opened m t v)
    (htaken : ∀ run ∈ m.run, (v.oldest, v.write) = run) : (initial v).Resumable := by
  cases hopened with
  | fresh hempty => exact ⟨(recoverable_first hempty).regained, rfl, rfl⟩
  | found located =>
    obtain ⟨last, hlast, hrun⟩ := Media.run_of_present located.oldest
    have htaken := htaken _ hrun
    refine ⟨⟨?_, ?_⟩, rfl, rfl⟩
    · have hgapped := @gapped_locateRunBoundaries (fun x => (m x).isSome) last hlast
      rw [← htaken] at hgapped
      exact hgapped
    · exact hrun.trans (congrArg some htaken.symm)

/-! ## What the second start finds -/

/-- The same blocks, the same run, the same cursor and the same mark. -/
structure Alike (V W : StoreView) : Prop where
  media : W.view.media = V.view.media
  oldest : W.view.oldest = V.view.oldest
  write : W.view.write = V.view.write
  cursor : W.view.cursor = V.view.cursor
  corrupt : W.view.corrupt = V.view.corrupt

namespace Alike

theorem readContent (h : V.Alike W) : W.readContent = V.readContent := by
  rw [StoreView.readContent, h.media, h.oldest]
  rfl

theorem scanResult (h : V.Alike W) : W.scanResult C = V.scanResult C := by
  rw [StoreView.scanResult, h.readContent]
  rfl

theorem scanned (h : V.Alike W) : (V.scanned C).Alike (W.scanned C) where
  media := h.media
  oldest := h.oldest
  write := h.write
  cursor := by
    rw [StoreView.scanned, h.readContent]
    rfl
  corrupt := h.corrupt

theorem spoiled (h : V.Alike W) : V.spoiled.Alike W.spoiled := by
  obtain ⟨trace, hV⟩ := V.spoiled_view
  obtain ⟨trace', hW⟩ := W.spoiled_view
  refine ⟨?_, ?_, ?_, ?_, rfl⟩
  · rw [hV, hW]
    exact h.media
  · rw [hV, hW]
    exact h.oldest
  · rw [hV, hW]
    exact h.write
  · change W.view.writeSize = V.view.writeSize
    rw [View.writeSize, View.writeSize, h.media, h.write]

theorem checked (h : V.Alike W) : (V.checked C).Alike (W.checked C) := by
  have hcontent : W.writeContent = V.writeContent := by
    rw [writeContent, writeContent, h.media, h.write]
  have hstart : W.checkStart = V.checkStart := by
    rw [checkStart, checkStart, h.oldest, h.write, h.cursor]
  unfold StoreView.checked
  rw [hcontent, hstart]
  split
  · exact ⟨h.media, h.oldest, h.write, h.cursor, rfl⟩
  · exact h

/-- A start on a block that it does not leave. -/
theorem stays (h : V.Alike W) (hstuck : V.scanResult C ≠ .corrupt ∨ V.view.oldest = V.view.write)
    {W' : StoreView} (hleft : Resuming C W W') : W' = W := by
  cases hleft with
  | refl => rfl
  | head corrupt next _ =>
    exfalso
    rcases hstuck with hclean | hlast
    · rw [h.scanResult] at corrupt
      exact hclean corrupt
    · apply next.write_ne
      rw [h.oldest, h.write, hlast]

end Alike

/-- What a start leaves is what it came to, with a cursor and a mark. -/
theorem Resumed.keeps (h : Resumed C V V') : ∃ V₁, Resuming C V V₁ ∧
    V'.view.media = V₁.view.media ∧ V'.view.oldest = V₁.view.oldest ∧
    V'.view.write = V₁.view.write := by
  cases h with
  | scanned left found => exact ⟨_, left, rfl, rfl, rfl⟩
  | @spoiled V₁ left corrupt last =>
    obtain ⟨trace, hview⟩ := (V₁.scanned C).spoiled_view
    rw [hview]
    exact ⟨_, left, rfl, rfl, rfl⟩

/-- The mark is all that the check of the write block leaves. -/
theorem checked_view (V : StoreView) :
    ∃ corrupt, (V.checked C).view = { V.view with corrupt := corrupt } := by
  unfold checked
  split
  · exact ⟨true, rfl⟩
  · exact ⟨_, rfl⟩

/-! ## The second start -/

/-- No call so far that changes what the device holds. -/
def Quiet (V : StoreView) : Prop :=
  ∀ event ∈ V.view.trace, event.changesDevice = false

theorem Quiet.spoiled (h : V.Quiet) : V.spoiled.Quiet := by
  have hreport : (V.reportLoss .recordCorrupt).Quiet := by
    unfold reportLoss
    split
    · exact h
    · intro event hevent
      rcases List.mem_append.1 hevent with hevent | hevent
      · exact h event hevent
      · rw [List.mem_singleton.1 hevent]
        rfl
  exact hreport

theorem Quiet.checked (h : V.Quiet) : (V.checked C).Quiet := by
  unfold StoreView.checked
  split
  · exact h
  · exact h

/-- A start from where another came to rest: it rests there too, and changes nothing. -/
theorem Resumed.again {V₀ W₀ : StoreView} (h : Resumed C V₀ V) (hV₀ : V₀.Resumable)
    (hmedia : W₀.view.media = V.view.media) (holdest : W₀.view.oldest = V.view.oldest)
    (hwrite : W₀.view.write = V.view.write) (hcursor : W₀.view.cursor = 0)
    (hcorrupt : W₀.view.corrupt = false) (hquiet : W₀.Quiet) (hW : Resumed C W₀ W) :
    V.Alike W ∧ W.Quiet := by
  have halike : ∀ V₁, Resuming C V₀ V₁ → V.view.media = V₁.view.media →
      V.view.oldest = V₁.view.oldest → V.view.write = V₁.view.write → V₁.Alike W₀ := by
    intro V₁ hleft hmedia₁ holdest₁ hwrite₁
    have hV₁ := hleft.resumable hV₀
    exact ⟨hmedia.trans hmedia₁, holdest.trans holdest₁, hwrite.trans hwrite₁,
      hcursor.trans hV₁.cursor.symm, hcorrupt.trans hV₁.corrupt.symm⟩
  cases h with
  | @scanned V₁ left found =>
    have hat := halike V₁ left rfl rfl rfl
    cases hW with
    | scanned left' found' =>
      rw [hat.stays (.inl found) left']
      exact ⟨hat.scanned, hquiet⟩
    | spoiled left' corrupt' last' =>
      rw [hat.stays (.inl found) left', hat.scanResult] at corrupt'
      exact absurd corrupt' found
  | @spoiled V₁ left corrupt last =>
    obtain ⟨trace, hview⟩ := (V₁.scanned C).spoiled_view
    have hat := halike V₁ left (by rw [hview]; rfl) (by rw [hview]; rfl) (by rw [hview]; rfl)
    cases hW with
    | scanned left' found' =>
      rw [hat.stays (.inr last) left', hat.scanResult] at found'
      exact absurd corrupt found'
    | spoiled left' corrupt' last' =>
      rw [hat.stays (.inr last) left']
      exact ⟨hat.scanned.spoiled, Quiet.spoiled hquiet⟩

end StoreView

namespace BlockStore

/-! ## Two starts -/

/-- What a start leaves, and what it came from. -/
theorem created_resumes (hP : Faithful P media) (hdispose : DisposesAlways P media) (env : σ) :
    ∃ v V, View.Opened (media env) (StoreView.createReports C) v ∧
      (∀ run ∈ (media env).run, (v.oldest, v.write) = run) ∧
      StoreView.Resumed C (.initial v) V ∧
      (created P C env).Sees media (media env) (V.checked C) := by
  obtain ⟨v, hopened, htaken, ⟨V, hresumed, hs⟩ | hjammed⟩ := create_resumes (C := C) hP env
  · exact ⟨v, V, hopened, htaken, hresumed, hs⟩
  · exact absurd hjammed (not_jammed hdispose)

/-- What a main trace tells of calls that change what the device holds is all there is. -/
theorem quiet_of_main {trace : List Event}
    (h : ∀ event ∈ main trace, event.changesDevice = false) :
    ∀ event ∈ trace, event.changesDevice = false := by
  intro event hevent
  by_cases hmain : event.isMain = true
  · exact h event (List.mem_filter.2 ⟨hevent, hmain⟩)
  · rcases event with ⟨request, answer⟩ | _ | _ | _ | _
    · cases request <;> first | rfl | exact absurd rfl hmain
    all_goals rfl

theorem createReports_quiet :
    ∀ event ∈ StoreView.createReports C, event.changesDevice = false := by
  unfold StoreView.createReports
  split
  · intro event hevent
    rw [List.mem_singleton.1 hevent]
    rfl
  · exact List.forall_mem_nil _

/-- A start that follows a start, on a device that works, disposes of nothing and writes nothing,
and leaves the run, the cursor, the write position and the mark as they were. -/
theorem resume_idempotent (hP : Faithful P media) (hdispose : DisposesAlways P media) (env : σ) :
    let first := created P C env
    let second := created P C first.world.env
    (∀ event ∈ second.world.trace, event.changesDevice = false) ∧
      media second.world.env = media first.world.env ∧
      second.seq.oldestSequence = first.seq.oldestSequence ∧
      second.seq.readSequence = first.seq.readSequence ∧
      second.seq.writeSequence = first.seq.writeSequence ∧
      second.seq.readCursor = first.seq.readCursor ∧
      second.seq.writePosition = first.seq.writePosition ∧
      second.seq.writeBlockCorrupt = first.seq.writeBlockCorrupt := by
  dsimp only
  obtain ⟨v, V, hopened, htaken, hresumed, hfirst⟩ := created_resumes (C := C) hP hdispose env
  generalize created P C env = first at *
  obtain ⟨w, W, hreopened, hretaken, hresumed', hsecond⟩ :=
    created_resumes (C := C) hP hdispose first.world.env
  generalize created P C first.world.env = second at *
  -- the media the first start leaves gives the run it has found
  have hmedia : media first.world.env = V.view.media := by
    obtain ⟨corrupt, hview⟩ := V.checked_view (C := C)
    rw [hfirst.world.media_eq, hview]
  have hinitial := StoreView.initial_resumable hopened htaken
  obtain ⟨V₁, hleft, hmedia₁, holdest₁, hwrite₁⟩ := hresumed.keeps
  have hregained : V.view.media.Regained V.view.oldest V.view.write := by
    rw [hmedia₁, holdest₁, hwrite₁]
    exact (hleft.resumable hinitial).regained
  have htaken' : (w.oldest, w.write) = (V.view.oldest, V.view.write) :=
    hretaken _ (by rw [hmedia, hregained.run]; rfl)
  obtain ⟨holdest, hwrite⟩ := Prod.mk.inj htaken'
  have hagain : V.Alike W ∧ W.Quiet := by
    rw [hmedia] at hreopened
    cases hreopened with
    | fresh hempty =>
      have hpresent := hregained.gapped.oldest
      rw [hempty] at hpresent
      cases hpresent
    | found located =>
      apply StoreView.Resumed.again hresumed hinitial _ holdest hwrite _ _ _ hresumed'
      · rfl
      · rfl
      · rfl
      intro event hevent
      rcases List.mem_append.1 hevent with hevent | hevent
      · exact createReports_quiet event hevent
      · rw [List.mem_singleton.1 hevent]
        rfl
  have halike := hagain.1.checked (C := C)
  have hquiet := hagain.2.checked (C := C)
  refine ⟨?_, ?_, ?_, ?_, ?_, ?_, ?_, ?_⟩
  · apply quiet_of_main
    rw [hsecond.world.main_eq]
    exact hquiet
  · rw [hsecond.world.media_eq, hfirst.world.media_eq, halike.media]
  · rw [hsecond.agrees.oldestSequence, hfirst.agrees.oldestSequence, halike.oldest]
  · rw [hsecond.agrees.readSequence, hfirst.agrees.readSequence, halike.oldest]
  · rw [hsecond.agrees.writeSequence, hfirst.agrees.writeSequence, halike.write]
  · rw [hsecond.agrees.readCursor, hfirst.agrees.readCursor, halike.cursor]
  · rw [hsecond.agrees.writePosition_eq, hfirst.agrees.writePosition_eq, View.writeSize,
      View.writeSize, halike.media, halike.write]
  · rw [hsecond.agrees.writeBlockCorrupt, hfirst.agrees.writeBlockCorrupt, halike.corrupt]

/-- A device whose first block is no record's and whose second ends in a torn one. -/
def cornerBlocks : Media :=
  fun x => if x = 4 then some [0] else if x = 6 then some [1, 2, 3] else none

theorem resume_idempotent_corners :
    let first := created (ramDevice .oldest) .small cornerBlocks
    let second := created (ramDevice .oldest) .small first.world.env
    first.seq.oldestSequence = 6 ∧ second.seq.oldestSequence = first.seq.oldestSequence ∧
      ∀ event ∈ second.world.trace, event.changesDevice = false := by
  obtain ⟨hquiet, -, holdest, -⟩ :=
    resume_idempotent (C := .small) (ramDevice_faithful .oldest) (ramDevice_disposesAlways .oldest)
      cornerBlocks
  exact ⟨by decide +kernel, holdest, hquiet⟩

end BlockStore

end SolidSyslog.Store
