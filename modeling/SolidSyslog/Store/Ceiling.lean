import SolidSyslog.Store.Representation
import Mathlib.Data.Fintype.Card

/-!
# The block ceiling over restarts

The blocks on the device are one run with at most one block over the ceiling, at every moment of
every life of the store, where no write starts a new block while there is one over the ceiling
already. The run can be read off the media then, so each life finds the run the one before it left.
-/

namespace SolidSyslog.Store

open Lib

variable {σ : Type} {P : Platform σ} {C : Config} {media : σ → Media} {m₀ m : Media}

/-! ## Histories -/

/-- No block, or one run of at most `ceiling` blocks. -/
def Media.Bounded (m : Media) (ceiling : Nat) : Prop :=
  (∀ x, m x = none) ∨ ∃ o w, m.IsRun o w ∧ ahead o w < ceiling

/-- A trace after which the media is within one block of the ceiling, and is the run noted last
unless that note is still to come. -/
structure Orderly (C : Config) (m₀ : Media) (t : List Event) : Prop where
  bounded : (replay m₀ t).Bounded (C.maxBlocks + 1)
  noted : settled t = true → ∀ o w, lastRun t = some (o, w) → (replay m₀ t).IsRun o w

/-- It was so at every moment. -/
def History (C : Config) (m₀ : Media) (t : List Event) : Prop :=
  ∀ p, p <+: t → Orderly C m₀ p

theorem History.concat {t : List Event} {e : Event} (h : History C m₀ t)
    (he : Orderly C m₀ (t ++ [e])) : History C m₀ (t ++ [e]) := by
  intro p hp
  rcases List.prefix_concat_iff.1 hp with rfl | hp
  · exact he
  · exact h p hp

theorem settled_acquired (t : List Event) (block : Sequence) :
    settled (t ++ [.call (.acquire block) true]) = false := by
  simp [settled]

theorem settled_disposed (t : List Event) (block : Sequence) :
    settled (t ++ [.call (.dispose block) true]) = false := by
  simp [settled]

theorem settled_run (t : List Event) (o w : Sequence) : settled (t ++ [.run o w]) = true := by
  simp [settled]

/-- A change of the run: the call, and then the note of the run it made. -/
theorem History.changed {t : List Event} {e : Event} {o w : Sequence} (h : History C m₀ t)
    (hunsettled : settled (t ++ [e]) = false) (hrun : (replay m₀ (t ++ [e])).IsRun o w)
    (hcount : ahead o w < C.maxBlocks + 1) : History C m₀ (t ++ [e, .run o w]) := by
  have hbounded : (replay m₀ (t ++ [e])).Bounded (C.maxBlocks + 1) := .inr ⟨o, w, hrun, hcount⟩
  rw [List.append_cons]
  apply History.concat
  · apply h.concat
    refine ⟨hbounded, fun hsettled => ?_⟩
    rw [hunsettled] at hsettled
    cases hsettled
  · have hsame : replay m₀ (t ++ [e] ++ [.run o w]) = replay m₀ (t ++ [e]) := by
      rw [replay_append]
      rfl
    refine ⟨by rwa [hsame], ?_⟩
    rintro - o' w' hlast
    rw [lastRun_concat_run] at hlast
    cases hlast
    rwa [hsame]

namespace View

variable {v v' : View} {n : Sequence}

/-- The run is the whole media, with at most one block over the ceiling, and always was. -/
structure Tight (C : Config) (m₀ : Media) (v : View) : Prop where
  settled : settled v.trace = true
  replay : replay m₀ v.trace = v.media
  noted : lastRun v.trace = some (v.oldest, v.write)
  run : v.media.IsRun v.oldest v.write
  count : v.count ≤ C.maxBlocks + 1
  history : History C m₀ v.trace

/-- A call or note that leaves each block present or absent. -/
theorem Tight.event (h : v.Tight C m₀) {e : Event}
    (hsame : ∀ x, (e.effect v.media x).isSome = (v.media x).isSome)
    (hlast : lastRun (v.trace ++ [e]) = lastRun v.trace)
    (hsettled : Store.settled (v.trace ++ [e]) = true) :
    Tight C m₀ { v with media := e.effect v.media, trace := v.trace ++ [e] } := by
  have hreplay : Store.replay m₀ (v.trace ++ [e]) = e.effect v.media := by
    rw [replay_append, h.replay]
    rfl
  have hrun : Media.IsRun (e.effect v.media) v.oldest v.write := by
    intro x
    rw [hsame x]
    exact h.run x
  have hnoted := hlast.trans h.noted
  refine ⟨hsettled, hreplay, hnoted, hrun, h.count, h.history.concat ⟨?_, ?_⟩⟩
  · rw [hreplay]
    exact .inr ⟨v.oldest, v.write, hrun, Nat.lt_of_succ_le h.count⟩
  · rintro - o w hlast'
    rw [hnoted] at hlast'
    cases hlast'
    rwa [hreplay]

theorem Tight.traced_call (h : v.Tight C m₀) {request : Request} {answer : request.Answer}
    (heffect : ∀ m, Event.effect m (.call request answer) = m)
    (hsettled : Store.settled (v.trace ++ [.call request answer]) = true) :
    (v.traced (.call request answer)).Tight C m₀ := by
  have hevent := h.event (e := .call request answer) (fun x => by rw [heffect])
    (lastRun_concat_call ..) hsettled
  rwa [heffect] at hevent

theorem Tight.traced_report (h : v.Tight C m₀) (severity : Severity) (category : Category)
    (error : BlockStoreError) :
      (v.traced (.call (.report severity category error) ())).Tight C m₀ :=
  h.traced_call (fun _ => rfl) (by simp [Store.settled])

/-- In one run the next block is the next number. -/
theorem Tight.next_eq (h : v.Tight C m₀) (hn : v.Next n) : n = v.oldest + 1 := by
  have hsucc : v.oldest + 1 ≠ v.oldest := fun heq => absurd (add_eq_left.1 heq) (by decide)
  have hone : ahead v.oldest (v.oldest + 1) = 1 := by
    have hstep := ahead_from_next hsucc
    rw [ahead_self] at hstep
    exact hstep.symm
  have hpos : ahead v.oldest n ≠ 0 := fun hzero => hn.ne (ahead_eq_zero.1 hzero)
  have hle : ahead v.oldest n ≤ ahead v.oldest v.write := hn.le
  have hin : InRun v.oldest v.write (v.oldest + 1) := by
    unfold InRun
    omega
  have hpresent := (h.run _).2 hin
  by_contra hne
  have hless : ahead v.oldest n ≠ ahead v.oldest (v.oldest + 1) := fun heq => hne (ahead_inj.1 heq)
  rw [hn.first (v.oldest + 1) hsucc (by omega)] at hpresent
  cases hpresent

theorem Tight.dropped (h : v.Tight C m₀) (hn : v.Next n) : (v.dropped n).Tight C m₀ := by
  have hnext := h.next_eq hn
  have hrun : (v.dropped n).media.IsRun n v.write := by
    intro x
    change ((Function.update v.media v.oldest none) x).isSome = true ↔ _
    have hwrite := ahead_from_next (o := v.oldest) hn.write_ne
    rw [hnext]
    unfold InRun
    by_cases hold : x = v.oldest
    · have hround := ahead_next_start v.oldest
      have hlt := ahead_lt v.oldest v.write
      rw [hold, Function.update_self]
      constructor
      · nofun
      · intro hle
        omega
    · have hstep := ahead_from_next (o := v.oldest) hold
      have hin := h.run x
      unfold InRun at hin
      rw [Function.update_of_ne hold, hin]
      omega
  have hcount : (v.dropped n).count < v.count := hn.count_lt
  have hreplay : Store.replay m₀ (v.trace ++ [.call (.dispose v.oldest) true]) =
      (v.dropped n).media := by
    rw [replay_append, h.replay]
    rfl
  have hbound : ahead n v.write < C.maxBlocks + 1 :=
    Nat.lt_of_succ_le (hcount.le.trans h.count)
  refine ⟨?_, ?_, ?_, hrun, hcount.le.trans h.count, ?_⟩
  · change Store.settled (v.trace ++ [_, _]) = true
    rw [List.append_cons, settled_run]
  · change Store.replay m₀ (v.trace ++ [_, _]) = _
    rw [List.append_cons, replay_append, hreplay]
    rfl
  · change lastRun (v.trace ++ [_, _]) = _
    rw [List.append_cons, lastRun_concat_run]
    rfl
  · exact h.history.changed (settled_disposed ..) (by rwa [hreplay]) hbound

theorem Tight.extended (h : v.Tight C m₀) (hroom : v.HasRoom) (hcount : v.count ≤ C.maxBlocks) :
    v.extended.Tight C m₀ := by
  have hstep : ahead v.oldest (nextSequence v.write) = ahead v.oldest v.write + 1 :=
    ahead_next hroom
  have hrun : v.extended.media.IsRun v.oldest (nextSequence v.write) := by
    intro x
    change ((Function.update v.media (nextSequence v.write) (some [])) x).isSome = true ↔ _
    unfold InRun
    rw [hstep]
    by_cases hnew : x = nextSequence v.write
    · rw [hnew, Function.update_self, hstep]
      simp
    · have hin := h.run x
      have hne : ahead v.oldest x ≠ ahead v.oldest (nextSequence v.write) :=
        fun heq => hnew (ahead_inj.1 heq)
      unfold InRun at hin
      rw [Function.update_of_ne hnew, hin]
      omega
  have hreplay : Store.replay m₀ (v.trace ++ [.call (.acquire (nextSequence v.write)) true]) =
      v.extended.media := by
    rw [replay_append, h.replay]
    rfl
  have hmore : v.extended.count ≤ C.maxBlocks + 1 :=
    (count_extended hroom).le.trans (Nat.succ_le_succ hcount)
  refine ⟨?_, ?_, ?_, hrun, hmore, ?_⟩
  · change Store.settled (v.trace ++ [_, _]) = true
    rw [List.append_cons, settled_run]
  · change Store.replay m₀ (v.trace ++ [_, _]) = _
    rw [List.append_cons, replay_append, hreplay]
    rfl
  · change lastRun (v.trace ++ [_, _]) = _
    rw [List.append_cons, lastRun_concat_run]
    rfl
  · exact h.history.changed (settled_acquired ..) (by rwa [hreplay]) (Nat.lt_of_succ_le hmore)

theorem Tight.flags (h : v.Tight C m₀) (cursor : Nat) (corrupt atCapacity evicted : Bool) :
    Tight C m₀ { v with
      cursor := cursor
      corrupt := corrupt
      atCapacity := atCapacity
      evicted := evicted } :=
  ⟨h.settled, h.replay, h.noted, h.run, h.count, h.history⟩

theorem Tight.swept {changed : Bool} (h : v.Tight C m₀) (hswept : v.Swept changed v') :
    v'.Tight C m₀ := by
  cases hswept with
  | left drained next => exact (h.dropped next).flags ..
  | stayed undrained => exact h

theorem Tight.rotated {changed : Bool} (h : v.Tight C m₀) (hroom : v.HasRoom)
    (hcount : v.count ≤ C.maxBlocks) (hrotated : v.Rotated C changed v') : v'.Tight C m₀ := by
  cases hrotated with
  | evicted sweep exceeds next =>
    exact (((h.extended hroom hcount).swept sweep).dropped next).flags ..
  | grown sweep within => exact (h.extended hroom hcount).swept sweep

theorem Tight.rotating (h : v.Tight C m₀) (hroom : v.HasRoom) (hcount : v.count ≤ C.maxBlocks)
    (hrotating : v.Rotating v') : v'.Tight C m₀ := by
  cases hrotating with
  | sweeping => exact h.extended hroom hcount
  | evicting sweep => exact (h.extended hroom hcount).swept sweep

theorem Tight.decided (h : v.Tight C m₀) (policy : DiscardPolicy) :
    (v.traced (.call .getDiscardPolicy policy)).Tight C m₀ :=
  h.traced_call (fun _ => rfl) (by simp [Store.settled])

theorem Tight.prepared {recordSize : Nat} {outcome : Bool × Bool} (h : v.Tight C m₀)
    (hcount : v.IsFull C recordSize → v.count ≤ C.maxBlocks)
    (hprepared : v.Prepared C recordSize outcome v') :
    v'.Tight C m₀ := by
  cases hprepared with
  | fits room => exact h
  | refused full most newest => exact (h.decided _).flags ..
  | grown full fewer rotated =>
    exact h.rotated (BlockSequence.hasRoom_of_count fewer) (hcount full) rotated
  | replaced full most room rotated => exact (h.decided _).rotated room (hcount full) rotated

theorem Tight.preparing {recordSize : Nat} (h : v.Tight C m₀)
    (hcount : v.IsFull C recordSize → v.count ≤ C.maxBlocks)
    (hpreparing : v.Preparing C recordSize v') : v'.Tight C m₀ := by
  cases hpreparing with
  | growing full fewer rotating =>
    exact h.rotating (BlockSequence.hasRoom_of_count fewer) (hcount full) rotating
  | replacing full most room rotating => exact (h.decided _).rotating room (hcount full) rotating

end View

namespace StoreView

variable {V V' : StoreView}

/-! ## Operations -/

theorem tight_reportLoss (h : V.view.Tight C m₀) (fault : BlockStoreError) :
    (V.reportLoss fault).view.Tight C m₀ := by
  unfold reportLoss
  split
  · exact h
  · exact h.traced_report ..

theorem tight_reportRefusal (h : V.view.Tight C m₀) : V.reportRefusal.view.Tight C m₀ := by
  unfold reportRefusal
  split
  · exact h
  · exact h.traced_report ..

theorem tight_reportSealFailed (h : V.view.Tight C m₀) : V.reportSealFailed.view.Tight C m₀ := by
  unfold reportSealFailed
  split
  · exact h
  · exact h.traced_report ..

theorem tight_readied {v' : View} (h : v'.Tight C m₀) (changed : Bool) :
    (V.readied v' changed).view.Tight C m₀ := by
  have hreport : ({ V with view := v' } : StoreView).reportEviction.view.Tight C m₀ := by
    unfold reportEviction
    split
    · split
      · exact h
      · exact h.traced_report ..
    · exact h
  unfold readied
  split <;> exact hreport

theorem tight_turn {maxSize : Nat} {found : RecordStore.Found} {goesOn : Bool}
    (h : V.view.Tight C m₀) (hturn : V.Turn P C maxSize found goesOn V') :
    V'.view.Tight C m₀ := by
  cases hturn with
  | moved read result next => exact (h.dropped next).flags ..
  | exhausted read result last => exact h
  | abandoned read result next =>
    apply tight_reportLoss
    exact (h.dropped next).flags ..
  | spoiled read result last => exact (tight_reportLoss h .recordCorrupt).flags ..
  | finishedWith read result => exact h.flags ..
  | rejected read result =>
    apply View.Tight.flags
    apply tight_reportLoss
    exact h.event (fun _ => rfl) (lastRun_concat_steppedPast ..) (by simp [settled])
  | succeeded read result => exact h
  | couldNotOpen read result => exact h

theorem tight_handedOut (h : V.view.Tight C m₀) (length : Nat) :
    (V.handedOut length).view.Tight C m₀ :=
  h.event (fun _ => rfl) (lastRun_concat_handedOut ..) (by simp [settled])

theorem tight_kept (h : V.view.Tight C m₀) (bytes : Bytes) : (V.kept bytes).view.Tight C m₀ :=
  (h.event (e := .call (.append V.view.write bytes) true) (fun _ => View.isSome_after_append ..)
    (lastRun_concat_call ..) (by simp [settled])).flags ..

theorem tight_wrote {data : Bytes} {result : StoreWriteResult} (h : V.view.Tight C m₀)
    (hcount : 0 < data.length → V.view.IsFull C (C.recordSize (toUint16 data.length)) →
      V.view.count ≤ C.maxBlocks) (hwrote : V.Wrote P C data result V') :
    V'.view.Tight C m₀ := by
  cases hwrote with
  | empty none => exact h
  | refused some prepared => exact tight_reportRefusal (h.prepared (hcount some) prepared)
  | lost some prepared =>
    apply tight_reportSealFailed
    exact (tight_readied (h.prepared (hcount some) prepared) _).traced_call (fun _ => rfl)
      (by simp [settled])
  | kept some prepared sealed =>
    apply tight_kept
    exact (tight_readied (h.prepared (hcount some) prepared) _).traced_call (fun _ => rfl)
      (by simp [settled])

theorem tight_marked (h : V.view.Tight C m₀) : V.marked.view.Tight C m₀ :=
  (h.event (e := .call (.writeAt V.records.lastReadBlockIndex V.records.lastSentFlagOffset
    [sentFlagSent]) true) (fun _ => View.isSome_after_writeAt ..) (lastRun_concat_call ..)
    (by simp [settled])).flags ..

theorem tight_mark (h : V.view.Tight C m₀) (hmarked : V.Marked V') : V'.view.Tight C m₀ := by
  cases hmarked with
  | nothing unread => exact h
  | marked read swept => exact (tight_marked h).swept swept

theorem tight_turns {maxSize count : Nat} (h : V.view.Tight C m₀)
    (hturns : Turns P C maxSize count V V') :
    V'.view.Tight C m₀ := by
  induction hturns with
  | refl V => exact h
  | head turn rest ih => exact ih (tight_turn h turn)

/-! ## The start of a life -/

theorem tight_scanned (h : V.view.Tight C m₀) : (V.scanned C).view.Tight C m₀ :=
  h.flags ..

theorem tight_resuming (h : V.view.Tight C m₀) (hleft : V.Resuming C V') :
    V'.view.Tight C m₀ := by
  induction hleft with
  | refl V => exact h
  | @head V V' n corrupt next rest ih =>
    apply ih
    apply tight_reportLoss
    exact (View.Tight.dropped (tight_scanned h)
      ⟨next.present, next.ne, next.le, next.first⟩).flags ..

theorem tight_resumed (h : V.view.Tight C m₀) (hresumed : V.Resumed C V') :
    V'.view.Tight C m₀ := by
  cases hresumed with
  | scanned left found => exact tight_scanned (tight_resuming h left)
  | spoiled left corrupt last =>
    exact (tight_reportLoss (tight_scanned (tight_resuming h left)) .recordCorrupt).flags ..

/-- The run of a bounded media leaves a number free. -/
theorem nextSequence_ne_of_bounded {o w : Sequence} (hcount : ahead o w < C.maxBlocks + 1) :
    nextSequence w ≠ o := by
  intro heq
  have hround : ahead (nextSequence w) w + 1 = 100 := ahead_next_start w
  have hmost : C.maxBlocks ≤ 98 := C.maxBlocks_le
  rw [heq] at hround
  omega

theorem history_createReports (hbounded : m₀.Bounded (C.maxBlocks + 1)) :
    History C m₀ (createReports C) := by
  have hnil : History C m₀ [] := by
    intro p hp
    rw [List.prefix_nil] at hp
    subst hp
    exact ⟨hbounded, nofun⟩
  unfold createReports
  split
  · exact hnil.concat ⟨hbounded, nofun⟩
  · exact hnil

theorem tight_opened {v : View} (hbounded : m₀.Bounded (C.maxBlocks + 1))
    (hopened : View.Opened m₀ (createReports C) v) : v.Tight C m₀ := by
  have hhistory := history_createReports hbounded
  have hreplay : replay m₀ (createReports C) = m₀ := by
    unfold createReports
    split <;> rfl
  cases hopened with
  | fresh empty =>
    have hrun : (m₀.after (.acquire 0)).IsRun 0 0 := by
      intro x
      by_cases hzero : x = 0
      · rw [hzero]
        simp [Media.after, InRun]
      · have hne : ahead 0 x ≠ 0 := fun heq => hzero (ahead_eq_zero.1 heq)
        simp [Media.after, hzero, empty, InRun, hne]
    have hafter : replay m₀ (createReports C ++ [.call (.acquire 0) true]) =
        m₀.after (.acquire 0) := by
      rw [replay_append, hreplay]
      rfl
    refine ⟨?_, ?_, ?_, hrun, ?_, ?_⟩
    · rw [List.append_cons, settled_run]
    · rw [List.append_cons, replay_append, hafter]
      rfl
    · rw [List.append_cons, lastRun_concat_run]
    · exact Nat.succ_le_succ (Nat.zero_le _)
    · exact hhistory.changed (settled_acquired ..) (by rwa [hafter]) (Nat.succ_pos _)
  | @found o w located =>
    rcases hbounded with hempty | ⟨o', w', hrun, hcount⟩
    · have hpresent := located.oldest
      rw [hempty] at hpresent
      cases hpresent
    · obtain ⟨rfl, rfl⟩ := located.same o' w' hrun (nextSequence_ne_of_bounded hcount)
      have hafter : replay m₀ (createReports C ++ [.run o w]) = m₀ := by
        rw [replay_append, hreplay]
        rfl
      refine ⟨settled_run .., hafter, lastRun_concat_run .., hrun, hcount, hhistory.concat ⟨?_, ?_⟩⟩
      · rw [hafter]
        exact .inr ⟨o, w, hrun, hcount⟩
      · rintro - o' w' hlast
        rw [lastRun_concat_run] at hlast
        cases hlast
        rwa [hafter]

theorem Created.tight (h : Created C m₀ V) (hbounded : m₀.Bounded (C.maxBlocks + 1)) :
    V.view.Tight C m₀ := by
  obtain ⟨hopened, hresumed⟩ := h
  have htight := tight_resumed (V := initial _) (tight_opened hbounded hopened) hresumed
  unfold checked
  split
  · exact htight.flags ..
  · exact htight

end StoreView

namespace BlockStore

variable {V : StoreView} {s s' : BlockStore σ} {op : Op C} {answer : Answer}

/-! ## One life -/

/-- No write starts a new block while there is one over the ceiling already. -/
def KeepsCeiling (P : Platform σ) (s : BlockStore σ) (op : Op C) : Prop :=
  ∀ message, op = .write message → s.frozen = false → 0 < message.bytes.length →
    s.seq.blockIsFull C (C.recordSize (toUint16 message.bytes.length)) = true →
    C.maxBlocks < s.seq.blockCount → (P.answer .getDiscardPolicy s.world.env).1 ≠ .oldest

/-- A write the policy refuses. -/
theorem write_refused_sees (hP : Faithful P media) (h : s.Sees media m₀ V) {data : Bytes}
    (hsome : 0 < data.length) (hfull : V.view.IsFull C (C.recordSize (toUint16 data.length)))
    (hmost : C.maxBlocks ≤ V.view.count)
    (hpolicy : (P.answer .getDiscardPolicy s.world.env).1 ≠ .oldest) :
    Ensures (write P C data) (fun _ s' => ∃ policy, s'.Sees media m₀
      ({ V with view := { V.view.traced (.call .getDiscardPolicy policy) with
        atCapacity := true } } : StoreView).reportRefusal) s := by
  have hprepare : Ensures (BlockSequence.prepareForWrite P C (C.recordSize (toUint16 data.length)))
      (fun outcome s' => outcome = (false, false) ∧ s'.Sees media m₀
        { V.view.traced (.call .getDiscardPolicy
          (P.answer .getDiscardPolicy s.world.env).1) with atCapacity := true })
      ⟨s.seq, s.world⟩ := by
    unfold BlockSequence.prepareForWrite BlockSequence.storeIsFull
    have hdecided := BlockSequence.sees_decided hP h.seq
    rw [ensures_bind, BlockSequence.ensures_seq, if_pos ((h.agrees.blockIsFull _).2 hfull),
      ensures_bind, ensures_bind, BlockSequence.ensures_seq, if_pos (by rwa [h.agrees.blockCount])]
    apply BlockSequence.ensures_ask
    rw [ensures_pure, if_pos (by simpa using hpolicy), ensures_bind,
      BlockSequence.ensures_setSeq]
    apply Ensures.bind (BlockSequence.notifyThresholdCrossed_sees hP ?_)
    · intro _ s' hs'
      exact ⟨rfl, hs'⟩
    · exact ⟨hdecided.wellFormed.flags _ _, hdecided.agrees.setAtCapacity true, hdecided.world⟩
  unfold write storeRecord
  rw [ensures_bind, ensures_get, h.frozen, if_neg Bool.false_ne_true, if_pos hsome, ensures_bind,
    ensures_onSeq]
  apply hprepare.mono
  rintro _ ⟨seq₁, world₁⟩ ⟨rfl, h₁⟩
  have hsees : Sees media m₀ { V with view := { V.view.traced (.call .getDiscardPolicy
      (P.answer .getDiscardPolicy s.world.env).1) with atCapacity := true } }
      { s with seq := seq₁, world := world₁ } :=
    ⟨h₁, h.records, h.lossReported, h.refusalReported, h.evictionReported, h.sealFailureReported,
      h.frozen⟩
  dsimp only
  apply (freezeIfDeviceFailed_sees hsees).bind
  rintro _ _ ⟨rfl, rfl⟩
  rw [if_neg Bool.false_ne_true, if_pos (by decide)]
  apply (reportRefusal_sees hP hsees).bind
  intro _ s₂ h₂
  exact ⟨_, h₂⟩

/-- The store on a tight view, or frozen with an orderly history. -/
def InOrder (C : Config) (media : σ → Media) (m₀ : Media) (s : BlockStore σ) : Prop :=
  (∃ V, V.view.Tight C m₀ ∧ V.Sound ∧ s.Sees media m₀ V) ∨
    (s.frozen = true ∧ ∃ m t, s.world.Shows media m₀ m t ∧ History C m₀ t)

theorem InOrder.history (h : s.InOrder C media m₀) :
    ∃ m t, s.world.Shows media m₀ m t ∧ History C m₀ t := by
  rcases h with ⟨V, htight, -, hs⟩ | ⟨-, hhistory⟩
  · exact ⟨_, _, hs.world, htight.history⟩
  · exact hhistory

/-- A jam on a tight view. -/
theorem inOrder_of_jammed {J : View → Prop} (h : s.Jammed P media m₀ J)
    (hJ : ∀ v, J v → v.Tight C m₀) : s.InOrder C media m₀ := by
  obtain ⟨-, hfrozen, v, hv, -, failedOperation, hw⟩ := h
  have hfailed : (v.traced (.call (.dispose v.oldest) false)).Tight C m₀ :=
    (hJ v hv).traced_call (fun _ => rfl) (by simp [settled])
  refine .inr ⟨hfrozen, _, _, hw, ?_⟩
  have hreported := (hfailed.traced_report .error .storeFrozen failedOperation).history
  rw [View.traced, View.traced, List.append_assoc] at hreported
  exact hreported

theorem inOrder_created (hP : Faithful P media) {env : σ}
    (hbounded : (media env).Bounded (C.maxBlocks + 1)) :
    (created P C env).InOrder C media (media env) := by
  rcases create_sees (C := C) hP env with ⟨V, hcreated, hs⟩ | hjammed
  · exact .inl ⟨V, hcreated.tight hbounded, hcreated.sound, hs⟩
  · apply inOrder_of_jammed hjammed
    rintro v ⟨v₀, hopened, V', hleft, rfl⟩
    exact StoreView.tight_scanned
      (StoreView.tight_resuming (StoreView.tight_opened hbounded hopened) hleft)

theorem tight_performed {V' : StoreView} (h : V.view.Tight C m₀)
    (hcount : ∀ message, op = .write message → 0 < message.bytes.length →
      V.view.IsFull C (C.recordSize (toUint16 message.bytes.length)) → V.view.count ≤ C.maxBlocks)
    (hperformed : V.Performed P op answer V') : V'.view.Tight C m₀ := by
  cases hperformed with
  | write wrote => exact StoreView.tight_wrote h (hcount _ rfl) wrote
  | read read =>
    cases read with
    | nothing done => exact h
    | found unsent turns last =>
      have hlast := StoreView.tight_turn (StoreView.tight_turns h turns) last
      unfold StoreView.settledRead
      split
      · exact StoreView.tight_handedOut hlast _
      · exact hlast
  | unfinished turns => exact StoreView.tight_turns h turns
  | markSent marked => exact StoreView.tight_mark h marked
  | hasUnsent unsent => exact h
  | isTransient => exact h

theorem tight_jamming {v : View} (h : V.view.Tight C m₀)
    (hcount : ∀ message, op = .write message → 0 < message.bytes.length →
      V.view.IsFull C (C.recordSize (toUint16 message.bytes.length)) → V.view.count ≤ C.maxBlocks)
    (hjamming : V.Jamming P op v) : v.Tight C m₀ := by
  cases hjamming with
  | write some preparing => exact h.preparing (hcount _ rfl some) preparing
  | read turns => exact StoreView.tight_turns h turns
  | markSent read => exact StoreView.tight_marked h

theorem inOrder_step (hP : Faithful P media) (h : s.InOrder C media m₀)
    (hkeeps : KeepsCeiling P s op) (hstep : Step P s op answer s') : s'.InOrder C media m₀ := by
  rcases h with ⟨V, htight, hsound, hs⟩ | ⟨hfrozen, hhistory⟩
  · by_cases hrefused : ∃ message : Message C, op = .write message ∧ 0 < message.bytes.length ∧
        V.view.IsFull C (C.recordSize (toUint16 message.bytes.length)) ∧
        C.maxBlocks < V.view.count
    · obtain ⟨message, rfl, hsome, hfull, hover⟩ := hrefused
      have hpolicy := hkeeps message rfl hs.frozen hsome ((hs.agrees.blockIsFull _).2 hfull)
        (by rwa [hs.agrees.blockCount])
      obtain ⟨fuel, hfuel⟩ := hstep
      have hwrite := write_refused_sees hP hs hsome hfull hover.le hpolicy
      have hs' : s' = (write P C message.bytes s).2 := congrArg Prod.snd hfuel.symm
      obtain ⟨policy, hsees⟩ := hwrite
      rw [← hs'] at hsees
      refine .inl ⟨_, ?_, ?_, hsees⟩
      · exact StoreView.tight_reportRefusal ((htight.decided policy).flags ..)
      · exact StoreView.Sound.reportRefusal ⟨hsound.cursor, hsound.read⟩
    · have hcount : ∀ message : Message C, op = .write message → 0 < message.bytes.length →
          V.view.IsFull C (C.recordSize (toUint16 message.bytes.length)) →
          V.view.count ≤ C.maxBlocks := by
        intro message hop hsome hfull
        by_contra hover
        exact hrefused ⟨message, hop, hsome, hfull, Nat.lt_of_not_le hover⟩
      have hroom : ∀ message, op = .write message → HasRoomFor P C V s message.bytes := by
        intro message hop hsome hfull _
        have hmost : C.maxBlocks ≤ 98 := C.maxBlocks_le
        rw [View.hasRoom_iff]
        exact Nat.lt_of_le_of_lt ((hcount message hop hsome hfull).trans hmost) (by decide)
      rcases step_sees hP hs hsound hroom hstep with ⟨V', hperformed, hs'⟩ | hjammed
      · exact .inl ⟨V', tight_performed htight hcount hperformed,
          StoreView.stable_sound.performed hsound hperformed, hs'⟩
      · exact inOrder_of_jammed hjammed fun v hv => tight_jamming htight hcount hv
  · obtain ⟨fuel, hfuel⟩ := hstep
    rw [perform_of_frozen hfrozen] at hfuel
    cases hfuel
    exact .inr ⟨hfrozen, hhistory⟩

/-! ## Life after life -/

/-- A call of the device comes next, or nothing does. -/
def BetweenCalls (rest : List Event) : Prop :=
  ∀ event, rest.head? = some event → event.isDeviceCall = true

theorem betweenCalls_nil : BetweenCalls [] :=
  fun _ h => absurd h.symm (Option.some_ne_none _)

/-- The devices that lives of the store have left, from an empty one on: each life starts the store
with `SolidSyslogBlockStore_Create`, runs it, and is cut between two calls of the device. -/
inductive Lives (P : Platform σ) (C : Config) (media : σ → Media)
    (allowed : BlockStore σ → Op C → Prop) : σ → Prop
  | empty {env : σ} (blank : ∀ x, media env x = none) : Lives P C media allowed env
  | restarted {env env' : σ} {ops : List (Op C)} {answers : List Answer} {s : BlockStore σ}
      {before rest : List Event} (earlier : Lives P C media allowed env)
      (run : Run (fun s op answer s' => allowed s op ∧ Step P s op answer s') (created P C env) ops
        answers s)
      (cut : s.world.trace = before ++ rest) (between : BetweenCalls rest)
      (same : media env' = replay (media env) before) : Lives P C media allowed env'

variable {ops : List (Op C)} {answers : List Answer} {env : σ} {before rest : List Event}

theorem inOrder_run (hP : Faithful P media) (hbounded : (media env).Bounded (C.maxBlocks + 1))
    (hrun : Run (fun s op answer s' => KeepsCeiling P s op ∧ Step P s op answer s')
      (created P C env) ops answers s) : s.InOrder C media (media env) := by
  apply hrun.invariant (D := fun _ => True) (I := fun s => s.InOrder C media (media env))
    (fun _ _ => trivial) (inOrder_created hP hbounded)
  rintro s op answer s' - h ⟨hkeeps, hstep⟩
  exact inOrder_step hP h hkeeps hstep

/-- Every moment of a life is orderly. -/
theorem orderly_cut (h : s.InOrder C media m₀) (hcut : s.world.trace = before ++ rest) :
    Orderly C m₀ (main before) := by
  obtain ⟨m, t, hw, hhistory⟩ := h.history
  apply hhistory
  rw [← hw.main_eq, hcut, main_append]
  exact List.prefix_append ..

theorem settled_cut (h : s.InOrder C media m₀) (hcut : s.world.trace = before ++ rest)
    (hbetween : BetweenCalls rest) : settled (main before) = true := by
  obtain ⟨m, t, hw, -⟩ := h.history
  cases rest with
  | nil =>
    rw [List.append_nil] at hcut
    rw [← hcut, hw.main_eq, hw.settled]
  | cons event rest =>
    have hcall := hbetween event rfl
    have hproper := hw.proper before event rest hcut
    rcases event with ⟨request, answer⟩ | _ | _ | _ | _
    · exact hproper.2.1 hcall
    all_goals cases hcall

theorem bounded_lives (hP : Faithful P media) (h : Lives P C media (KeepsCeiling P) env) :
    (media env).Bounded (C.maxBlocks + 1) := by
  induction h with
  | empty blank => exact .inl blank
  | restarted earlier run cut between same ih =>
    have horderly := orderly_cut (inOrder_run hP ih run) cut
    rw [same, ← replay_main]
    exact horderly.bounded

/-- The numbers of a run are as many as it is long. -/
theorem card_le_of_bounded {ceiling : Nat} (h : m.Bounded ceiling) :
    (Finset.univ.filter fun x => (m x).isSome = true).card ≤ ceiling := by
  rcases h with hempty | ⟨o, w, hrun, hcount⟩
  · simp [hempty]
  · have hinj : (Finset.univ.filter fun x => (m x).isSome = true).card ≤
        (Finset.range ceiling).card := by
      apply Finset.card_le_card_of_injOn (ahead o)
      · intro x hx
        have hin : ahead o x ≤ ahead o w := (hrun x).1 (by simpa using hx)
        simpa using hin.trans_lt hcount
      · intro x _ y _ heq
        exact ahead_inj.1 heq
    rwa [Finset.card_range] at hinj

theorem absent_of_bounded (h : m.Bounded (C.maxBlocks + 1)) : ∃ x, m x = none := by
  rcases h with hempty | ⟨o, w, hrun, hcount⟩
  · exact ⟨0, hempty 0⟩
  · refine ⟨nextSequence w, ?_⟩
    have hroom := StoreView.nextSequence_ne_of_bounded hcount
    have hstep : ahead o (nextSequence w) = ahead o w + 1 := ahead_next hroom
    by_contra hpresent
    have hin : ahead o (nextSequence w) ≤ ahead o w :=
      (hrun _).1 (Option.isSome_iff_ne_none.2 hpresent)
    omega

/-- A run that leaves a number free has room after it. -/
theorem hasRoom_of_absent {o w : Sequence} (hrun : m.IsRun o w) (habsent : ∃ x, m x = none) :
    nextSequence w ≠ o := by
  rintro rfl
  obtain ⟨x, hx⟩ := habsent
  have hround : ahead (nextSequence w) w + 1 = modulus := ahead_next_start w
  have hlt := ahead_lt (nextSequence w) x
  have hpresent := (hrun x).2 (by unfold InRun; omega)
  rw [hx] at hpresent
  cases hpresent

/-- The run recovered from a media that is one. -/
theorem openBlocks_recovers (hP : Faithful P media) {o w : Sequence} (hrun : (media env).IsRun o w)
    (hroom : nextSequence w ≠ o) :
    Ensures (BlockSequence.openBlocks P C) (fun opened s' => opened = true ∧
      s'.seq.oldestSequence = o ∧ s'.seq.writeSequence = w) ⟨.initial, ⟨env, []⟩⟩ := by
  have hstart : World.Shows media (media env) (media env) [] ⟨env, []⟩ :=
    ⟨⟨rfl, rfl, rfl, .nil⟩, rfl⟩
  apply (BlockSequence.openBlocks_sees hP rfl hstart rfl).mono
  rintro opened s' ⟨rfl, v, hopened, -, hs'⟩
  refine ⟨rfl, ?_⟩
  cases hopened with
  | fresh empty =>
    have hpresent := (hrun o).2 (by simp [InRun])
    rw [empty] at hpresent
    cases hpresent
  | found located =>
    obtain ⟨rfl, rfl⟩ := located.same o w hrun hroom
    exact ⟨hs'.agrees.oldestSequence, hs'.agrees.writeSequence⟩

/-- The blocks on the device are at most one over the ceiling at every moment of every life, a
number is free at the start of each, and the run each cut leaves is the one the next start finds. -/
theorem ceiling_survives_restarts (hP : Faithful P media)
    (hlives : Lives P C media (KeepsCeiling P) env)
    (hrun : Run (fun s op answer s' => KeepsCeiling P s op ∧ Step P s op answer s')
      (created P C env) ops answers s) (hcut : s.world.trace = before ++ rest) :
    (Finset.univ.filter fun x => (replay (media env) before x).isSome = true).card ≤
        C.maxBlocks + 1 ∧
      (∃ x, media env x = none) ∧
      (BetweenCalls rest → ∀ env' o w, media env' = replay (media env) before →
        lastRun before = some (o, w) →
        Ensures (BlockSequence.openBlocks P C) (fun opened s' => opened = true ∧
          s'.seq.oldestSequence = o ∧ s'.seq.writeSequence = w) ⟨.initial, ⟨env', []⟩⟩) := by
  have hbounded := bounded_lives hP hlives
  have horder := inOrder_run hP hbounded hrun
  have horderly := orderly_cut horder hcut
  refine ⟨?_, absent_of_bounded hbounded, ?_⟩
  · rw [← replay_main]
    exact card_le_of_bounded horderly.bounded
  · intro hbetween env' o w hsame hlast
    have hrun' : (media env').IsRun o w := by
      rw [hsame, ← replay_main]
      exact horderly.noted (settled_cut horder hcut hbetween) o w (by rwa [lastRun_main])
    have hbounded' := horderly.bounded
    rw [replay_main, ← hsame] at hbounded'
    exact openBlocks_recovers hP hrun' (hasRoom_of_absent hrun' (absent_of_bounded hbounded'))

/-! ## A second block over the ceiling

With two blocks of one record each and a device that disposes of nothing: the third write leaves
three blocks and freezes the store. The store started again on them fills the third, and the write
after that acquires a fourth before it finds that it cannot dispose of the first. -/

/-- A device in memory that disposes of nothing. -/
def hoardingDevice : Platform Media where
  answer
    | .dispose _, m => (false, m)
    | request, m => (ramDevice .oldest).answer request m

theorem hoardingDevice_faithful : Faithful hoardingDevice id where
  after := by
    intro request m hcovers
    cases request with
    | dispose block => rfl
    | _ => exact (ramDevice_faithful .oldest).after _ m hcovers
  acquire := fun _ _ => rfl
  blockExists := fun _ _ => rfl
  read := (ramDevice_faithful .oldest).read
  append := (ramDevice_faithful .oldest).append
  writeAt := (ramDevice_faithful .oldest).writeAt
  size := (ramDevice_faithful .oldest).size

/-- A message that fills a block of `Config.small`. -/
def fullMessage : Message .small :=
  ⟨List.replicate 64 65, by decide⟩

/-- The store after as many writes. -/
def filled (env : Media) : Nat → BlockStore Media
  | 0 => created hoardingDevice .small env
  | n + 1 => (perform hoardingDevice 0 (.write fullMessage) (filled env n)).2

/-- What a write of the message answers then. -/
def filledAnswer (env : Media) (n : Nat) : Answer :=
  (perform hoardingDevice 0 (.write fullMessage) (filled env n)).1

theorem filled_step (env : Media) (n : Nat) :
    True ∧ Step hoardingDevice (filled env n) (.write fullMessage) (filledAnswer env n)
      (filled env (n + 1)) :=
  ⟨trivial, 0, rfl⟩

/-- The media the first life leaves. -/
def hoarded : Media :=
  replay Media.empty (filled Media.empty 3).world.trace

/-- A write goes to the block it would start only within the ceiling. -/
theorem keepsCeiling_filled (env : Media) (n : Nat)
    (h : (filled env n).seq.blockIsFull .small
        (Config.small.recordSize (toUint16 fullMessage.bytes.length)) = true →
      (filled env n).seq.blockCount ≤ Config.small.maxBlocks) :
    KeepsCeiling hoardingDevice (filled env n) (.write fullMessage) := by
  rintro message ⟨rfl⟩ - - hfull hover
  exact absurd (h hfull) (Nat.not_le.2 hover)

/-- The three blocks that the failed dispose leaves are found at the next start, and the write after
it goes to the third. -/
theorem ceiling_survives_failed_dispose :
    Lives hoardingDevice .small id (KeepsCeiling hoardingDevice) hoarded ∧
    Run (fun s op answer s' => KeepsCeiling hoardingDevice s op ∧
        Step hoardingDevice s op answer s')
      (created hoardingDevice .small hoarded) [Op.write fullMessage] [.wrote .kept]
      (filled hoarded 1) ∧
    (Finset.univ.filter fun x =>
      (replay hoarded (filled hoarded 1).world.trace x).isSome = true).card ≤ 3 ∧
    Ensures (BlockSequence.openBlocks hoardingDevice .small) (fun opened s' => opened = true ∧
        s'.seq.oldestSequence = 0 ∧ s'.seq.writeSequence = 2)
      ⟨.initial, ⟨replay hoarded (filled hoarded 1).world.trace, []⟩⟩ := by
  have hfirst : Run (fun s op answer s' => KeepsCeiling hoardingDevice s op ∧
        Step hoardingDevice s op answer s') (created hoardingDevice .small Media.empty)
      [Op.write fullMessage, .write fullMessage, .write fullMessage]
      [filledAnswer Media.empty 0, filledAnswer Media.empty 1, filledAnswer Media.empty 2]
      (filled Media.empty 3) :=
    .cons ⟨keepsCeiling_filled Media.empty 0 (by decide +kernel), (filled_step Media.empty 0).2⟩
      (.cons ⟨keepsCeiling_filled Media.empty 1 (by decide +kernel), (filled_step Media.empty 1).2⟩
        (.cons ⟨keepsCeiling_filled Media.empty 2 (by decide +kernel),
          (filled_step Media.empty 2).2⟩
          (.nil _)))
  have hlives : Lives hoardingDevice .small id (KeepsCeiling hoardingDevice) hoarded :=
    .restarted (.empty fun _ => rfl) hfirst (List.append_nil _).symm betweenCalls_nil rfl
  obtain ⟨hwithin, hkept, hlast⟩ : ((filled hoarded 0).seq.blockIsFull .small
        (Config.small.recordSize (toUint16 fullMessage.bytes.length)) = true →
      (filled hoarded 0).seq.blockCount ≤ Config.small.maxBlocks) ∧
      filledAnswer hoarded 0 = .wrote .kept ∧
      lastRun (filled hoarded 1).world.trace = some (0, 2) := by
    decide +kernel
  have hsecond : Run (fun s op answer s' => KeepsCeiling hoardingDevice s op ∧
        Step hoardingDevice s op answer s') (created hoardingDevice .small hoarded)
      [Op.write fullMessage] [filledAnswer hoarded 0] (filled hoarded 1) :=
    .cons ⟨keepsCeiling_filled hoarded 0 hwithin, (filled_step hoarded 0).2⟩ (.nil _)
  obtain ⟨hceiling, -, hfound⟩ := ceiling_survives_restarts hoardingDevice_faithful hlives hsecond
    (List.append_nil _).symm
  rw [hkept] at hsecond
  exact ⟨hlives, hsecond, hceiling, hfound betweenCalls_nil _ 0 2 rfl hlast⟩

/-- Four blocks where the ceiling is two. -/
theorem second_life_exceeds_ceiling :
    Faithful hoardingDevice id ∧
    Lives hoardingDevice .small id (fun _ _ => True) hoarded ∧
    (∃ answers, Run (fun s op answer s' => True ∧ Step hoardingDevice s op answer s')
      (created hoardingDevice .small hoarded) [Op.write fullMessage, .write fullMessage] answers
      (filled hoarded 2)) ∧
    ¬ (Finset.univ.filter fun x =>
      (replay hoarded (filled hoarded 2).world.trace x).isSome = true).card ≤
        Config.small.maxBlocks + 1 := by
  refine ⟨hoardingDevice_faithful, ?_, ⟨[filledAnswer hoarded 0, filledAnswer hoarded 1], ?_⟩,
    by decide +kernel⟩
  · have hfirst : Run (fun s op answer s' => True ∧ Step hoardingDevice s op answer s')
        (created hoardingDevice .small Media.empty)
        [Op.write fullMessage, .write fullMessage, .write fullMessage]
        [filledAnswer Media.empty 0, filledAnswer Media.empty 1, filledAnswer Media.empty 2]
        (filled Media.empty 3) :=
      .cons (filled_step Media.empty 0) (.cons (filled_step Media.empty 1)
        (.cons (filled_step Media.empty 2) (.nil _)))
    exact .restarted (.empty fun _ => rfl) hfirst (List.append_nil _).symm betweenCalls_nil rfl
  · exact .cons (filled_step hoarded 0) (.cons (filled_step hoarded 1) (.nil _))

end BlockStore

end SolidSyslog.Store
