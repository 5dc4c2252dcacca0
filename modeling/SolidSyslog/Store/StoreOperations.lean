import SolidSyslog.Store.StoreView

/-!
# The operations of the store, on views

Each operation of the block store on a faithful device does to its view what `StoreView` says, or a
dispose failed and it froze.
-/

namespace SolidSyslog.Store.BlockStore

open Lib

variable {σ : Type} {P : Platform σ} {C : Config} {media : σ → Media} {m₀ : Media}
  {V : StoreView} {s : BlockStore σ}

/-! ## Small steps -/

theorem Sees.agrees (h : s.Sees media m₀ V) : s.seq.Agrees V.view :=
  h.seq.agrees

theorem Sees.world (h : s.Sees media m₀ V) :
    s.world.Shows media m₀ V.view.media V.view.trace :=
  h.seq.world

/-- A call that leaves only its mark in the main trace. -/
theorem Sees.traced_call (hP : Faithful P media) (h : s.Sees media m₀ V) {request : Request}
    (hmain : request.isMain = true) (hcovers : ∀ m : Media, m.Covers request)
    (heffect : ∀ (m : Media) answer, Event.effect m (.call request answer) = m)
    (hsettled : ∀ t answer, settled (t ++ [.call request answer]) = true)
    (hacquire : ∀ block, request ≠ .acquire block) :
    Sees media m₀ (V.traced (.call request (P.answer request s.world.env).1))
      { s with world := s.world.asked P request } := by
  have hcall := h.seq.world.call hP request hmain (hcovers _)
    (fun block _ _ heq => absurd heq (hacquire block))
  rw [heffect] at hcall
  exact ⟨⟨h.seq.wellFormed.traced_call, h.agrees.traced, hcall, hsettled _ _⟩, h.records,
    h.lossReported, h.refusalReported, h.evictionReported, h.sealFailureReported, h.frozen⟩

theorem Sees.traced_report (hP : Faithful P media) (h : s.Sees media m₀ V) (severity : Severity)
    (category : Category) (error : BlockStoreError)
    (hcategory : category ≠ .storeThresholdCrossed) :
    Sees media m₀ (V.traced (.call (.report severity category error) ()))
      { s with world := s.world.asked P (.report severity category error) } := by
  apply h.traced_call hP
  · simpa [Request.isMain] using hcategory
  · exact fun _ => trivial
  · exact fun _ _ => rfl
  · intro t answer
    simp [settled]
  · exact fun _ => (by rintro ⟨⟩)

theorem Sees.forgotten (h : s.Sees media m₀ V) :
    Sees media m₀ V.forgotten
      { s with records := { s.records with hasReadRecord := false } } := by
  refine ⟨h.seq, ?_, h.lossReported, h.refusalReported, h.evictionReported, h.sealFailureReported,
    h.frozen⟩
  rw [StoreView.forgotten, ← h.records]

theorem reportRefusal_sees (hP : Faithful P media) (h : s.Sees media m₀ V) :
    Ensures (reportRefusal P) (fun _ s' => s'.Sees media m₀ V.reportRefusal) s := by
  unfold reportRefusal StoreView.reportRefusal
  rw [ensures_bind, ensures_get, h.refusalReported]
  cases V.refusalReported with
  | true => exact h
  | false =>
    have hreport := h.traced_report hP .warning .storeRecordsLost .recordRefused (by decide)
    exact ⟨hreport.seq, hreport.records, hreport.lossReported, rfl, hreport.evictionReported,
      hreport.sealFailureReported, hreport.frozen⟩

theorem reportSealFailed_sees (hP : Faithful P media) (h : s.Sees media m₀ V) :
    Ensures (reportSealFailed P) (fun _ s' => s'.Sees media m₀ V.reportSealFailed) s := by
  unfold reportSealFailed StoreView.reportSealFailed
  rw [ensures_bind, ensures_get, h.sealFailureReported]
  cases V.sealFailureReported with
  | true => exact h
  | false =>
    have hreport := h.traced_report hP .error .storeWriteFailed .sealFailed (by decide)
    exact ⟨hreport.seq, hreport.records, hreport.lossReported, hreport.refusalReported,
      hreport.evictionReported, rfl, hreport.frozen⟩

theorem reportLoss_sees (hP : Faithful P media) (h : s.Sees media m₀ V) (fault : BlockStoreError) :
    Ensures (reportLoss P fault) (fun _ s' => s'.Sees media m₀ (V.reportLoss fault)) s := by
  unfold reportLoss StoreView.reportLoss
  rw [ensures_bind, ensures_get, h.lossReported]
  cases V.lossReported with
  | true => exact h
  | false =>
    have hreport := h.traced_report hP .error .storeRecordDiscarded fault (by decide)
    exact ⟨hreport.seq, hreport.records, rfl, hreport.refusalReported, hreport.evictionReported,
      hreport.sealFailureReported, hreport.frozen⟩

theorem reportEviction_sees (hP : Faithful P media) (h : s.Sees media m₀ V) :
    Ensures (reportEviction P) (fun _ s' => s'.Sees media m₀ V.reportEviction) s := by
  unfold reportEviction StoreView.reportEviction
  rw [ensures_bind, ensures_seqOf, h.agrees.evictedUnsent]
  cases V.view.evicted with
  | false =>
    exact ⟨h.seq, h.records, h.lossReported, h.refusalReported, rfl, h.sealFailureReported,
      h.frozen⟩
  | true =>
    simp only [Bool.not_true, Bool.false_eq_true, if_false, if_true, ensures_bind, ensures_get,
      h.evictionReported]
    cases V.evictionReported with
    | true => exact h
    | false =>
      have hreport := h.traced_report hP .warning .storeRecordsLost .blockEvicted (by decide)
      exact ⟨hreport.seq, hreport.records, hreport.lossReported, hreport.refusalReported, rfl,
        hreport.sealFailureReported, hreport.frozen⟩

/-- A jam of the sequence freezes the store. -/
theorem freezeIfDeviceFailed_jammed (hP : Faithful P media) {J : View → Prop}
    (h : SequenceState.Jammed P media m₀ J ⟨s.seq, s.world⟩) :
    Ensures (freezeIfDeviceFailed P) (fun failed s' => failed = true ∧
      s'.Jammed P media m₀ J ∧ s'.seq = s.seq) s := by
  obtain ⟨halways, hfailed, v, hv, hwf, hw⟩ := h
  apply ensures_freezeIfDeviceFailed
  · intro _
    rw [ensures_freeze]
    refine ⟨rfl, ⟨halways, rfl, v, hv, hwf, s.seq.failedOperation, ?_⟩, rfl⟩
    have hcall := hw.call hP (.report .error .storeFrozen s.seq.failedOperation) rfl trivial nofun
    rw [List.append_assoc] at hcall
    refine ⟨hcall, ?_⟩
    rw [List.append_cons]
    simp [settled]
  · intro hfine
    rw [hfailed] at hfine
    cases hfine

theorem freezeIfDeviceFailed_sees (h : s.Sees media m₀ V) :
    Ensures (freezeIfDeviceFailed P) (fun failed s' => failed = false ∧ s' = s) s := by
  apply ensures_freezeIfDeviceFailed
  · intro hfailed
    rw [h.agrees.deviceFailed] at hfailed
    cases hfailed
  · intro _
    exact ⟨rfl, rfl⟩

/-! ## Reading -/

theorem readNextBlockIfBehind_sees (hP : Faithful P media) (h : s.Sees media m₀ V) :
    Ensures (readNextBlockIfBehind P C) (fun movedOn s' =>
      (movedOn = true ∧ ∃ n, V.view.Next n ∧ s'.Sees media m₀ (V.left n)) ∨
      (movedOn = false ∧ V.view.oldest = V.view.write ∧ s' = s) ∨
      (movedOn = false ∧ s'.Jammed P media m₀ (· = V.view) ∧ s'.seq.deviceFailed = true)) s := by
  unfold readNextBlockIfBehind
  rw [ensures_bind, ensures_seqOf]
  apply Ensures.ite
  · intro hbehind
    have hne := h.agrees.readIsBehindWrite.1 hbehind
    rw [ensures_bind, ensures_onSeq]
    apply (BlockSequence.disposeReadBlock_sees hP h.seq hne).mono
    rintro _ ⟨seq₁, world₁⟩ (⟨-, n, hn, h₁⟩ | ⟨-, hjammed⟩)
    · rw [ensures_bind, ensures_forgetLastRead]
      have hleft : Sees media m₀ (V.left n)
          { s with
            seq := seq₁
            world := world₁
            records := { s.records with hasReadRecord := false } } := by
        refine ⟨h₁, ?_, h.lossReported, h.refusalReported, h.evictionReported,
          h.sealFailureReported, h.frozen⟩
        rw [StoreView.left, StoreView.forgotten, ← h.records]
      apply (freezeIfDeviceFailed_sees hleft).bind
      rintro _ _ ⟨rfl, rfl⟩
      exact .inl ⟨rfl, n, hn, hleft⟩
    · rw [ensures_bind, ensures_forgetLastRead]
      apply (freezeIfDeviceFailed_jammed hP hjammed).bind
      rintro _ s' ⟨rfl, hjammed', hseq⟩
      exact .inr (.inr ⟨rfl, hjammed',
        (congrArg BlockSequence.deviceFailed hseq).trans hjammed.2.1⟩)
  · intro hbehind
    rw [h.agrees.readIsBehindWrite, not_not] at hbehind
    exact .inr (.inl ⟨rfl, hbehind, rfl⟩)

theorem abandonRestOfReadBlock_sees (hP : Faithful P media) (h : s.Sees media m₀ V) :
    Ensures (abandonRestOfReadBlock P C) (fun movedOn s' =>
      (movedOn = true ∧ ∃ n, V.view.Next n ∧
        s'.Sees media m₀ ((V.left n).reportLoss .recordCorrupt)) ∨
      (movedOn = false ∧ V.view.oldest = V.view.write ∧ s'.Sees media m₀ V.spoiled) ∨
      (movedOn = false ∧ s'.Jammed P media m₀ (· = V.view) ∧ s'.seq.deviceFailed = true)) s := by
  unfold abandonRestOfReadBlock
  apply (readNextBlockIfBehind_sees hP h).bind
  rintro _ s₁ (⟨rfl, n, hn, h₁⟩ | ⟨rfl, heq, rfl⟩ | ⟨rfl, hjammed, hfailed⟩)
  · rw [ensures_bind, ensures_seqOf, h₁.agrees.deviceFailed]
    apply (reportLoss_sees hP h₁ .recordCorrupt).bind
    intro _ s₂ h₂
    exact .inl ⟨rfl, n, hn, h₂⟩
  · rw [ensures_bind, ensures_seqOf, h.agrees.deviceFailed]
    apply (reportLoss_sees hP h .recordCorrupt).bind
    intro _ s₂ h₂
    refine .inr (.inl ⟨rfl, heq, ⟨?_, ?_, ?_⟩, h₂.records, h₂.lossReported, h₂.refusalReported,
      h₂.evictionReported, h₂.sealFailureReported, h₂.frozen⟩)
    · have hwf := h₂.seq.wellFormed
      exact ⟨hwf.oldest_present, hwf.write_present, hwf.inside, hwf.noted⟩
    · have hposition : s₂.seq.writePosition = V.view.writeSize := by
        rw [h₂.agrees.writePosition_eq, StoreView.reportLoss]
        split <;> rfl
      have hagrees := (h₂.agrees.setCursor s₂.seq.writePosition).markCorrupt
      rw [hposition] at hagrees
      change BlockSequence.Agrees _
        (s₂.seq.setReadCursor s₂.seq.writePosition).markWriteBlockCorrupt
      rw [hposition]
      exact hagrees
    · exact h₂.seq.world
  · rw [ensures_bind, ensures_seqOf, hfailed]
    exact .inr (.inr ⟨rfl, hjammed, hfailed⟩)

theorem readCurrent_sees (hP : Faithful P media) (h : s.Sees media m₀ V) {maxSize : Nat} :
    Ensures (readCurrent P C maxSize) (fun found s' =>
      ReadAt P C V.readContent V.view.cursor maxSize found ∧
      s'.Sees media m₀ { V with
        records := RecordStore.remembered C V.view.oldest V.view.cursor found V.records }) s := by
  unfold readCurrent
  obtain ⟨content, hcontent⟩ := Option.isSome_iff_exists.1 h.seq.wellFormed.oldest_present
  have hread : V.readContent = content := by rw [StoreView.readContent, hcontent]; rfl
  rw [ensures_bind, ensures_onSeq]
  apply (BlockSequence.readBlockSizeOf_sees hP h.seq).mono
  rintro _ ⟨seq₁, world₁⟩ ⟨rfl, h₁⟩
  rw [hcontent, Option.map_some]
  dsimp only
  rw [ensures_bind, ensures_seqOf, ensures_onRecords]
  have holdest : seq₁.readSequence = V.view.oldest := h₁.agrees.readSequence
  have hcursor : seq₁.readCursor = V.view.cursor := h₁.agrees.readCursor
  dsimp only
  rw [holdest, hcursor, h.records, hread]
  apply (RecordStore.read_shows hP h₁.world hcontent).mono
  rintro found ⟨records', world'⟩ ⟨hfound, rfl, hw'⟩
  exact ⟨hfound, ⟨h₁.wellFormed, h₁.agrees, hw'⟩, rfl, h.lossReported, h.refusalReported,
    h.evictionReported, h.sealFailureReported, h.frozen⟩

/-- The record just remembered is stepped past. -/
theorem stepPastCurrent_sees {length : Nat} (h : s.Sees media m₀ (V.remembered C length)) :
    Ensures stepPastCurrent (fun goesOn s' => goesOn = true ∧
      s'.Sees media m₀ (V.passed C length)) s := by
  have hcursor : s.records.lastSentFlagOffset + 1 = V.view.cursor + C.recordSize length := by
    rw [h.records]
    exact C.sentFlagOffset_succ ..
  unfold stepPastCurrent
  refine ⟨rfl, ⟨?_, ?_, h.world⟩, ?_, h.lossReported, h.refusalReported, h.evictionReported,
    h.sealFailureReported, h.frozen⟩
  · have hwf := h.seq.wellFormed
    exact ⟨hwf.oldest_present, hwf.write_present, hwf.inside, hwf.noted⟩
  · change BlockSequence.Agrees _ (s.seq.setReadCursor (s.records.lastSentFlagOffset + 1))
    rw [hcursor]
    exact h.agrees.setCursor _
  · change ({ s.records with hasReadRecord := false } : RecordStore) = _
    rw [h.records]
    rfl

theorem note_steppedPast_sees (h : s.Sees media m₀ V) {length : Nat} :
    Sees media m₀ (V.traced (.steppedPast V.view.oldest V.view.cursor length))
      { s with
        world := s.world.noted (.steppedPast s.seq.readSequence s.seq.readCursor length) } := by
  rw [h.agrees.readSequence, h.agrees.readCursor]
  have hwf := h.seq.wellFormed
  refine ⟨⟨⟨hwf.oldest_present, hwf.write_present, hwf.inside, ?_⟩, h.agrees.traced,
    h.world.toKept.noted_steppedPast ..⟩, h.records, h.lossReported, h.refusalReported,
    h.evictionReported, h.sealFailureReported, h.frozen⟩
  rw [StoreView.traced, View.traced, lastRun_concat_steppedPast]
  exact hwf.noted

/-- Reporting a loss and remembering a record commute. -/
theorem reportLoss_remembered (V : StoreView) (fault : BlockStoreError) (length : Nat) :
    (V.remembered C length).reportLoss fault = (V.reportLoss fault).remembered C length := by
  unfold StoreView.reportLoss
  rw [show (V.remembered C length).lossReported = V.lossReported from rfl]
  split <;> rfl

theorem stepPast_sees (hP : Faithful P media) {found : RecordStore.Found} {maxSize : Nat}
    (hread : ReadAt P C V.readContent V.view.cursor maxSize found)
    (h : s.Sees media m₀ { V with
      records := RecordStore.remembered C V.view.oldest V.view.cursor found V.records }) :
    Ensures (stepPast P C found) (fun goesOn s' =>
      (∃ V', V.Turn P C maxSize found goesOn V' ∧ s'.Sees media m₀ V') ∨
      (goesOn = false ∧ s'.Jammed P media m₀ (· = V.view) ∧ found.result ≠ .deviceFailed ∧
        found.result ≠ .succeeded ∧ found.bytes = [])) s := by
  unfold stepPast
  cases hread with
  | endOfData extent =>
    apply (readNextBlockIfBehind_sees hP h).mono
    rintro _ s' (⟨rfl, n, hn, h'⟩ | ⟨rfl, heq, rfl⟩ | ⟨rfl, hjammed, -⟩)
    · exact .inl ⟨_, .moved (.endOfData extent) rfl hn, h'⟩
    · exact .inl ⟨_, .exhausted (.endOfData extent) rfl heq, h⟩
    · exact .inr ⟨rfl, hjammed, nofun, nofun, rfl⟩
  | corrupt extent =>
    apply (abandonRestOfReadBlock_sees hP h).mono
    rintro _ s' (⟨rfl, n, hn, h'⟩ | ⟨rfl, heq, h'⟩ | ⟨rfl, hjammed, -⟩)
    · exact .inl ⟨_, .abandoned (.corrupt extent) rfl hn, h'⟩
    · exact .inl ⟨_, .spoiled (.corrupt extent) rfl heq, h'⟩
    · exact .inr ⟨rfl, hjammed, nofun, nofun, rfl⟩
  | finishedWith extent flag =>
    apply (stepPastCurrent_sees h).mono
    rintro _ s' ⟨rfl, h'⟩
    exact .inl ⟨_, .finishedWith (.finishedWith extent flag) rfl, h'⟩
  | rejected extent flag verdict =>
    dsimp only
    rw [ensures_bind, ensures_seqOf, ensures_bind, ensures_seqOf, ensures_bind, ensures_note]
    unfold stepPastRejected
    apply (reportLoss_sees hP (note_steppedPast_sees h) .recordRejected).bind
    intro _ s₁ h₁
    apply Ensures.mono (stepPastCurrent_sees ?_)
    · rintro _ s' ⟨rfl, h'⟩
      exact .inl ⟨_, .rejected (.rejected extent flag verdict) rfl, h'⟩
    · rw [← reportLoss_remembered]
      exact h₁
  | opened extent flag verdict =>
    dsimp only
    rw [ensures_pure]
    exact .inl ⟨_, .succeeded (.opened extent flag verdict) rfl, h⟩
  | couldNotOpen extent flag verdict =>
    dsimp only
    rw [ensures_pure]
    exact .inl ⟨_, .couldNotOpen (.couldNotOpen extent flag verdict) rfl, h⟩

/-- The views a read may jam on. -/
def Reading (P : Platform σ) (C : Config) (maxSize : Nat) (V : StoreView) (v : View) : Prop :=
  ∃ count V', StoreView.Turns P C maxSize count V V' ∧ v = V'.view

theorem readLoop_sees (hP : Faithful P media) (h : s.Sees media m₀ V) {maxSize fuel : Nat} :
    Ensures (readLoop P C maxSize fuel) (fun outcome s' =>
      (outcome = none ∧ ∃ V', StoreView.Turns P C maxSize fuel V V' ∧ s'.Sees media m₀ V') ∨
      (∃ found count V₁ V', outcome = some found ∧ StoreView.Turns P C maxSize count V V₁ ∧
        V₁.Turn P C maxSize found false V' ∧ s'.Sees media m₀ V') ∨
      ∃ found, outcome = some found ∧ found.result ≠ .deviceFailed ∧
        found.result ≠ .succeeded ∧ found.bytes = [] ∧
        s'.Jammed P media m₀ (Reading P C maxSize V)) s := by
  induction fuel generalizing V s with
  | zero => exact .inl ⟨rfl, V, .refl V, h⟩
  | succ fuel ih =>
    unfold readLoop
    apply (readCurrent_sees hP h).bind
    rintro found s₁ ⟨hread, h₁⟩
    apply (stepPast_sees hP hread h₁).bind
    rintro goesOn s₂ (⟨V₂, hturn, h₂⟩ | ⟨rfl, ⟨halways, hfrozen, v, rfl, hv⟩, hfine, hnot, hbytes⟩)
    · cases goesOn with
      | true =>
        rw [if_pos rfl]
        apply (ih h₂).mono
        rintro outcome s' (⟨rfl, V', hturns, h'⟩ | ⟨found', count, V₁, V', rfl, hturns, hlast, h'⟩ |
          ⟨found', rfl, hfine, hnot, hbytes, halways, hfrozen, v, ⟨count, V', hturns, rfl⟩, hv⟩)
        · exact .inl ⟨rfl, V', .head hturn hturns, h'⟩
        · exact .inr (.inl ⟨found', _, V₁, V', rfl, .head hturn hturns, hlast, h'⟩)
        · exact .inr (.inr ⟨found', rfl, hfine, hnot, hbytes, halways, hfrozen, _,
            ⟨_, V', .head hturn hturns, rfl⟩, hv⟩)
      | false =>
        exact .inr (.inl ⟨found, 0, V, V₂, rfl, .refl V, hturn, h₂⟩)
    · exact .inr (.inr ⟨found, rfl, hfine, hnot, hbytes, halways, hfrozen, _, ⟨0, V, .refl V, rfl⟩,
        hv⟩)

/-- A turn never ends on a device failure. -/
theorem turn_result {V' : StoreView} {found : RecordStore.Found} {maxSize : Nat} {goesOn : Bool}
    (h : V.Turn P C maxSize found goesOn V') : found.result ≠ .deviceFailed := by
  cases h <;> simp_all

theorem settleRead_sees (h : s.Sees media m₀ V) {found : RecordStore.Found}
    (hresult : found.result ≠ .deviceFailed) :
    Ensures (settleRead P found) (fun _ s' => s'.Sees media m₀ (V.settledRead found)) s := by
  unfold settleRead StoreView.settledRead
  cases hcase : found.result with
  | deviceFailed => exact absurd hcase hresult
  | succeeded =>
    dsimp only
    rw [if_pos rfl, ensures_bind, ensures_seqOf, ensures_bind, ensures_seqOf, ensures_bind,
      ensures_note, ensures_modify, h.agrees.readSequence, h.agrees.readCursor]
    have hwf := h.seq.wellFormed
    refine ⟨⟨⟨hwf.oldest_present, hwf.write_present, hwf.inside, ?_⟩, h.agrees.traced,
      h.world.toKept.noted_handedOut ..⟩, h.records, rfl, h.refusalReported,
      h.evictionReported, h.sealFailureReported, h.frozen⟩
    rw [StoreView.handedOut, StoreView.traced, View.traced, lastRun_concat_handedOut]
    exact hwf.noted
  | _ => exact h

theorem Sees.hasUnsent_iff (h : s.Sees media m₀ V) : s.seq.hasUnsent = true ↔ V.HasUnsent := by
  rw [BlockSequence.hasUnsent, Bool.or_eq_true, h.agrees.readIsBehindWrite, decide_eq_true_iff,
    h.agrees.readCursor, h.agrees.writePosition_eq]
  rfl

theorem readNextUnsent_sees (hP : Faithful P media) (h : s.Sees media m₀ V) {maxSize fuel : Nat} :
    Ensures (readNextUnsent P C fuel maxSize) (fun outcome s' =>
      (outcome = none ∧ ∃ V', V.HasUnsent ∧ StoreView.Turns P C maxSize fuel V V' ∧
        s'.Sees media m₀ V') ∨
      (∃ bytes V', outcome = some bytes ∧ V.Read P C maxSize bytes V' ∧ s'.Sees media m₀ V') ∨
      (outcome = some none ∧ s'.Jammed P media m₀ (Reading P C maxSize V))) s := by
  unfold readNextUnsent
  rw [ensures_bind, ensures_get, h.frozen, if_neg Bool.false_ne_true, ensures_bind, ensures_seqOf]
  apply Ensures.ite
  · intro hunsent
    rw [h.hasUnsent_iff] at hunsent
    apply (readLoop_sees hP h).bind
    rintro _ s₁ (⟨rfl, V', hturns, h'⟩ | ⟨found, count, V₁, V', rfl, hturns, hlast, h'⟩ |
      ⟨found, rfl, hfine, hnot, hbytes, hjammed⟩)
    · exact .inl ⟨rfl, V', hunsent, hturns, h'⟩
    · dsimp only
      apply (settleRead_sees h' (turn_result hlast)).bind
      intro _ s₂ h₂
      exact .inr (.inl ⟨_, _, rfl, .found hunsent hturns hlast, h₂⟩)
    · dsimp only
      have hquiet : Ensures (settleRead P found) (fun _ s' => s' = s₁) s₁ := by
        unfold settleRead
        cases hcase : found.result with
        | deviceFailed => exact absurd hcase hfine
        | succeeded => exact absurd hcase hnot
        | _ => rfl
      apply hquiet.bind
      rintro _ _ rfl
      refine .inr (.inr ⟨?_, hjammed⟩)
      rw [hbytes]
      rfl
  · intro hdone
    rw [h.hasUnsent_iff] at hdone
    exact .inr (.inl ⟨none, V, rfl, .nothing hdone, h⟩)

/-! ## Writing -/

theorem length_recordBytes {data : Bytes} (sealedContent trailer : Bytes)
    (hdata : data.length ≤ 65535) :
    (RecordStore.recordBytes C data sealedContent trailer).length =
      C.recordSize (toUint16 data.length) := by
  rw [toUint16_of_le hdata]
  simp only [RecordStore.recordBytes, List.length_append, length_fit, header, List.length_cons,
    List.length_nil, Config.recordSize]

theorem appendRecord_sees (hP : Faithful P media) (h : s.Sees media m₀ V) {data : Bytes}
    (hdata : data.length ≤ 65535) :
    Ensures (appendRecord P C (C.recordSize (toUint16 data.length)) data) (fun result s' =>
      (result = .lost ∧ s'.Sees media m₀
        (V.traced (.call (.sealRecord (header (toUint16 data.length) ++ data))
          none)).reportSealFailed) ∨
      (result = .kept ∧ ∃ sealedContent trailer env,
        (P.answer (.sealRecord (header (toUint16 data.length) ++ data)) env).1 =
          some (sealedContent, trailer) ∧
        s'.Sees media m₀ ((V.traced (.call (.sealRecord (header (toUint16 data.length) ++ data))
          (some (sealedContent, trailer)))).kept
          (RecordStore.recordBytes C data sealedContent trailer)))) s := by
  unfold appendRecord
  rw [ensures_bind, ensures_seqOf, ensures_bind, ensures_onRecords, h.agrees.writeSequence]
  apply (RecordStore.append_shows hP h.world h.seq.wellFormed.write_present data).mono
  rintro _ ⟨_, world₁⟩ ⟨rfl, ⟨rfl, hw₁⟩ | ⟨rfl, sealedContent, trailer, env, hseal, hw₁⟩⟩
  · have h₁ : Sees media m₀ (V.traced (.call (.sealRecord (header (toUint16 data.length) ++ data))
        none)) { s with world := world₁ } :=
      ⟨⟨h.seq.wellFormed.traced_call, h.agrees.traced, hw₁⟩, h.records, h.lossReported,
        h.refusalReported, h.evictionReported, h.sealFailureReported, h.frozen⟩
    apply (reportSealFailed_sees hP h₁).bind
    intro _ s₂ h₂
    exact .inl ⟨rfl, h₂⟩
  · unfold settleAppend
    rw [ensures_bind, ensures_onSeq, ← length_recordBytes sealedContent trailer hdata]
    have hwf : (V.view.traced (.call (.sealRecord (header (toUint16 data.length) ++ data))
        (some (sealedContent, trailer)))).WellFormed := h.seq.wellFormed.traced_call
    apply (BlockSequence.noteRecordWritten_sees hP hwf h.agrees.traced ?_).mono
    · rintro _ ⟨seq₂, world₂⟩ h₂
      exact .inr ⟨rfl, sealedContent, trailer, env, hseal, h₂, h.records, h.lossReported, rfl,
        h.evictionReported, rfl, h.frozen⟩
    · rw [View.appended, View.traced, List.append_assoc]
      exact hw₁

/-- A write does not start a new block on a number of the run. -/
def HasRoomFor (P : Platform σ) (C : Config) (V : StoreView) (s : BlockStore σ) (data : Bytes) :
    Prop :=
  0 < data.length → V.view.IsFull C (C.recordSize (toUint16 data.length)) →
    (P.answer .getDiscardPolicy s.world.env).1 = .oldest → V.view.HasRoom

theorem storeRecord_sees (hP : Faithful P media) (h : s.Sees media m₀ V) {data : Bytes}
    (hsome : 0 < data.length) (hdata : data.length ≤ 65535) (hroom : HasRoomFor P C V s data) :
    Ensures (storeRecord P C data) (fun result s' =>
      (∃ V', V.Wrote P C data result V' ∧ s'.Sees media m₀ V') ∨
      (result = .notRetained ∧ s'.Jammed P media m₀
        (V.view.Preparing C (C.recordSize (toUint16 data.length))))) s := by
  unfold storeRecord
  rw [ensures_bind, ensures_onSeq]
  apply (BlockSequence.prepareForWrite_sees hP h.seq (hroom hsome)).mono
  rintro ⟨prepared, changed⟩ ⟨seq₁, world₁⟩ (⟨v', hprepared, h₁⟩ | hjammed)
  · have hsees : Sees media m₀ { V with view := v' } { s with seq := seq₁, world := world₁ } :=
      ⟨h₁, h.records, h.lossReported, h.refusalReported, h.evictionReported,
        h.sealFailureReported, h.frozen⟩
    dsimp only
    apply (freezeIfDeviceFailed_sees hsees).bind
    rintro _ _ ⟨rfl, rfl⟩
    rw [if_neg Bool.false_ne_true]
    cases prepared with
    | false =>
      rw [if_pos (by decide)]
      apply (reportRefusal_sees hP hsees).bind
      intro _ s₂ h₂
      exact .inl ⟨_, .refused hsome hprepared, h₂⟩
    | true =>
      rw [if_neg (by decide)]
      apply (reportEviction_sees hP hsees).bind
      intro _ s₂ h₂
      have happend : ∀ s₃ : BlockStore σ, s₃.Sees media m₀ (V.readied v' changed) →
          Ensures (appendRecord P C (C.recordSize (toUint16 data.length)) data)
            (fun result s' => ∃ V', V.Wrote P C data result V' ∧ s'.Sees media m₀ V') s₃ := by
        intro s₃ h₃
        apply (appendRecord_sees hP h₃ hdata).mono
        rintro _ s' (⟨rfl, h'⟩ | ⟨rfl, sealedContent, trailer, env, hseal, h'⟩)
        · exact ⟨_, .lost hsome hprepared, h'⟩
        · exact ⟨_, .kept hsome hprepared hseal, h'⟩
      cases changed with
      | true =>
        rw [if_pos rfl, ensures_bind, ensures_forgetLastRead]
        exact (happend _ h₂.forgotten).mono fun _ _ h' => .inl h'
      | false =>
        rw [if_neg Bool.false_ne_true]
        exact (happend _ h₂).mono fun _ _ h' => .inl h'
  · dsimp only
    apply Ensures.bind (freezeIfDeviceFailed_jammed hP hjammed)
    rintro _ s' ⟨rfl, hjammed', -⟩
    exact .inr ⟨rfl, hjammed'⟩

theorem write_sees (hP : Faithful P media) (h : s.Sees media m₀ V) {data : Bytes}
    (hdata : data.length ≤ 65535) (hroom : HasRoomFor P C V s data) :
    Ensures (write P C data) (fun result s' =>
      (∃ V', V.Wrote P C data result V' ∧ s'.Sees media m₀ V') ∨
      (0 < data.length ∧ s'.Jammed P media m₀
        (V.view.Preparing C (C.recordSize (toUint16 data.length))))) s := by
  unfold write
  rw [ensures_bind, ensures_get, h.frozen, if_neg Bool.false_ne_true]
  apply Ensures.ite
  · intro hsome
    apply (storeRecord_sees hP h hsome hdata hroom).mono
    rintro result s' (hwrote | ⟨-, hjammed⟩)
    · exact .inl hwrote
    · exact .inr ⟨hsome, hjammed⟩
  · intro hempty
    exact .inl ⟨V, .empty (by simpa using hempty), h⟩

/-! ## Marking -/

/-- The flag written, the cursor is still to move. -/
theorem agrees_marked {b : BlockSequence} (ha : b.Agrees V.view) {block : Sequence} {offset : Nat}
    (hcovers : V.view.media.Covers (.writeAt block offset [sentFlagSent])) :
    b.Agrees { V.view with
      media := V.view.media.after (.writeAt block offset [sentFlagSent])
      trace := V.view.trace ++ [.call (.writeAt block offset [sentFlagSent]) true] } := by
  obtain ⟨content, hcontent, hle⟩ := hcovers
  have hlength : ∀ x, (V.view.media.after (.writeAt block offset [sentFlagSent]) x).map
      List.length = (V.view.media x).map List.length := by
    intro x
    by_cases hx : x = block
    · simp [Media.after, hx, hcontent, length_overwrite hle]
    · simp [Media.after, hx]
  refine ⟨ha.oldestSequence, ha.readSequence, ha.writeSequence, ha.readCursor,
    ha.writeBlockCorrupt, ha.atCapacity, ha.evictedUnsent, ha.deviceFailed,
    (hlength _).trans ha.writePosition, ?_, ?_⟩
  · intro x hx
    rw [ha.blockPresent x hx]
    exact (View.isSome_after_writeAt ..).symm
  · intro hknown
    obtain ⟨hne, hsize⟩ := ha.readBlockSize hknown
    exact ⟨hne, (hlength _).trans hsize⟩

theorem covers_mark (h : s.Sees media m₀ V) (hV : V.Sound)
    (hread : V.records.hasReadRecord = true) : V.view.media.Covers
      (.writeAt V.records.lastReadBlockIndex V.records.lastSentFlagOffset [sentFlagSent]) := by
  obtain ⟨hblock, hoffset⟩ := hV.read hread
  obtain ⟨content, hcontent⟩ := Option.isSome_iff_exists.1 h.seq.wellFormed.oldest_present
  refine ⟨content, by rw [hblock, hcontent], ?_⟩
  rw [View.readSize, hcontent] at hoffset
  exact hoffset

theorem markSent_sees (hP : Faithful P media) (h : s.Sees media m₀ V) (hV : V.Sound) :
    Ensures (markSent P C) (fun _ s' => (∃ V', V.Marked V' ∧ s'.Sees media m₀ V') ∨
      s'.Jammed P media m₀ (fun v => V.records.hasReadRecord = true ∧ v = V.marked.view)) s := by
  unfold markSent
  rw [ensures_bind, ensures_get, h.frozen, if_neg Bool.false_ne_true, ensures_bind,
    ensures_onRecords, h.records]
  apply (RecordStore.markLastReadAsSent_shows hP h.world (covers_mark h hV)).mono
  rintro _ ⟨records₁, world₁⟩ (⟨hunread, rfl, rfl, hw₁⟩ | ⟨hread, rfl, rfl, hw₁⟩)
  · exact .inl ⟨V, .nothing hunread, ⟨h.seq.wellFormed, h.agrees, hw₁⟩, rfl, h.lossReported,
      h.refusalReported, h.evictionReported, h.sealFailureReported, h.frozen⟩
  · dsimp only
    rw [ensures_bind, ensures_modify, ensures_bind, ensures_onSeq]
    have hseq : SequenceState.Sees media m₀ V.marked.view
        ⟨s.seq.setReadCursor (V.records.lastSentFlagOffset + 1), world₁⟩ := by
      have hwf := h.seq.wellFormed
      refine ⟨⟨?_, ?_, ?_, ?_⟩, ?_, hw₁⟩
      · exact (View.isSome_after_writeAt ..).trans hwf.oldest_present
      · exact (View.isSome_after_writeAt ..).trans hwf.write_present
      · intro x hx
        exact hwf.inside x ((View.isSome_after_writeAt ..).symm.trans hx)
      · rw [StoreView.marked, lastRun_concat_call]
        exact hwf.noted
      · exact (agrees_marked h.agrees (covers_mark h hV hread)).setCursor _
    apply (BlockSequence.disposeReadBlockIfDrained_sees hP hseq).mono
    rintro changed ⟨seq₂, world₂⟩ (⟨v', hswept, h₂⟩ | hjammed)
    · have hsees : Sees media m₀ { V.marked with view := v' }
          { s with
            seq := seq₂
            records := { V.records with hasReadRecord := false }
            world := world₂ } :=
        ⟨h₂, rfl, h.lossReported, h.refusalReported, h.evictionReported, h.sealFailureReported,
          h.frozen⟩
      apply (freezeIfDeviceFailed_sees hsees).bind
      rintro _ _ ⟨rfl, rfl⟩
      cases changed with
      | true => exact .inl ⟨_, .marked hread hswept, hsees⟩
      | false => exact .inl ⟨_, .marked hread hswept, hsees⟩
    · obtain ⟨halways, hfailed, v, rfl, hv⟩ := hjammed
      apply Ensures.bind (freezeIfDeviceFailed_jammed hP (J := fun v =>
        V.records.hasReadRecord = true ∧ v = V.marked.view)
        ⟨halways, hfailed, _, ⟨hread, rfl⟩, hv⟩)
      rintro _ s' ⟨rfl, hjammed', -⟩
      exact .inr hjammed'

/-! ## Starting -/

theorem firstUnsent_ne_deviceFailed (content : Bytes) (cursor fuel : Nat) :
    (C.firstUnsent content cursor fuel).2 ≠ .deviceFailed := by
  induction fuel generalizing cursor with
  | zero => rintro ⟨⟩
  | succ fuel ih =>
    unfold Config.firstUnsent
    cases hextent : C.extentAt content cursor with
    | error result => rcases C.extentAt_error hextent with ⟨rfl, -⟩ | ⟨rfl, -⟩ <;> rintro ⟨⟩
    | ok length =>
      dsimp only
      split
      · exact ih _
      · rintro ⟨⟩

theorem scanReadBlock_sees (hP : Faithful P media) (h : s.Sees media m₀ V) :
    Ensures (scanReadBlock P C) (fun result s' => result = V.scanResult C ∧
      s'.Sees media m₀ (V.scanned C)) s := by
  unfold scanReadBlock
  obtain ⟨content, hcontent⟩ := Option.isSome_iff_exists.1 h.seq.wellFormed.oldest_present
  have hread : V.readContent = content := by rw [StoreView.readContent, hcontent]; rfl
  rw [ensures_bind, ensures_onSeq]
  apply (BlockSequence.readBlockSizeOf_sees hP h.seq).mono
  rintro _ ⟨seq₁, world₁⟩ ⟨rfl, h₁⟩
  rw [hcontent, Option.map_some]
  dsimp only
  have holdest : seq₁.readSequence = V.view.oldest := h₁.agrees.readSequence
  rw [ensures_bind, ensures_seqOf, ensures_bind, ensures_onRecords]
  dsimp only
  rw [holdest, h.records]
  apply (RecordStore.findFirstUnsentLoop_shows hP hcontent h₁.world).mono
  rintro ⟨cursor, scanned⟩ ⟨_, world₂⟩ ⟨houtcome, rfl, hw₂⟩
  have hresult : scanned = V.scanResult C := by rw [StoreView.scanResult, hread, ← houtcome]
  have hne : scanned ≠ .deviceFailed := hresult ▸ firstUnsent_ne_deviceFailed _ _ _
  dsimp only
  rw [ensures_bind, ensures_modify, if_neg (by simpa using hne), ensures_pure]
  have hwf := h₁.wellFormed
  refine ⟨hresult, ⟨⟨hwf.oldest_present, hwf.write_present, hwf.inside, hwf.noted⟩, ?_, hw₂⟩, rfl,
    h.lossReported, h.refusalReported, h.evictionReported, h.sealFailureReported, h.frozen⟩
  rw [StoreView.scanned, hread, ← houtcome]
  exact h₁.agrees.setCursor cursor

/-- The next block is nearer the end of the run. -/
theorem ahead_next_lt {v : View} {n : Sequence} (hn : v.Next n) :
    ahead n v.write < ahead v.oldest v.write := by
  have hadd := ahead_add v.oldest n v.write
  have hpos : ahead v.oldest n ≠ 0 := fun hzero => hn.ne (ahead_eq_zero.1 hzero)
  have hle : ahead v.oldest n ≤ ahead v.oldest v.write := hn.le
  have hlt := ahead_lt n v.write
  omega

/-- The views the resume may jam on. -/
def ResumeJam (C : Config) (V : StoreView) (v : View) : Prop :=
  ∃ V', V.Resuming C V' ∧ v = (V'.scanned C).view

theorem view_reportLoss (V : StoreView) (fault : BlockStoreError) :
    (V.reportLoss fault).view.oldest = V.view.oldest ∧
      (V.reportLoss fault).view.write = V.view.write := by
  unfold StoreView.reportLoss
  split <;> exact ⟨rfl, rfl⟩

theorem resumeLoop_sees (hP : Faithful P media) {fuel : Nat} (h : s.Sees media m₀ V)
    (hfuel : ahead V.view.oldest V.view.write < fuel) :
    Ensures (resumeLoop P C fuel) (fun result s' =>
      (result ≠ .deviceFailed ∧ ∃ V', V.Resumed C V' ∧ s'.Sees media m₀ V') ∨
      (s'.Jammed P media m₀ (ResumeJam C V) ∧ s'.seq.deviceFailed = true)) s := by
  induction fuel generalizing V s with
  | zero => exact absurd hfuel (Nat.not_lt_zero _)
  | succ fuel ih =>
    unfold resumeLoop
    apply (scanReadBlock_sees hP h).bind
    rintro result s₁ ⟨hresult, h₁⟩
    apply Ensures.ite
    · intro hcorrupt
      have hscan : V.scanResult C = .corrupt := by simpa [hresult] using hcorrupt
      apply (abandonRestOfReadBlock_sees hP h₁).bind
      rintro _ s₂ (⟨rfl, n, hn, h₂⟩ | ⟨rfl, hlast, h₂⟩ | ⟨rfl, hjammed, hfailed⟩)
      · rw [if_pos rfl]
        have hn' : V.view.Next n := ⟨hn.present, hn.ne, hn.le, hn.first⟩
        apply (ih h₂ ?_).mono
        · rintro result' s' (⟨hfine, V', hresumed, h'⟩ |
            ⟨⟨halways, hfrozen, v, ⟨V', hleft, rfl⟩, hv⟩, hfailed⟩)
          · refine .inl ⟨hfine, V', ?_, h'⟩
            cases hresumed with
            | scanned left found => exact .scanned (.head hscan hn' left) found
            | spoiled left corrupt last => exact .spoiled (.head hscan hn' left) corrupt last
          · exact .inr ⟨⟨halways, hfrozen, _, ⟨V', .head hscan hn' hleft, rfl⟩, hv⟩, hfailed⟩
        · rw [(view_reportLoss ..).1, (view_reportLoss ..).2]
          have hlt := ahead_next_lt hn'
          change ahead n V.view.write < fuel
          omega
      · exact .inl ⟨by rw [hresult, hscan]; nofun, _, .spoiled (.refl V) hscan hlast, h₂⟩
      · obtain ⟨halways, hfrozen, v, rfl, hv⟩ := hjammed
        exact .inr ⟨⟨halways, hfrozen, _, ⟨V, .refl V, rfl⟩, hv⟩, hfailed⟩
    · intro hclean
      have hscan : V.scanResult C ≠ .corrupt := by simpa [hresult] using hclean
      have hfine : result ≠ .deviceFailed := hresult ▸ firstUnsent_ne_deviceFailed _ _ _
      exact .inl ⟨hfine, _, .scanned (.refl V) hscan, h₁⟩

theorem scanEnd_ne_deviceFailed (content : Bytes) (position fuel : Nat) :
    C.scanEnd content position fuel ≠ .deviceFailed := by
  induction fuel generalizing position with
  | zero => rintro ⟨⟩
  | succ fuel ih =>
    unfold Config.scanEnd
    cases hextent : C.extentAt content position with
    | error result => rcases C.extentAt_error hextent with ⟨rfl, -⟩ | ⟨rfl, -⟩ <;> rintro ⟨⟩
    | ok length => exact ih _

theorem checkWriteBlock_sees (hP : Faithful P media) (h : s.Sees media m₀ V) :
    Ensures (checkWriteBlock P C) (fun _ s' => s'.Sees media m₀ (V.checked C)) s := by
  unfold checkWriteBlock
  obtain ⟨content, hcontent⟩ := Option.isSome_iff_exists.1 h.seq.wellFormed.write_present
  have hwrite : V.writeContent = content := by rw [StoreView.writeContent, hcontent]; rfl
  have hposition : s.seq.writePosition = content.length := by
    rw [h.agrees.writePosition_eq, View.writeSize, hcontent]
    rfl
  have hstart : (if s.seq.readIsBehindWrite = true then 0 else s.seq.readCursor) =
      V.checkStart := by
    unfold StoreView.checkStart
    by_cases heq : V.view.oldest = V.view.write
    · rw [if_pos heq, if_neg (fun hb => h.agrees.readIsBehindWrite.1 hb heq), h.agrees.readCursor]
    · rw [if_neg heq, if_pos (h.agrees.readIsBehindWrite.2 heq)]
  rw [ensures_bind, ensures_seqOf]
  dsimp only
  rw [ensures_bind, ensures_onRecords, hstart, hposition, h.agrees.writeSequence, h.records]
  apply (RecordStore.scanToEndLoop_shows hP hcontent h.world).mono
  rintro result ⟨_, world₁⟩ ⟨hresult, rfl, hw₁⟩
  have hsees : Sees media m₀ V { s with records := V.records, world := world₁ } :=
    ⟨⟨h.seq.wellFormed, h.agrees, hw₁⟩, rfl, h.lossReported, h.refusalReported,
      h.evictionReported, h.sealFailureReported, h.frozen⟩
  unfold StoreView.checked
  rw [hwrite, ← hresult]
  cases result with
  | deviceFailed => exact absurd hresult.symm (scanEnd_ne_deviceFailed _ _ _)
  | clean => exact hsees
  | corrupt =>
    rw [if_pos rfl]
    have hwf := h.seq.wellFormed
    exact ⟨⟨⟨hwf.oldest_present, hwf.write_present, hwf.inside, hwf.noted⟩,
      h.agrees.markCorrupt, hw₁⟩, rfl, h.lossReported, h.refusalReported, h.evictionReported,
      h.sealFailureReported, h.frozen⟩

/-- The views a create may jam on. -/
def CreateJam (C : Config) (m : Media) (v : View) : Prop :=
  ∃ v₀, View.Opened m (StoreView.createReports C) v₀ ∧ ResumeJam C (.initial v₀) v

theorem resumeFromExistingBlock_sees (hP : Faithful P media) {v : View}
    (h : s.Sees media m₀ (.initial v)) :
    Ensures (resumeFromExistingBlock P C) (fun _ s' =>
      (∃ V, StoreView.Resumed C (.initial v) V ∧ s'.Sees media m₀ (V.checked C)) ∨
      s'.Jammed P media m₀ (ResumeJam C (.initial v))) s := by
  unfold resumeFromExistingBlock
  apply (resumeLoop_sees hP h ?_).bind
  · rintro result s₂ (⟨hfine, V', hresumed, h₂⟩ | ⟨⟨halways, hfrozen, v', hv', hv⟩, hfailed⟩)
    · rw [ensures_bind, ensures_seqOf, h₂.agrees.deviceFailed, if_pos (by simpa using hfine)]
      apply (checkWriteBlock_sees hP h₂).mono
      intro _ s' h'
      exact .inl ⟨_, hresumed, h'⟩
    · rw [ensures_bind, ensures_seqOf, hfailed, if_neg (by simp)]
      exact .inr ⟨halways, hfrozen, v', hv', hv⟩
  · have hlt := ahead_lt v.oldest v.write
    change ahead v.oldest v.write < modulus + 1
    omega

/-- What a start leaves, with the run it has found. -/
theorem initialise_resumes (hP : Faithful P media) {w : World σ}
    (hw : w.Shows media m₀ m₀ (StoreView.createReports C)) :
    Ensures (initialise P C) (fun _ s' => ∃ v, View.Opened m₀ (StoreView.createReports C) v ∧
      (∀ run ∈ m₀.run, (v.oldest, v.write) = run) ∧
      ((∃ V, StoreView.Resumed C (.initial v) V ∧ s'.Sees media m₀ (V.checked C)) ∨
        s'.Jammed P media m₀ (ResumeJam C (.initial v)))) (initial w) := by
  have hrun : lastRun (StoreView.createReports C) = none := by
    unfold StoreView.createReports
    split <;> rfl
  unfold initialise
  rw [ensures_bind, ensures_onSeq]
  apply (BlockSequence.openBlocks_sees hP rfl hw hrun).mono
  rintro _ ⟨seq₁, world₁⟩ ⟨rfl, v, hopened, htaken, h₁⟩
  rw [if_pos rfl]
  have hsees : Sees media m₀ (.initial v) { initial w with seq := seq₁, world := world₁ } :=
    ⟨h₁, rfl, rfl, rfl, rfl, rfl, rfl⟩
  exact (resumeFromExistingBlock_sees hP hsees).mono fun _ s' h' => ⟨v, hopened, htaken, h'⟩

theorem create_resumes (hP : Faithful P media) (env : σ) :
    Ensures (create P C) (fun _ s' => ∃ v, View.Opened (media env) (StoreView.createReports C) v ∧
      (∀ run ∈ (media env).run, (v.oldest, v.write) = run) ∧
      ((∃ V, StoreView.Resumed C (.initial v) V ∧ s'.Sees media (media env) (V.checked C)) ∨
        s'.Jammed P media (media env) (ResumeJam C (.initial v)))) (initial ⟨env, []⟩) := by
  have hstart : World.Shows media (media env) (media env) [] ⟨env, []⟩ :=
    ⟨⟨rfl, rfl, rfl, .nil⟩, rfl⟩
  unfold create
  by_cases hsmall : C.deviceBlockSize < C.recordSize C.tunables.maxMessageSize
  · rw [if_pos hsmall, ensures_bind, ensures_report]
    have hreport := hstart.call hP (.report .warning (.unreported 1) .blockTooSmall) rfl trivial
      nofun
    apply initialise_resumes hP
    unfold StoreView.createReports
    rw [if_pos hsmall]
    exact ⟨hreport, rfl⟩
  · rw [if_neg hsmall]
    apply initialise_resumes hP
    unfold StoreView.createReports
    rw [if_neg hsmall]
    exact hstart

theorem create_sees (hP : Faithful P media) (env : σ) :
    Ensures (create P C) (fun _ s' =>
      (∃ V, StoreView.Created C (media env) V ∧ s'.Sees media (media env) V) ∨
      s'.Jammed P media (media env) (CreateJam C (media env))) (initial ⟨env, []⟩) := by
  apply (create_resumes hP env).mono
  rintro _ s' ⟨v, hopened, -, ⟨V, hresumed, h'⟩ | ⟨halways, hfrozen, v', hv', hv⟩⟩
  · exact .inl ⟨_, .mk hopened hresumed, h'⟩
  · exact .inr ⟨halways, hfrozen, v', ⟨v, hopened, hv'⟩, hv⟩

end SolidSyslog.Store.BlockStore
