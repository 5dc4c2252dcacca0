import SolidSyslog.Store.Tally

/-!
# Losses and their reports, on views

A rotation is told of with the records it evicts, and it evicts some where the sequence notes an
eviction and only there. Each part of an operation that can lose a record moves one latch, with a
report where a run of losses begins, and leaves the other latches alone.
-/

namespace SolidSyslog.Store

open Lib

variable {σ : Type} {P : Platform σ} {C : Config}

namespace View

variable {v v' : View} {S : Shelf} {changed : Bool}

/-! ## Rotations -/

/-- A dispose of the read block tells of the records evicted with it. -/
theorem Told.tally_dropped (h : v.Told C S) (hS : v.Holds C S) (n : Sequence) :
    tally C (v.dropped n).trace =
      { tally C v.trace with evictions := (tally C v.trace).evictions + S.unread.length } := by
  have hevictions := h.evictions_dropped hS n
  have hmessages : (ledger C (v.dropped n).trace).messages = (ledger C v.trace).messages := by
    apply messages_extends
    exact ⟨_, rfl, by simp [Event.isAppend]⟩
  rw [tally, hevictions, hmessages]
  simp [tally, View.dropped, sealing, loss, isRefusalReport, isEvictionReport, isAcquire]

theorem tally_extended (v : View) : tally C v.extended.trace =
    { tally C v.trace with rotations := (tally C v.trace).rotations + 1 } := by
  rw [extended, List.append_cons, tally_run, tally_acquire]

/-- What finding room for a record tells: nothing, or of a rotation. -/
inductive RoomTold (t : Tally) (before after : Bool) : Nat → Nat → Tally → Prop
  | stayed (same : after = before) : RoomTold t before after 0 0 t
  | rotated {evictions : Nat} (evicts : after = true ↔ 0 < evictions) :
      RoomTold t before after 1 evictions
        { t with rotations := t.rotations + 1, evictions := t.evictions + evictions }

namespace Accounts

/-- A drained read block takes no record with it. -/
theorem swept (h : v.Accounts C S) (hswept : v.Swept changed v') :
    ∃ S', v'.Accounts C S' ∧ tally C v'.trace = tally C v.trace ∧ v'.evicted = v.evicted := by
  cases hswept with
  | @left n drained next =>
    obtain ⟨S', -, hmoves, -, -, hdone⟩ := StoreView.Holds.swept h.holds (.left drained next)
    have htold := h.told.tally_dropped h.holds n
    rw [hdone rfl, List.length_nil] at htold
    exact ⟨S', h.moves hmoves, htold, rfl⟩
  | stayed undrained => exact ⟨S, h, rfl, rfl⟩

theorem count_drained {n : Sequence} (h : v.Accounts C S) (hn : v.Next n) :
    (v.drained n).count + 1 = v.count := by
  have hholds := (h.holds.dropped hn).flags false v.evicted
  have hlater : S.later ≠ [] := fun hlast => hn.write_ne (h.holds.later_eq_nil_iff.1 hlast).symm
  have hcount : (v.drained n).count = S.left.blocks.length := hholds.count
  rw [hcount, h.holds.count, Shelf.blocks_left hlater]
  rfl

/-- A rotation evicts records where the sequence notes an eviction, and only there. -/
theorem rotated (h : v.Accounts C S) (hroom : v.HasRoom) (hcount : v.count ≤ C.maxBlocks)
    (hrotated : v.Rotated C changed v') : ∃ S' evictions, v'.Accounts C S' ∧
      tally C v'.trace = { tally C v.trace with
        rotations := (tally C v.trace).rotations + 1
        evictions := (tally C v.trace).evictions + evictions } ∧
      (v'.evicted = true ↔ 0 < evictions) := by
  have hextended : v.extended.Accounts C S.extended := h.move (.extended hroom)
  cases hrotated with
  | @evicted swept v₁ n sweep exceeds next =>
    cases sweep with
    | left drained next' =>
      -- the block left has made room already
      have hdrained := hextended.count_drained next'
      rw [count_extended hroom] at hdrained
      omega
    | stayed undrained =>
      have hbehind : v.extended.cursor < v.extended.readSize := by
        by_contra hcursor
        exact undrained ⟨hroom.symm, not_lt.1 hcursor⟩
      have hunread := hextended.unread_ne_nil hbehind
      have htold := hextended.told.tally_dropped hextended.holds n
      rw [tally_extended] at htold
      refine ⟨_, S.extended.unread.length, hextended.move (.discarded next), htold, ?_⟩
      exact ⟨fun _ => List.length_pos_iff.2 hunread, fun _ => rfl⟩
  | grown sweep within =>
    obtain ⟨S', hS', htold, hevicted⟩ := hextended.swept sweep
    refine ⟨S', 0, hS', htold.trans (tally_extended v), ?_⟩
    rw [hevicted]
    exact ⟨(by rintro ⟨⟩), fun hpos => absurd hpos (lt_irrefl 0)⟩

theorem prepared {recordSize : Nat} (h : v.Accounts C S) (hcount : v.count ≤ C.maxBlocks)
    (hprepared : v.Prepared C recordSize (true, changed) v') : ∃ S' rotations evictions,
      v'.Accounts C S' ∧ RoomTold (tally C v.trace) v.evicted v'.evicted rotations evictions
        (tally C v'.trace) := by
  have hroom : v.HasRoom := hasRoom_iff.2
    (hcount.trans_lt (Nat.lt_of_le_of_lt C.maxBlocks_le (by decide)))
  cases hprepared with
  | fits room => exact ⟨S, 0, 0, h, .stayed rfl⟩
  | grown full fewer rotated =>
    obtain ⟨S', evictions, hS', htold, hevicts⟩ := h.rotated hroom hcount rotated
    refine ⟨S', 1, evictions, hS', ?_⟩
    rw [htold]
    exact .rotated hevicts
  | replaced full most room rotated =>
    have hasked : (v.traced (.call .getDiscardPolicy .oldest)).Accounts C S := h.move (.noted rfl)
    obtain ⟨S', evictions, hS', htold, hevicts⟩ := hasked.rotated room hcount rotated
    refine ⟨S', 1, evictions, hS', ?_⟩
    rw [htold, View.traced, tally_getDiscardPolicy]
    exact .rotated hevicts

end Accounts

end View

/-! ## What is seen of a call -/

/-- A call with its answer, what the trace told before it and tells after it, and whether the
sequence notes an eviction after it. -/
structure Observed (C : Config) where
  op : BlockStore.Op C
  answer : BlockStore.Answer
  before : Tally
  after : Tally
  evictedUnsent : Bool

namespace Observed

variable (o : Observed C)

/-- The message a write kept. -/
def kept : List Bytes :=
  match o.op, o.answer with
  | .write message, .wrote .kept => [message.bytes]
  | _, _ => []

/-- A write refused, and the end of a run of these where a record is kept. -/
def writes : List Observation :=
  match o.op, o.answer with
  | .write message, .wrote .notRetained => if 0 < message.bytes.length then [.fault] else []
  | .write _, .wrote .kept => [.clear]
  | _, _ => []

/-- A write refused or kept, and the reports of refusals. -/
def refusals : List Observation :=
  o.writes ++ List.replicate (o.after.refusalReports - o.before.refusalReports) .report

def rotations : Nat :=
  o.after.rotations - o.before.rotations

def evictions : Nat :=
  o.after.evictions - o.before.evictions

/-- A rotation that evicts or one that does not, and the reports of evictions. -/
def evictionRuns : List Observation :=
  List.replicate o.rotations (if o.evictedUnsent then .fault else .clear) ++
    List.replicate (o.after.evictionReports - o.before.evictionReports) .report

end Observed

namespace StoreView

variable {V V' V'' : StoreView} {S : Shelf} {maxSize : Nat} {found : RecordStore.Found}

/-! ## Reading and marking -/

/-- In between the trace tells of records stepped past and handed out and of nothing else. -/
structure OnlyLosses (C : Config) (V V' : StoreView) : Prop where
  told : ∃ seen, tally C V'.view.trace = { tally C V.view.trace with
      losses := (tally C V.view.trace).losses ++ seen } ∧
    LatchRun V.lossReported seen V'.lossReported
  refusalReported : V'.refusalReported = V.refusalReported
  evictionReported : V'.evictionReported = V.evictionReported
  sealFailureReported : V'.sealFailureReported = V.sealFailureReported
  evicted : V'.view.evicted = V.view.evicted

theorem OnlyLosses.of_same (htold : tally C V'.view.trace = tally C V.view.trace)
    (hloss : V'.lossReported = V.lossReported) (hrefusal : V'.refusalReported = V.refusalReported)
    (heviction : V'.evictionReported = V.evictionReported)
    (hseal : V'.sealFailureReported = V.sealFailureReported)
    (hevicted : V'.view.evicted = V.view.evicted) : V.OnlyLosses C V' := by
  refine ⟨⟨[], ?_, ?_⟩, hrefusal, heviction, hseal, hevicted⟩
  · rw [htold, List.append_nil]
  · rw [hloss]
    exact .nil _

theorem OnlyLosses.refl (V : StoreView) : V.OnlyLosses C V :=
  .of_same rfl rfl rfl rfl rfl rfl

theorem OnlyLosses.trans (h : V.OnlyLosses C V') (h' : V'.OnlyLosses C V'') :
    V.OnlyLosses C V'' := by
  obtain ⟨seen, htold, hlatch⟩ := h.told
  obtain ⟨more, hmore, hlatch'⟩ := h'.told
  refine ⟨⟨seen ++ more, ?_, hlatch.append hlatch'⟩, h'.refusalReported.trans h.refusalReported,
    h'.evictionReported.trans h.evictionReported,
    h'.sealFailureReported.trans h.sealFailureReported, h'.evicted.trans h.evicted⟩
  rw [hmore, htold, List.append_assoc]

/-- A record stepped past, with a report where it begins a run. -/
theorem told_steppedPast (V : StoreView) (block : Sequence) (start length : Nat) :
    V.OnlyLosses C ((V.traced (.steppedPast block start length)).reportLoss .recordRejected) := by
  have hfault := LatchRun.fault V.lossReported
  by_cases hloss : V.lossReported = true
  · have hreport : (V.traced (.steppedPast block start length)).reportLoss .recordRejected =
        V.traced (.steppedPast block start length) := if_pos hloss
    rw [hloss] at hfault
    rw [hreport]
    refine ⟨⟨[.fault], tally_steppedPast .., ?_⟩, rfl, rfl, rfl, rfl⟩
    change LatchRun V.lossReported _ V.lossReported
    rw [hloss]
    exact hfault
  · have hreport : (V.traced (.steppedPast block start length)).reportLoss .recordRejected =
        { (V.traced (.steppedPast block start length)).traced
          (.call (.report .error .storeRecordDiscarded .recordRejected) ()) with
          lossReported := true } := if_neg hloss
    rw [Bool.not_eq_true] at hloss
    rw [hloss] at hfault
    rw [hreport]
    refine ⟨⟨[.fault, .report], ?_, ?_⟩, rfl, rfl, rfl, rfl⟩
    · change tally C (V.view.trace ++ [_] ++ [_]) = _
      rw [tally_loss_reported, tally_steppedPast, List.append_assoc]
      rfl
    · rw [hloss]
      exact hfault

/-- The shelf of a view whose trace tells of its records. -/
structure Accounts (C : Config) (V : StoreView) (S : Shelf) : Prop where
  holds : V.Holds C S
  view : V.view.Accounts C S

namespace Accounts

variable {goesOn : Bool}

/-- A turn of the read loop. -/
theorem turn (h : V.Accounts C S) (hturn : V.Turn P C maxSize found goesOn V') :
    (∃ S', V'.Accounts C S') ∧ V.OnlyLosses C V' := by
  obtain ⟨S', -, hS', hmoves⟩ := h.holds.turn hturn
  refine ⟨⟨S', hS', h.view.moves hmoves⟩, ?_⟩
  rcases hunread : S.unread with _ | ⟨e, rest⟩
  · obtain ⟨hresult, -⟩ := h.holds.readAt_done hunread hturn.read
    have hend : found.result = .endOfData :=
      hresult.resolve_right fun htorn => htorn.1 (h.view.whole S.readBlock List.mem_cons_self)
    cases hturn with
    | @moved n read result next =>
      have htold := h.view.told.tally_dropped h.view.holds n
      rw [hunread, List.length_nil] at htold
      exact .of_same htold rfl rfl rfl rfl rfl
    | exhausted read result last => exact .refl V
    | abandoned read result next => simp [result] at hend
    | spoiled read result last => simp [result] at hend
    | finishedWith read result => simp [result] at hend
    | rejected read result => simp [result] at hend
    | succeeded read result => simp [result] at hend
    | couldNotOpen read result => simp [result] at hend
  · obtain ⟨-, message, hfound⟩ := h.holds.readAt_unread hunread hturn.read
    cases hturn with
    | moved read result next => simp [result] at hfound
    | exhausted read result last => simp [result] at hfound
    | abandoned read result next => simp [result] at hfound
    | spoiled read result last => simp [result] at hfound
    | finishedWith read result => simp [result] at hfound
    | rejected read result =>
      exact (told_steppedPast V _ _ _).trans (.of_same rfl rfl rfl rfl rfl rfl)
    | succeeded read result => exact .of_same rfl rfl rfl rfl rfl rfl
    | couldNotOpen read result => exact .refl V

theorem turns {count : Nat} (h : V.Accounts C S) (hturns : Turns P C maxSize count V V') :
    (∃ S', V'.Accounts C S') ∧ V.OnlyLosses C V' := by
  induction hturns generalizing S with
  | refl V => exact ⟨⟨S, h⟩, .refl V⟩
  | head turn rest ih =>
    obtain ⟨⟨S₁, h₁⟩, hfirst⟩ := h.turn turn
    obtain ⟨hrest, hlosses⟩ := ih h₁
    exact ⟨hrest, hfirst.trans hlosses⟩

theorem settledRead (h : V.Accounts C S) (found : RecordStore.Found) :
    (V.settledRead found).Accounts C S ∧ V.OnlyLosses C (V.settledRead found) := by
  obtain ⟨hsettled, hmoves, -⟩ := h.holds.settledRead found
  refine ⟨⟨hsettled, h.view.moves hmoves⟩, ?_⟩
  unfold StoreView.settledRead
  split
  · exact ⟨⟨[.clear], tally_handedOut .., .clear _⟩, rfl, rfl, rfl, rfl⟩
  · exact .refl V

theorem read {bytes : Option Bytes} (h : V.Accounts C S) (hread : V.Read P C maxSize bytes V') :
    (∃ S', V'.Accounts C S') ∧ V.OnlyLosses C V' := by
  cases hread with
  | nothing done => exact ⟨⟨S, h⟩, .refl V⟩
  | @found _ V₁ V₂ found unsent turns last =>
    obtain ⟨⟨S₁, h₁⟩, hturns⟩ := h.turns turns
    obtain ⟨⟨S₂, h₂⟩, hlast⟩ := h₁.turn last
    obtain ⟨hsettled, hlosses⟩ := h₂.settledRead found
    exact ⟨⟨S₂, hsettled⟩, (hturns.trans hlast).trans hlosses⟩

/-- A mark is told of in the ledger alone. -/
theorem marked (h : V.Accounts C S) (hmarked : V.Marked V') :
    (∃ S', V'.Accounts C S') ∧ V.OnlyLosses C V' := by
  obtain ⟨S', hS', hmoves, -, -⟩ := h.holds.markedView hmarked
  refine ⟨⟨S', hS', h.view.moves hmoves⟩, ?_⟩
  cases hmarked with
  | nothing unread => exact .refl V
  | @marked changed v' read swept =>
    obtain ⟨e, rest, hunread, hblock, hoffset⟩ := h.holds.read read
    have hmarks : ∃ S₁, V.marked.view.Accounts C S₁ := by
      have hnext : V.records.lastSentFlagOffset + 1 =
          V.view.cursor + C.recordSize e.data.length := by
        rw [hoffset]
        exact C.sentFlagOffset_succ ..
      refine ⟨S.marked, h.view.move ?_⟩
      rw [StoreView.marked, hnext, hblock, hoffset]
      exact .marked hunread
    obtain ⟨S₁, h₁⟩ := hmarks
    obtain ⟨-, -, htold, hevicted⟩ := h₁.swept swept
    exact .of_same (htold.trans (tally_writeAt ..)) rfl rfl rfl rfl hevicted

end Accounts

/-! ## Writing -/

/-- What a call tells, beside the latches it finds and leaves. -/
structure Tells (V : StoreView) (o : Observed C) (V' : StoreView) : Prop where
  messages : o.after.messages = o.before.messages ++ o.kept
  refusals : LatchRun V.refusalReported o.refusals V'.refusalReported
  evictions : LatchRun V.evictionReported o.evictionRuns V'.evictionReported
  sealings : ∃ seen, o.after.sealings = o.before.sealings ++ seen ∧
    LatchRun V.sealFailureReported seen V'.sealFailureReported
  losses : ∃ seen, o.after.losses = o.before.losses ++ seen ∧
    LatchRun V.lossReported seen V'.lossReported
  evicts : 0 < o.evictions ↔ 0 < o.rotations ∧ o.evictedUnsent = true
  noted : V'.evictionReported = o.evictedUnsent

/-- A call as it is seen on views. -/
def observed (V : StoreView) (op : BlockStore.Op C) (answer : BlockStore.Answer) (V' : StoreView) :
    Observed C :=
  ⟨op, answer, tally C V.view.trace, tally C V'.view.trace, V'.view.evicted⟩

/-- What a call tells on top of what was told before it decides what is seen of it. -/
theorem tells_of_plus {op : BlockStore.Op C} {answer : BlockStore.Answer} (more : Tally)
    (htold : tally C V'.view.trace = (tally C V.view.trace).plus more)
    (hkept : (V.observed op answer V').kept = more.messages)
    (hrefusals : LatchRun V.refusalReported ((V.observed op answer V').writes ++
      List.replicate more.refusalReports .report) V'.refusalReported)
    (hevictions : LatchRun V.evictionReported
      (List.replicate more.rotations (if V'.view.evicted then .fault else .clear) ++
        List.replicate more.evictionReports .report) V'.evictionReported)
    (hsealings : LatchRun V.sealFailureReported more.sealings V'.sealFailureReported)
    (hlosses : LatchRun V.lossReported more.losses V'.lossReported)
    (hevicts : 0 < more.evictions ↔ 0 < more.rotations ∧ V'.view.evicted = true)
    (hnoted : V'.evictionReported = V'.view.evicted) : V.Tells (V.observed op answer V') V' := by
  have hafter : (V.observed op answer V').after = (tally C V.view.trace).plus more := htold
  have hrotations : (V.observed op answer V').rotations = more.rotations := by
    rw [Observed.rotations, hafter]
    exact Nat.add_sub_cancel_left ..
  constructor
  · rw [hkept, hafter]
    rfl
  · rw [Observed.refusals, hafter]
    rwa [show ((tally C V.view.trace).plus more).refusalReports -
      (V.observed op answer V').before.refusalReports = more.refusalReports from
        Nat.add_sub_cancel_left ..]
  · rw [Observed.evictionRuns, hrotations, hafter]
    rwa [show ((tally C V.view.trace).plus more).evictionReports -
      (V.observed op answer V').before.evictionReports = more.evictionReports from
        Nat.add_sub_cancel_left ..]
  · exact ⟨more.sealings, by rw [hafter]; rfl, hsealings⟩
  · exact ⟨more.losses, by rw [hafter]; rfl, hlosses⟩
  · rw [Observed.evictions, hrotations, hafter]
    rwa [show ((tally C V.view.trace).plus more).evictions -
      (V.observed op answer V').before.evictions = more.evictions from Nat.add_sub_cancel_left ..]
  · exact hnoted

/-- A call that is no write tells of losses of records at most. -/
theorem OnlyLosses.tells {op : BlockStore.Op C} {answer : BlockStore.Answer}
    (h : V.OnlyLosses C V') (hnoted : V.evictionReported = V.view.evicted)
    (hkept : (V.observed op answer V').kept = [])
    (hwrites : (V.observed op answer V').writes = []) :
    V.Tells (V.observed op answer V') V' := by
  obtain ⟨seen, htold, hlatch⟩ := h.told
  have hplus : tally C V'.view.trace =
      (tally C V.view.trace).plus { Tally.nothing with losses := seen } := by
    rw [htold, Tally.plus_losses]
  apply tells_of_plus _ hplus hkept
  · rw [hwrites, h.refusalReported]
    exact .nil _
  · rw [h.evictionReported]
    exact .nil _
  · rw [h.sealFailureReported]
    exact .nil _
  · exact hlatch
  · simp [Tally.nothing]
  · exact (h.evictionReported.trans hnoted).trans h.evicted.symm

/-- After a report of an eviction, or none, the latch is what the sequence notes. -/
theorem told_reportEviction (V : StoreView) : tally C V.reportEviction.view.trace =
      { tally C V.view.trace with evictionReports := (tally C V.view.trace).evictionReports +
        if V.view.evicted && !V.evictionReported then 1 else 0 } ∧
    V.reportEviction.evictionReported = V.view.evicted := by
  unfold reportEviction
  cases hevicted : V.view.evicted with
  | false => exact ⟨rfl, rfl⟩
  | true =>
    rw [if_pos rfl]
    cases hreported : V.evictionReported with
    | true => exact ⟨rfl, hreported⟩
    | false => exact ⟨tally_eviction_reported _, rfl⟩

/-- The store ready for an append: a rotation that evicts is a fault, one that does not ends a
run. -/
theorem told_readied {v' : View} {rotations evictions : Nat} (changed : Bool)
    (hnoted : V.evictionReported = V.view.evicted)
    (hroom : View.RoomTold (tally C V.view.trace) V.view.evicted v'.evicted rotations
      evictions (tally C v'.trace)) : ∃ reports,
    tally C (V.readied v' changed).view.trace = { tally C V.view.trace with
      rotations := (tally C V.view.trace).rotations + rotations
      evictions := (tally C V.view.trace).evictions + evictions
      evictionReports := (tally C V.view.trace).evictionReports + reports } ∧
    LatchRun V.evictionReported (List.replicate rotations (if v'.evicted then .fault else .clear) ++
      List.replicate reports .report) v'.evicted ∧
    (V.readied v' changed).evictionReported = v'.evicted ∧
    (0 < evictions ↔ 0 < rotations ∧ v'.evicted = true) := by
  obtain ⟨htold, hlatch⟩ := told_reportEviction (C := C) { V with view := v' }
  refine ⟨if v'.evicted && !V.evictionReported then 1 else 0, ?_, ?_, ?_, ?_⟩
  · have hready : (V.readied v' changed).view =
      ({ V with view := v' } : StoreView).reportEviction.view := by
      unfold readied
      split <;> rfl
    rw [hready, htold]
    dsimp only
    generalize tally C v'.trace = t' at hroom
    cases hroom with
    | stayed same => rfl
    | rotated evicts => rfl
  · generalize tally C v'.trace = t' at hroom
    cases hroom with
    | stayed same =>
      rw [same, ← hnoted, Bool.and_not_self]
      exact .nil _
    | rotated evicts =>
      cases v'.evicted with
      | true =>
        have hfault := LatchRun.fault V.evictionReported
        cases hreported : V.evictionReported <;> rwa [hreported] at hfault
      | false => exact .clear _
  · unfold readied
    split <;> exact hlatch
  · generalize tally C v'.trace = t' at hroom
    cases hroom with
    | stayed same => simp
    | rotated evicts => simp [evicts]

/-- A seal that failed, with a report where it begins a run. -/
theorem told_seal_failed (V : StoreView) (content : Bytes) :
    tally C (V.traced (.call (.sealRecord content) none)).reportSealFailed.view.trace =
      { tally C V.view.trace with
        sealings := (tally C V.view.trace).sealings ++ faultObservations V.sealFailureReported } ∧
    (V.traced (.call (.sealRecord content) none)).reportSealFailed.sealFailureReported = true := by
  unfold reportSealFailed
  change tally C (if V.sealFailureReported then _ else _ : StoreView).view.trace = _ ∧
    (if V.sealFailureReported then _ else _ : StoreView).sealFailureReported = true
  cases hreported : V.sealFailureReported with
  | true => exact ⟨tally_seal_failed .., hreported⟩
  | false =>
    refine ⟨?_, rfl⟩
    change tally C (V.view.trace ++ [_] ++ [_]) = _
    rw [tally_seal_reported, tally_seal_failed, List.append_assoc]
    rfl

/-- A record kept ends a run of failed seals. -/
theorem told_kept (V : StoreView) (length : Nat) (data bytes : Bytes) (outcome : Bytes × Bytes) :
    tally C ((V.traced (.call (.sealRecord (header length ++ data)) (some outcome))).kept
        bytes).view.trace = { tally C V.view.trace with
      sealings := (tally C V.view.trace).sealings ++ [.clear]
      messages := (tally C V.view.trace).messages ++ [data] } := by
  change tally C (V.view.trace ++ [_] ++ [_]) = _
  rw [tally_append, tally_sealed, ledger_concat]
  rfl

/-! A report moves its own latch alone. -/

theorem latches_reportRefusal (V : StoreView) : V.reportRefusal.lossReported = V.lossReported ∧
    V.reportRefusal.evictionReported = V.evictionReported ∧
    V.reportRefusal.sealFailureReported = V.sealFailureReported ∧
    V.reportRefusal.view.evicted = V.view.evicted := by
  unfold reportRefusal
  split <;> exact ⟨rfl, rfl, rfl, rfl⟩

theorem latches_reportSealFailed (V : StoreView) :
    V.reportSealFailed.lossReported = V.lossReported ∧
    V.reportSealFailed.refusalReported = V.refusalReported ∧
    V.reportSealFailed.evictionReported = V.evictionReported ∧
    V.reportSealFailed.view.evicted = V.view.evicted := by
  unfold reportSealFailed
  split <;> exact ⟨rfl, rfl, rfl, rfl⟩

theorem latches_readied (V : StoreView) (v' : View) (changed : Bool) :
    (V.readied v' changed).lossReported = V.lossReported ∧
    (V.readied v' changed).refusalReported = V.refusalReported ∧
    (V.readied v' changed).sealFailureReported = V.sealFailureReported ∧
    (V.readied v' changed).view.evicted = v'.evicted := by
  have hreport : ({ V with view := v' } : StoreView).reportEviction.lossReported = V.lossReported ∧
      ({ V with view := v' } : StoreView).reportEviction.refusalReported = V.refusalReported ∧
      ({ V with view := v' } : StoreView).reportEviction.sealFailureReported =
        V.sealFailureReported ∧
      ({ V with view := v' } : StoreView).reportEviction.view.evicted = v'.evicted := by
    unfold reportEviction
    split
    · split <;> exact ⟨rfl, rfl, rfl, rfl⟩
    · exact ⟨rfl, rfl, rfl, rfl⟩
  unfold readied
  split <;> exact hreport

/-- A write refused, with a report where it begins a run. -/
theorem told_refused (V : StoreView) : ∃ reports,
    tally C V.reportRefusal.view.trace = { tally C V.view.trace with
      refusalReports := (tally C V.view.trace).refusalReports + reports } ∧
    LatchRun V.refusalReported (.fault :: List.replicate reports .report)
      V.reportRefusal.refusalReported := by
  have hfault := LatchRun.fault V.refusalReported
  unfold reportRefusal
  cases hreported : V.refusalReported with
  | true =>
    rw [hreported] at hfault
    refine ⟨0, rfl, ?_⟩
    rw [if_pos rfl, hreported]
    exact hfault
  | false =>
    rw [hreported] at hfault
    exact ⟨1, tally_refusal_reported _, hfault⟩

namespace Accounts

variable {message : BlockStore.Message C} {result : StoreWriteResult}

/-- The store ready for an append. -/
theorem readied {v' : View} {changed : Bool} {recordSize : Nat} (h : V.Accounts C S)
    (hcount : V.view.count ≤ C.maxBlocks) (hnoted : V.evictionReported = V.view.evicted)
    (hprepared : V.view.Prepared C recordSize (true, changed) v') : ∃ rotations evictions reports,
    tally C (V.readied v' changed).view.trace = { tally C V.view.trace with
      rotations := (tally C V.view.trace).rotations + rotations
      evictions := (tally C V.view.trace).evictions + evictions
      evictionReports := (tally C V.view.trace).evictionReports + reports } ∧
    LatchRun V.evictionReported (List.replicate rotations (if v'.evicted then .fault else .clear) ++
      List.replicate reports .report) v'.evicted ∧
    (V.readied v' changed).evictionReported = v'.evicted ∧
    (0 < evictions ↔ 0 < rotations ∧ v'.evicted = true) := by
  obtain ⟨S', rotations, evictions, -, hroom⟩ := h.view.prepared hcount hprepared
  obtain ⟨reports, htold⟩ := told_readied changed hnoted hroom
  exact ⟨rotations, evictions, reports, htold⟩

/-- What a write tells: of a refusal, or of a rotation and a seal, failed or not. -/
theorem wrote_tells (h : V.Accounts C S) (hcount : V.view.count ≤ C.maxBlocks)
    (hnoted : V.evictionReported = V.view.evicted) (hwrote : V.Wrote P C message.bytes result V') :
    V.Tells (V.observed (.write message) (.wrote result) V') V' := by
  cases hwrote with
  | empty none =>
    apply (OnlyLosses.refl V).tells hnoted
    · rfl
    · simp [Observed.writes, observed, none]
  | @refused v' changed some prepared =>
    cases prepared with
    | @refused policy full most newest =>
      obtain ⟨reports, htold, hlatch⟩ := told_refused (C := C) { V with
        view := { V.view.traced (.call .getDiscardPolicy policy) with atCapacity := true } }
      obtain ⟨hloss, heviction, hseal, hevicted⟩ := latches_reportRefusal { V with
        view := { V.view.traced (.call .getDiscardPolicy policy) with atCapacity := true } }
      apply tells_of_plus { Tally.nothing with refusalReports := reports }
      · rw [htold]
        dsimp only
        rw [View.traced, tally_getDiscardPolicy]
        simp [Tally.plus, Tally.nothing]
      · rfl
      · rw [Observed.writes, observed]
        dsimp only
        rw [if_pos some]
        exact hlatch
      · rw [heviction]
        exact .nil _
      · rw [hseal]
        exact .nil _
      · rw [hloss]
        exact .nil _
      · simp [Tally.nothing]
      · rw [heviction, hevicted]
        exact hnoted
  | @lost v' changed some prepared =>
    obtain ⟨rotations, evictions, reports, htold, hlatch, hreported, hevicts⟩ :=
      h.readied hcount hnoted prepared
    obtain ⟨hloss, hrefusal, hseal, hevicted⟩ := latches_readied V v' changed
    obtain ⟨hsealing, hfailed⟩ := told_seal_failed (C := C) (V.readied v' changed)
      (header (toUint16 message.bytes.length) ++ message.bytes)
    obtain ⟨hloss', hrefusal', heviction', hevicted'⟩ := latches_reportSealFailed
      ((V.readied v' changed).traced (.call (.sealRecord
        (header (toUint16 message.bytes.length) ++ message.bytes)) none))
    have hnow := hevicted'.trans hevicted
    apply tells_of_plus
      ⟨faultObservations V.sealFailureReported, [], 0, reports, rotations, [], evictions⟩
    · rw [hsealing, htold, hseal]
      simp [Tally.plus]
    · rfl
    · rw [hrefusal'.trans hrefusal]
      exact .nil _
    · rw [heviction'.trans hreported, hnow]
      exact hlatch
    · rw [hfailed]
      exact .fault _
    · rw [hloss'.trans hloss]
      exact .nil _
    · rw [hnow]
      exact hevicts
    · exact (heviction'.trans hreported).trans hnow.symm
  | @kept v' changed sealedContent trailer env some prepared sealed =>
    obtain ⟨rotations, evictions, reports, htold, hlatch, hreported, hevicts⟩ :=
      h.readied hcount hnoted prepared
    obtain ⟨hloss, hrefusal, hseal, hevicted⟩ := latches_readied V v' changed
    apply tells_of_plus ⟨[.clear], [], 0, reports, rotations, [message.bytes], evictions⟩
    · rw [told_kept, htold]
      simp [Tally.plus]
    · rfl
    · exact .clear _
    · change LatchRun _
        (List.replicate _ (if (V.readied v' changed).view.evicted then _ else _) ++ _)
        (V.readied v' changed).evictionReported
      rw [hreported, hevicted]
      exact hlatch
    · exact .clear _
    · change LatchRun _ _ (V.readied v' changed).lossReported
      rw [hloss]
      exact .nil _
    · change _ ↔ _ ∧ (V.readied v' changed).view.evicted = true
      rw [hevicted]
      exact hevicts
    · exact hreported.trans hevicted.symm

end Accounts

end StoreView

end SolidSyslog.Store
