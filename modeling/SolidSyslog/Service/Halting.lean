import SolidSyslog.Service.Rules

/-!
# The calls of a pass that halts

The calls of a pass go through a small automaton. While the logger runs, a full buffer behind a held
record, and a store that refuses a record and is not transient, must be followed by a question to
the discard policy. The answer Halt must be followed by the event and then the callback, and nothing
may follow that: whatever else came would ruin the calls. No pass ruins them, and a pass that ends
them halted says so and leaves the logger halted (`processMessages_settled`).
-/

namespace SolidSyslog.Service

open Lib

variable {ε ρ : Type} {P : Parts ε ρ} {s s' : State ε ρ} {start : List (Entry ρ)}

/-! ## The calls of a pass -/

/-- How far the calls have come. -/
inductive HaltPhase where
  | running
  | judging
  | asking
  | announcing
  | calling
  | stopped
  | ruined
  deriving DecidableEq

/-- The event `SolidSyslog_Halt` raises. -/
def haltedEvent (haltedAt : LoggerError) : ErrorEvent :=
  ⟨.error, .loggerHalted, false, "SolidSyslog", haltedAt.code, 0⟩

/-- The phase after one more entry. -/
def HaltPhase.next : HaltPhase → Entry ρ → HaltPhase
  | .running, .call .bufferIsFull isFull => if isFull then .asking else .running
  | .running, .call (.storeWrite _) result => if result = .notRetained then .judging else .running
  | .running, .call .storeIsTransient _ => .ruined
  | .running, .call .getDiscardPolicy _ => .ruined
  | .running, .call .onHalt _ => .ruined
  | .running, .call (.errorHandler event) _ =>
    if event.category = .loggerHalted then .ruined else .running
  | .running, _ => .running
  | .judging, .call .storeIsTransient isTransient => if isTransient then .running else .asking
  | .asking, .call .getDiscardPolicy policy => if policy = .halt then .announcing else .running
  | .announcing, .call (.errorHandler event) _ =>
    if event = haltedEvent .haltedStoreRefused ∨ event = haltedEvent .haltedBufferFull then .calling
    else .ruined
  | .calling, .call .onHalt _ => .stopped
  | _, _ => .ruined

def haltPhase (entries : List (Entry ρ)) : HaltPhase :=
  entries.foldl HaltPhase.next .running

/-- The phase of what a trace holds beyond `start`, the trace when the pass began. -/
def InPhase (start trace : List (Entry ρ)) (phase : HaltPhase) : Prop :=
  ∃ entries, trace = start ++ entries ∧ haltPhase entries = phase

theorem InPhase.refl (start : List (Entry ρ)) : InPhase start start .running :=
  ⟨[], by simp, rfl⟩

theorem InPhase.concat {trace : List (Entry ρ)} {phase : HaltPhase} (h : InPhase start trace phase)
    (entry : Entry ρ) : InPhase start (trace ++ [entry]) (phase.next entry) := by
  obtain ⟨entries, rfl, rfl⟩ := h
  exact ⟨entries ++ [entry], by simp, by simp [haltPhase]⟩

theorem InPhase.asked {phase : HaltPhase} (h : InPhase start s.trace phase) (request : Request ρ) :
    InPhase start (s.asked P request).trace
      (phase.next (.call request (P.answer request s.env s.pending).1)) :=
  h.concat _

/-- The logger runs and so do its calls. -/
structure Going (start : List (Entry ρ)) (s : State ε ρ) : Prop where
  logger : s.logger.halted = false
  trace : InPhase start s.trace .running

/-- The logger is halted and so are its calls. -/
structure Stopped (start : List (Entry ρ)) (s : State ε ρ) : Prop where
  logger : s.logger.halted = true
  trace : InPhase start s.trace .stopped

/-- The logger runs or is halted, as its calls say. -/
def Settled (start : List (Entry ρ)) (s : State ε ρ) : Prop :=
  Going start s ∨ Stopped start s

theorem Settled.going (h : Settled start s) (hlogger : s.logger.halted = false) :
    Going start s := by
  rcases h with h | h
  · exact h
  · exact absurd (hlogger.symm.trans h.logger) Bool.false_ne_true

/-- A change to other fields of the logger, to the rest of the system or to the table. -/
theorem Going.other (h : Going start s) (hhalted : s'.logger.halted = s.logger.halted)
    (htrace : s'.trace = s.trace) : Going start s' :=
  ⟨hhalted.trans h.logger, htrace ▸ h.trace⟩

theorem Settled.other (h : Settled start s) (hhalted : s'.logger.halted = s.logger.halted)
    (htrace : s'.trace = s.trace) : Settled start s' := by
  rcases h with h | h
  · exact .inl (h.other hhalted htrace)
  · exact .inr ⟨hhalted.trans h.logger, htrace ▸ h.trace⟩

/-- A call that has nothing to do with a halt. -/
def Request.isOrdinary : Request ρ → Bool
  | .bufferRead _ | .storeReadNextUnsent _ | .storeMarkSent | .storeHasUnsent | .senderSend _
  | .isEventReportingOn | .formatReport _ _ => true
  | _ => false

theorem Going.asked (h : Going start s) {request : Request ρ}
    (hordinary : request.isOrdinary = true) : Going start (s.asked P request) := by
  refine ⟨h.logger, ?_⟩
  have hasked := h.trace.asked (P := P) request
  cases request <;> first | exact hasked | cases hordinary

/-! ## Halting -/

/-- The policy has just answered Halt: the event and the callback follow. -/
theorem halt_stopped (hphase : InPhase start s.trace .announcing) {haltedAt : LoggerError}
    (hat : haltedAt = .haltedStoreRefused ∨ haltedAt = .haltedBufferFull) :
    Ensures (halt P haltedAt) (fun _ s' => Stopped start s') s := by
  refine ⟨rfl, ?_⟩
  have hevent : HaltPhase.announcing.next
      (.call (.errorHandler (haltedEvent haltedAt)) () : Entry ρ) = .calling := by
    rcases hat with rfl | rfl <;> simp [HaltPhase.next]
  have hcalled := hphase.concat (.call (.errorHandler (haltedEvent haltedAt)) ())
  rw [hevent] at hcalled
  exact hcalled.concat (.call .onHalt ())

/-- The policy is asked when it has to be. -/
theorem haltIfPolicyHalts_settled (hlogger : s.logger.halted = false)
    (hphase : InPhase start s.trace .asking) :
    Ensures (haltIfPolicyHalts P) (fun _ s' => Settled start s') s := by
  unfold haltIfPolicyHalts policyHalts
  simp only [ensures_bind, ensures_ask .getDiscardPolicy, ensures_pure]
  have hasked := hphase.asked (P := P) .getDiscardPolicy
  apply Ensures.ite
  · intro hhalts
    have hpolicy : (P.answer .getDiscardPolicy s.env s.pending).1 = .halt := by simpa using hhalts
    apply (halt_stopped ?_ (.inl rfl)).mono
    · intro _ s' h'
      exact .inr h'
    · simpa only [HaltPhase.next, hpolicy, if_true] using hasked
  · intro hgoes
    have hpolicy : (P.answer .getDiscardPolicy s.env s.pending).1 ≠ .halt := by simpa using hgoes
    rw [ensures_pure]
    refine .inl ⟨hlogger, ?_⟩
    simpa only [HaltPhase.next, hpolicy, if_false] using hasked

/-! ## The held record -/

theorem dropHeldRecord_going (h : Going start s) :
    Ensures (dropHeldRecord P) (fun _ s' => Going start s') s := by
  have hdropped : InPhase start (s.trace ++ [.dropped s.logger.record]) .running :=
    h.trace.concat _
  unfold dropHeldRecord
  simp only [ensures_bind, ensures_logger, ensures_modify, ensures_setLogger]
  apply Ensures.ite
  · intro _
    rw [ensures_report]
    exact ⟨h.logger, hdropped.concat _⟩
  · intro _
    exact ⟨h.logger, hdropped⟩

theorem applyPolicyToHeldRecordIfBufferFull_settled (h : Going start s) :
    Ensures (applyPolicyToHeldRecordIfBufferFull P) (fun _ s' => Settled start s') s := by
  unfold applyPolicyToHeldRecordIfBufferFull
  simp only [ensures_bind, ensures_logger]
  apply Ensures.ite
  · intro _
    simp only [ensures_bind, ensures_ask .bufferIsFull]
    have hasked := h.trace.asked (P := P) .bufferIsFull
    apply Ensures.ite
    · intro hfull
      have hasking : InPhase start (s.asked P .bufferIsFull).trace .asking := by
        simpa only [HaltPhase.next, hfull, if_true] using hasked
      have hlogger : (s.asked P .bufferIsFull).logger.halted = false := h.logger
      generalize s.asked P .bufferIsFull = s₁ at hasking hlogger ⊢
      simp only [ensures_bind, ensures_ask .getDiscardPolicy, ensures_logger]
      have hanswered := hasking.asked (P := P) .getDiscardPolicy
      apply Ensures.ite
      · intro hdrops
        rw [Bool.and_eq_true] at hdrops
        have hpolicy : (P.answer .getDiscardPolicy s₁.env s₁.pending).1 = .oldest := by
          simpa using hdrops.1
        apply (dropHeldRecord_going ?_).mono
        · intro _ s' h'
          exact .inl h'
        · refine ⟨hlogger, ?_⟩
          simpa only [HaltPhase.next, hpolicy, reduceCtorEq, if_false] using hanswered
      · intro _
        apply Ensures.ite
        · intro hhalts
          have hpolicy : (P.answer .getDiscardPolicy s₁.env s₁.pending).1 = .halt := by
            simpa using hhalts
          apply (halt_stopped ?_ (.inr rfl)).mono
          · intro _ s' h'
            exact .inr h'
          · simpa only [HaltPhase.next, hpolicy, if_true] using hanswered
        · intro hgoes
          have hpolicy : (P.answer .getDiscardPolicy s₁.env s₁.pending).1 ≠ .halt := by
            simpa using hgoes
          rw [ensures_pure]
          refine .inl ⟨hlogger, ?_⟩
          simpa only [HaltPhase.next, hpolicy, if_false] using hanswered
    · intro hroom
      rw [ensures_pure]
      refine .inl ⟨h.logger, ?_⟩
      simpa only [HaltPhase.next, hroom, if_false] using hasked
  · intro _
    exact .inl h

theorem holdNextRecord_going (h : Going start s) :
    Ensures (holdNextRecord P) (fun _ s' => Going start s') s := by
  unfold holdNextRecord
  simp only [ensures_bind, ensures_logger, ensures_ask (.bufferRead _), ensures_setLogger,
    ensures_pure]
  exact (h.asked rfl).other rfl rfl

theorem storeDealsWithHeldRecord_settled (h : Going start s) :
    Ensures (storeDealsWithHeldRecord P) (fun _ s' => Settled start s') s := by
  unfold storeDealsWithHeldRecord
  simp only [ensures_bind, ensures_logger, ensures_ask (.storeWrite _)]
  have hasked := h.trace.asked (P := P) (.storeWrite s.logger.record)
  have hlogger : (s.asked P (.storeWrite s.logger.record)).logger.halted = false := h.logger
  generalize s.asked P (.storeWrite s.logger.record) = s₁ at hlogger hasked ⊢
  generalize (P.answer (.storeWrite s.logger.record) s.env s.pending).1 = result at hasked ⊢
  by_cases hresult : result = .notRetained
  · subst hresult
    have hjudged := hasked.asked (P := P) .storeIsTransient
    simp only [beq_self_eq_true, if_true, ensures_bind, ensures_ask .storeIsTransient, ensures_pure]
    cases htransient : (P.answer .storeIsTransient s₁.env s₁.pending).1 with
    | true =>
      refine .inl ⟨hlogger, ?_⟩
      change InPhase start (s₁.asked P .storeIsTransient).trace _
      simpa only [HaltPhase.next, htransient, if_true] using hjudged
    | false =>
      apply (haltIfPolicyHalts_settled ?_ ?_).bind
      · intro _ s₂ h₂
        exact h₂
      · exact hlogger
      · simpa only [HaltPhase.next, htransient, if_true, Bool.false_eq_true, if_false] using hjudged
  · have hnot : (result == StoreWriteResult.notRetained) = false := by simpa using hresult
    rw [hnot]
    refine .inl ⟨hlogger, ?_⟩
    change InPhase start s₁.trace _
    simpa only [HaltPhase.next, hresult, if_false] using hasked

theorem storeOrSenderTakesHeldRecord_settled (h : Going start s) :
    Ensures (storeOrSenderTakesHeldRecord P) (fun _ s' => Settled start s') s := by
  unfold storeOrSenderTakesHeldRecord
  apply (storeDealsWithHeldRecord_settled h).bind
  intro dealt s₁ h₁
  apply Ensures.ite
  · intro _
    exact h₁
  · intro _
    rw [ensures_bind, ensures_logger]
    apply Ensures.ite
    · intro _
      exact h₁
    · intro hgoes
      rw [ensures_bind, ensures_logger, ensures_ask]
      exact .inl ((h₁.going (by simpa using hgoes)).asked rfl)

theorem dealWithHeldRecord_settled (h : Going start s) :
    Ensures (dealWithHeldRecord P) (fun _ s' => Settled start s') s := by
  unfold dealWithHeldRecord
  rw [ensures_bind, ensures_logger]
  apply Ensures.ite
  · intro _
    apply (storeOrSenderTakesHeldRecord_settled h).bind
    intro taken s₁ h₁
    exact h₁.other rfl rfl
  · intro _
    exact .inl h

/-! ## Reports -/

theorem holdPendingReport_going (h : Going start s) (index : Fin PendingEvents.kindCount) :
    Ensures (holdPendingReport P index) (fun _ s' => Going start s') s := by
  unfold holdPendingReport
  simp only [ensures_bind, ensures_get, ensures_modify, ensures_setLogger, ensures_logger,
    ensures_ask (.formatReport _ _)]
  have htaken : Going start { s with
      pending := (PendingEvents.take s.pending index).2.2
      logger := { s.logger with
        holdsRecord := (PendingEvents.take s.pending index).1
        heldRecordIsReport := (PendingEvents.take s.pending index).1 } } := h.other rfl rfl
  exact Going.other (htaken.asked rfl) rfl rfl

theorem reportIfPending_settled (h : Going start s) (index : Fin PendingEvents.kindCount) :
    Ensures (reportIfPending P index)
      (fun goesOn s' => Settled start s' ∧ (goesOn = true → s'.logger.halted = false)) s := by
  unfold reportIfPending
  rw [ensures_bind, ensures_get]
  apply Ensures.ite
  · intro _
    simp only [ensures_bind, ensures_ask .isEventReportingOn, ensures_setLogger]
    have hasked : Going start { s.asked P .isEventReportingOn with
        logger := { s.logger with
          reportTurnedDown := !(P.answer .isEventReportingOn s.env s.pending).1 } } :=
      Going.other (h.asked rfl) rfl rfl
    apply Ensures.ite
    · intro _
      apply Ensures.bind (holdPendingReport_going hasked index)
      intro _ s₁ h₁
      apply (dealWithHeldRecord_settled h₁).bind
      intro dealtWith s₂ h₂
      rw [ensures_bind, ensures_logger, ensures_pure]
      refine ⟨h₂, fun hgoes => ?_⟩
      rw [Bool.and_eq_true, Bool.not_eq_true'] at hgoes
      exact hgoes.2
    · intro _
      exact ⟨.inl hasked, nofun⟩
  · intro _
    exact ⟨.inl h, fun _ => h.logger⟩

theorem walk_settled (h : Going start s) (indices : List (Fin PendingEvents.kindCount)) :
    Ensures (walk P indices) (fun _ s' => Settled start s') s := by
  induction indices generalizing s with
  | nil => exact .inl h
  | cons index rest ih =>
    unfold walk
    apply (reportIfPending_settled h index).bind
    rintro goesOn s₁ ⟨h₁, hhalted⟩
    apply Ensures.ite
    · intro hgoes
      exact ih (h₁.going (hhalted hgoes))
    · intro _
      exact h₁

theorem reportPendingEvents_settled (h : Going start s) :
    Ensures (reportPendingEvents P) (fun _ s' => Settled start s') s := by
  unfold reportPendingEvents
  rw [ensures_bind, ensures_logger]
  apply Ensures.ite
  · intro _
    apply (walk_settled h _).bind
    intro _ s₁ h₁
    exact h₁
  · intro _
    exact .inl h

/-! ## The pass -/

/-- A loop that ran out of fuel was not halted. -/
theorem drainLoop_settled (h : Settled start s) (drained dealtWith : Bool) (fuel : Nat) :
    Ensures (drainLoop P drained dealtWith fuel)
      (fun outcome s' => Settled start s' ∧ (outcome = none → s'.logger.halted = false)) s := by
  induction fuel generalizing s drained dealtWith with
  | zero =>
    unfold drainLoop
    rw [ensures_bind, ensures_logger]
    apply Ensures.ite
    · intro hgoes
      rw [Bool.and_eq_true, Bool.not_eq_true'] at hgoes
      exact ⟨h, fun _ => hgoes.2⟩
    · intro _
      exact ⟨h, nofun⟩
  | succ fuel ih =>
    unfold drainLoop
    rw [ensures_bind, ensures_logger]
    apply Ensures.ite
    · intro hgoes
      rw [Bool.and_eq_true, Bool.not_eq_true'] at hgoes
      apply (holdNextRecord_going (h.going hgoes.2)).bind
      intro held s₁ h₁
      apply Ensures.ite
      · intro _
        apply (dealWithHeldRecord_settled h₁).bind
        intro dealtWith' s₂ h₂
        exact ih h₂ _ _
      · intro _
        exact ⟨.inl h₁, nofun⟩
    · intro _
      exact ⟨h, nofun⟩

theorem drainBufferIntoStore_settled (h : Going start s) (fuel : Nat) :
    Ensures (drainBufferIntoStore P fuel)
      (fun outcome s' => Settled start s' ∧ (outcome = none → s'.logger.halted = false)) s := by
  unfold drainBufferIntoStore
  apply (applyPolicyToHeldRecordIfBufferFull_settled h).bind
  intro _ s₁ h₁
  rw [ensures_bind, ensures_logger]
  have hdealt : Ensures
      (if s₁.logger.halted then pure false else dealWithHeldRecord P)
      (fun _ s' => Settled start s') s₁ := by
    apply Ensures.ite
    · intro _
      exact h₁
    · intro hgoes
      exact dealWithHeldRecord_settled (h₁.going (by simpa using hgoes))
  apply Ensures.bind hdealt
  intro dealtWith s₂ h₂
  rw [ensures_bind, ensures_logger]
  have hreported : Ensures
      (if dealtWith && !s₂.logger.halted then reportPendingEvents P else pure dealtWith)
      (fun _ s' => Settled start s') s₂ := by
    apply Ensures.ite
    · intro hgoes
      rw [Bool.and_eq_true, Bool.not_eq_true'] at hgoes
      exact reportPendingEvents_settled (h₂.going hgoes.2)
    · intro _
      exact h₂
  apply Ensures.bind hreported
  intro dealtWith' s₃ h₃
  exact drainLoop_settled h₃ _ _ _

theorem sendOneFromStore_going (h : Going start s) :
    Ensures (sendOneFromStore P) (fun _ s' => Going start s') s := by
  have htake : Ensures (takeNextFromStore P) (fun _ s' => Going start s') s := by
    unfold takeNextFromStore
    rw [ensures_bind, ensures_logger]
    apply Ensures.ite
    · intro _
      exact h
    · intro _
      simp only [ensures_bind, ensures_logger, ensures_ask (.storeReadNextUnsent _),
        ensures_setLogger, ensures_pure]
      exact (h.asked rfl).other rfl rfl
  unfold sendOneFromStore
  apply htake.bind
  intro taken s₁ h₁
  apply Ensures.ite
  · intro _
    simp only [ensures_bind, ensures_logger, ensures_ask (.senderSend _)]
    have hsent : Going start (s₁.asked P (.senderSend s₁.logger.record)) := h₁.asked rfl
    apply Ensures.ite
    · intro _
      exact hsent.asked rfl
    · intro _
      exact hsent
  · intro _
    rw [ensures_ask]
    exact h₁.asked rfl

theorem statusOf_settled (h : Settled start s) (storeBlocked drained : Bool) :
    Ensures (statusOf P storeBlocked drained)
      (fun status s' => Settled start s' ∧ (status = .halted ↔ s'.logger.halted = true)) s := by
  unfold statusOf
  simp only [ensures_bind, ensures_logger]
  apply Ensures.ite
  · intro hhalted
    exact ⟨h, iff_of_true rfl hhalted⟩
  · intro hgoes
    have hgoing := h.going (by simpa using hgoes)
    have hfalse : s.logger.halted ≠ true := hgoes
    rw [ensures_bind, ensures_logger]
    apply Ensures.ite
    · intro _
      exact ⟨h, iff_of_false nofun hfalse⟩
    · intro _
      apply Ensures.ite
      · intro _
        exact ⟨h, iff_of_false nofun hfalse⟩
      · intro _
        simp only [ensures_bind, ensures_ask .storeHasUnsent]
        have hasked : Settled start (s.asked P .storeHasUnsent) := .inl (hgoing.asked rfl)
        have hstill : (s.asked P .storeHasUnsent).logger.halted ≠ true := hgoes
        unfold isReportWaiting
        rw [ensures_bind, ensures_get, ensures_pure]
        apply Ensures.ite
        · intro _
          exact ⟨hasked, iff_of_false nofun hstill⟩
        · intro _
          exact ⟨hasked, iff_of_false nofun hstill⟩

theorem processMessages_settled (h : Going start s) (fuel : Nat) :
    Ensures (processMessages P fuel) (fun status s' => Settled start s' ∧
      (status = some .halted ↔ s'.logger.halted = true)) s := by
  unfold processMessages
  rw [ensures_bind, ensures_setLogger]
  have hstart : Going start { s with logger := { s.logger with reportTurnedDown := false } } :=
    h.other rfl rfl
  apply Ensures.bind (drainBufferIntoStore_settled hstart fuel)
  rintro outcome s₁ ⟨h₁, hnone⟩
  cases outcome with
  | none =>
    have hgoes : s₁.logger.halted ≠ true := by simp [hnone rfl]
    exact ⟨h₁, iff_of_false nofun hgoes⟩
  | some drained =>
    simp only [ensures_bind, ensures_logger]
    have hsent : Ensures
        (if s₁.logger.halted then pure false else sendOneFromStore P)
        (fun _ s' => Settled start s') s₁ := by
      apply Ensures.ite
      · intro _
        exact h₁
      · intro hgoes
        apply (sendOneFromStore_going (h₁.going (by simpa using hgoes))).mono
        intro _ s' h'
        exact .inl h'
    apply hsent.mono
    intro storeBlocked s₂ h₂
    apply (statusOf_settled h₂ storeBlocked drained).mono
    rintro status s₃ ⟨h₃, hstatus⟩
    rw [ensures_pure]
    exact ⟨h₃, by simpa using hstatus⟩

end SolidSyslog.Service
