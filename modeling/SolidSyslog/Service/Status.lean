import SolidSyslog.Service.HaltLaw

/-!
# What the status of a pass says

A loop sleeps on the status `Service` returns. `Contracts` is what the interfaces of the buffer and
the store promise: a read delivers the oldest record unless it is too large for the caller,
`HasUnsent` is a question, and a record that was handed out and not marked is still unsent. Any
component that a pass calls may log, so a call may leave anything in the buffer that fits the slot.
A pass reads the buffer before it sends from the store, and does not look again.
-/

namespace SolidSyslog.Service

open Lib

variable {ε ρ : Type} {P : Parts ε ρ} {s s' : State ε ρ} {start : List (Entry ρ)}
  {bound : (ε → Nat) → Nat} {took : Bool} {buffered : ε → List ρ} {size : ρ → Nat}
  {capacity : Nat} {hasUnsent : ε → Bool}

/-! ## The interfaces -/

/-- What a read of a buffer delivers, and what it leaves. -/
def readBuffer (size : ρ → Nat) (maxSize : Nat) : List ρ → Option ρ × List ρ
  | [] => (none, [])
  | record :: rest => if size record ≤ maxSize then (some record, rest) else (none, record :: rest)

/-- A call that does not read the buffer. -/
def Request.leavesBuffer : Request ρ → Bool
  | .bufferRead _ => false
  | _ => true

/-- The contracts of the buffer and the store. A call may write the buffer, but no record too large
for the slot. -/
structure Contracts (P : Parts ε ρ) (buffered : ε → List ρ) (size : ρ → Nat) (capacity : Nat)
    (hasUnsent : ε → Bool) : Prop where
  read : ∀ maxSize env pending,
    ((P.answer (.bufferRead maxSize) env pending).1,
      buffered (P.answer (.bufferRead maxSize) env pending).2.1) =
    readBuffer size maxSize (buffered env)
  fits : ∀ {request : Request ρ} {env pending}, request.leavesBuffer = true →
    (∀ record ∈ buffered env, size record ≤ capacity) →
    ∀ record ∈ buffered (P.answer request env pending).2.1, size record ≤ capacity
  answers : ∀ env pending, (P.answer .storeHasUnsent env pending).1 = hasUnsent env ∧
    hasUnsent (P.answer .storeHasUnsent env pending).2.1 = hasUnsent env
  handsOut : ∀ maxSize env pending record,
    (P.answer (.storeReadNextUnsent maxSize) env pending).1 = some record →
    hasUnsent (P.answer (.storeReadNextUnsent maxSize) env pending).2.1 = true
  sends : ∀ record env pending,
    hasUnsent (P.answer (.senderSend record) env pending).2.1 = hasUnsent env

/-- The calls write no more records than these to the buffer. -/
structure Limits (P : Parts ε ρ) (buffered : ε → List ρ) (more : ε → Nat) : Prop where
  read : ∀ maxSize env pending, more (P.answer (.bufferRead maxSize) env pending).2.1 ≤ more env
  other : ∀ {request : Request ρ} {env pending}, request.leavesBuffer = true →
    (buffered (P.answer request env pending).2.1).length + more (P.answer request env pending).2.1 ≤
      (buffered env).length + more env

/-! ## A pass under way -/

/-- The switch was found off. -/
def SwitchedOff (entries : List (Entry ρ)) : Prop :=
  .call .isEventReportingOn false ∈ entries

/-- Nothing was taken from the buffer. -/
def TookNothing (entries : List (Entry ρ)) : Prop :=
  ∀ maxSize record, .call (.bufferRead maxSize) (some record) ∉ entries

/-- A pass under way that began with the trace `start`, whether any record was taken, and a bound on
the records that may still be. -/
structure Watched (P : Parts ε ρ) (buffered : ε → List ρ) (size : ρ → Nat) (capacity : Nat)
    (start : List (Entry ρ)) (bound : (ε → Nat) → Nat) (took : Bool) (s : State ε ρ) : Prop where
  slot : s.logger.hasStorage = true
  takes : s.logger.recordCapacity = capacity
  fits : ∀ record ∈ buffered s.env, size record ≤ capacity
  spends : ∀ {more}, Limits P buffered more → (buffered s.env).length + more s.env ≤ bound more
  trace : ∃ entries, s.trace = start ++ entries ∧
    (s.logger.reportTurnedDown = true → SwitchedOff entries) ∧
    (took = false → TookNothing entries)

/-- A change to the logger's fields other than these. -/
theorem Watched.other (h : Watched P buffered size capacity start bound took s)
    (hslot : s'.logger.hasStorage = s.logger.hasStorage)
    (hcapacity : s'.logger.recordCapacity = s.logger.recordCapacity)
    (hturned : s'.logger.reportTurnedDown = s.logger.reportTurnedDown) (henv : s'.env = s.env)
    (htrace : s'.trace = s.trace) : Watched P buffered size capacity start bound took s' := by
  refine ⟨hslot.trans h.slot, hcapacity.trans h.takes, ?_, ?_, ?_⟩
  · rw [henv]
    exact h.fits
  · rw [henv]
    exact h.spends
  · rw [htrace, hturned]
    exact h.trace

theorem SwitchedOff.concat {entries : List (Entry ρ)} (h : SwitchedOff entries) (entry : Entry ρ) :
    SwitchedOff (entries ++ [entry]) :=
  List.mem_append_left _ h

theorem TookNothing.concat {entries : List (Entry ρ)} (h : TookNothing entries) {entry : Entry ρ}
    (hentry : ∀ maxSize record, entry ≠ .call (.bufferRead maxSize) (some record)) :
    TookNothing (entries ++ [entry]) := by
  intro maxSize record hmem
  rcases List.mem_append.1 hmem with hmem | hmem
  · exact h maxSize record hmem
  · exact hentry maxSize record (List.mem_singleton.1 hmem).symm

theorem Request.ne_bufferRead {request : Request ρ} (h : request.leavesBuffer = true)
    (maxSize : Nat) : request ≠ .bufferRead maxSize := by
  rintro rfl
  cases h

theorem Watched.asked (hP : Contracts P buffered size capacity hasUnsent)
    (h : Watched P buffered size capacity start bound took s) {request : Request ρ}
    (hleaves : request.leavesBuffer = true) :
    Watched P buffered size capacity start bound took (s.asked P request) := by
  refine ⟨h.slot, h.takes, hP.fits hleaves h.fits, ?_, ?_⟩
  · exact fun hmore => (hmore.other hleaves).trans (h.spends hmore)
  · obtain ⟨entries, htrace, hturned, htook⟩ := h.trace
    refine ⟨entries ++ [.call request (P.answer request s.env s.pending).1], ?_, ?_, ?_⟩
    · rw [State.asked_trace, htrace, List.append_assoc]
    · exact fun hoff => (hturned hoff).concat _
    · intro hnot
      apply (htook hnot).concat
      intro maxSize record heq
      injection heq with hrequest
      exact Request.ne_bufferRead hleaves maxSize hrequest

/-! ## Since the last read -/

/-- The calls made to send a record from the store and to tell the status. -/
def Request.ofSendStep : Request ρ → Bool
  | .storeReadNextUnsent _ | .senderSend _ | .storeMarkSent | .storeHasUnsent => true
  | _ => false

/-- The pass's last read found the buffer empty, and only the calls of the send step have been made
since. What the buffer holds is what these have left in it: whatever is true of an empty buffer, and
stays true over each of them, is true of it. -/
def Emptied (P : Parts ε ρ) (buffered : ε → List ρ) (start : List (Entry ρ)) (s : State ε ρ) :
    Prop :=
  ∃ before maxSize since, s.trace = start ++ before ++ .call (.bufferRead maxSize) none :: since ∧
    (∀ entry ∈ since, ∃ request answer, entry = .call request answer ∧ request.ofSendStep = true) ∧
    ∀ I : List ρ → Prop, I [] →
      (∀ request answer, .call request answer ∈ since → ∀ env pending, I (buffered env) →
        I (buffered (P.answer request env pending).2.1)) → I (buffered s.env)

theorem Emptied.asked (h : Emptied P buffered start s) {request : Request ρ}
    (hstep : request.ofSendStep = true) : Emptied P buffered start (s.asked P request) := by
  obtain ⟨before, maxSize, since, htrace, hsteps, hkeeps⟩ := h
  refine ⟨before, maxSize, since ++
    [.call request (P.answer request s.env s.pending).1], ?_, ?_, ?_⟩
  · rw [State.asked_trace, htrace, List.append_assoc, List.cons_append]
  · intro entry hentry
    rcases List.mem_append.1 hentry with hentry | hentry
    · exact hsteps entry hentry
    · exact ⟨request, _, List.mem_singleton.1 hentry, hstep⟩
  · intro I hempty hcalls
    have hbefore := hkeeps I hempty fun request answer hmem =>
      hcalls request answer (List.mem_append_left _ hmem)
    exact hcalls request _ (List.mem_append_right _ (List.mem_singleton_self _)) _ _ hbefore

/-- A change to the logger's fields. -/
theorem Emptied.other (h : Emptied P buffered start s) (henv : s'.env = s.env)
    (htrace : s'.trace = s.trace) : Emptied P buffered start s' := by
  unfold Emptied
  rw [henv, htrace]
  exact h

/-! ## The held record -/

theorem report_watched (hP : Contracts P buffered size capacity hasUnsent)
    (h : Watched P buffered size capacity start bound took s) (severity : Severity)
    (category : Category)
    (error : LoggerError) :
    Ensures (report P severity category error)
      (fun _ s' => Watched P buffered size capacity start bound took s') s := by
  rw [ensures_report]
  have hasked : Watched P buffered size capacity start bound took (s.asked P
      (.errorHandler ⟨severity, category, false, "SolidSyslog", error.code, 0⟩)) := h.asked hP rfl
  exact hasked.other rfl rfl rfl rfl rfl

theorem halt_watched (hP : Contracts P buffered size capacity hasUnsent)
    (h : Watched P buffered size capacity start bound took s) (haltedAt : LoggerError) :
    Ensures (halt P haltedAt)
      (fun _ s' => Watched P buffered size capacity start bound took s') s := by
  unfold halt
  rw [ensures_bind, ensures_setLogger]
  have hset : Watched P buffered size capacity start bound took
      { s with logger := { s.logger with halted := true } } :=
    h.other rfl rfl rfl rfl rfl
  apply Ensures.bind (report_watched hP hset .error .loggerHalted haltedAt)
  intro _ s₁ h₁
  rw [ensures_bind, ensures_ask .onHalt]
  exact h₁.asked hP rfl

theorem haltIfPolicyHalts_watched (hP : Contracts P buffered size capacity hasUnsent)
    (h : Watched P buffered size capacity start bound took s) :
    Ensures (haltIfPolicyHalts P)
      (fun _ s' => Watched P buffered size capacity start bound took s') s := by
  unfold haltIfPolicyHalts policyHalts
  simp only [ensures_bind, ensures_ask .getDiscardPolicy, ensures_pure]
  apply Ensures.ite
  · intro _
    exact halt_watched hP (h.asked hP rfl) _
  · intro _
    exact h.asked hP rfl

theorem dropHeldRecord_watched (hP : Contracts P buffered size capacity hasUnsent)
    (h : Watched P buffered size capacity start bound took s) :
    Ensures (dropHeldRecord P)
      (fun _ s' => Watched P buffered size capacity start bound took s') s := by
  unfold dropHeldRecord
  simp only [ensures_bind, ensures_logger, ensures_modify, ensures_setLogger]
  have hdropped : Watched P buffered size capacity start bound took { s with
      trace := s.trace ++ [.dropped s.logger.record]
      logger := { s.logger with holdsRecord := false, heldRecordLossReported := true } } := by
    refine ⟨h.slot, h.takes, h.fits, h.spends, ?_⟩
    obtain ⟨entries, htrace, hturned, htook⟩ := h.trace
    refine ⟨entries ++ [.dropped s.logger.record], ?_, ?_, ?_⟩
    · simp [htrace]
    · exact fun hoff => (hturned hoff).concat _
    · exact fun hnot => (htook hnot).concat nofun
  apply Ensures.ite
  · intro _
    exact report_watched hP hdropped _ _ _
  · intro _
    exact hdropped

theorem applyPolicyToHeldRecordIfBufferFull_watched
    (hP : Contracts P buffered size capacity hasUnsent)
    (h : Watched P buffered size capacity start bound took s) :
    Ensures (applyPolicyToHeldRecordIfBufferFull P)
      (fun _ s' => Watched P buffered size capacity start bound took s') s := by
  unfold applyPolicyToHeldRecordIfBufferFull
  rw [ensures_bind, ensures_logger]
  apply Ensures.ite
  · intro _
    simp only [ensures_bind, ensures_ask .bufferIsFull]
    have hasked : Watched P buffered size capacity start bound took (s.asked P .bufferIsFull) :=
      h.asked hP rfl
    apply Ensures.ite
    · intro _
      simp only [ensures_bind, ensures_ask .getDiscardPolicy, ensures_logger]
      have hanswered : Watched P buffered size capacity start bound took
          ((s.asked P .bufferIsFull).asked P .getDiscardPolicy) := hasked.asked hP rfl
      apply Ensures.ite
      · intro _
        exact dropHeldRecord_watched hP hanswered
      · intro _
        apply Ensures.ite
        · intro _
          exact halt_watched hP hanswered _
        · intro _
          exact hanswered
    · intro _
      exact hasked
  · intro _
    exact h

/-- No record is too large for the slot, so a read that finds nothing has found the buffer empty. -/
theorem holdNextRecord_watched (hP : Contracts P buffered size capacity hasUnsent)
    (h : Watched P buffered size capacity start bound took s) :
    Ensures (holdNextRecord P) (fun found s' => s'.logger.holdsRecord = found ∧
      match found with
      | false => Emptied P buffered start s' ∧ Watched P buffered size capacity start bound took s'
      | true => ∃ bound', (∀ {more}, Limits P buffered more → bound' more < bound more) ∧
          Watched P buffered size capacity start bound' true s') s := by
  unfold holdNextRecord
  simp only [ensures_bind, ensures_logger, ensures_ask (.bufferRead _), ensures_setLogger,
    ensures_pure]
  have hread := hP.read s.logger.recordCapacity s.env s.pending
  obtain ⟨entries, htrace, hturned, htook⟩ := h.trace
  cases hleft : buffered s.env with
  | nil =>
    rw [hleft, readBuffer, Prod.mk.injEq] at hread
    obtain ⟨hnone, hstays⟩ := hread
    rw [hnone]
    refine ⟨trivial, ⟨entries, s.logger.recordCapacity, [], ?_, List.forall_mem_nil _, ?_⟩,
      h.slot, h.takes, ?_, ?_, entries ++ [.call (.bufferRead s.logger.recordCapacity) none],
      ?_, ?_, ?_⟩
    · change s.trace ++ [_] = _
      rw [htrace, hnone]
    · intro I hempty _
      change I (buffered (P.answer _ s.env s.pending).2.1)
      rw [hstays]
      exact hempty
    · change ∀ record ∈ buffered (P.answer _ s.env s.pending).2.1, _
      rw [hstays]
      exact List.forall_mem_nil _
    · intro more hmore
      have hspent := h.spends hmore
      rw [hleft] at hspent
      change (buffered (P.answer _ s.env s.pending).2.1).length + _ ≤ _
      rw [hstays]
      exact (Nat.add_le_add_left (hmore.read _ _ _) _).trans hspent
    · change s.trace ++ [_] = _
      rw [htrace, hnone, List.append_assoc]
    · exact fun hoff => (hturned hoff).concat _
    · exact fun hnot => (htook hnot).concat nofun
  | cons record rest =>
    have hsize : size record ≤ s.logger.recordCapacity :=
      (h.fits record (hleft ▸ List.mem_cons_self)).trans h.takes.ge
    rw [hleft, readBuffer, if_pos hsize, Prod.mk.injEq] at hread
    obtain ⟨hsome, hrest⟩ := hread
    rw [hsome]
    refine ⟨trivial, fun more => rest.length + more (P.answer
      (.bufferRead s.logger.recordCapacity) s.env s.pending).2.1, ?_, h.slot, h.takes, ?_, ?_,
      entries ++ [.call (.bufferRead s.logger.recordCapacity) (some record)], ?_, ?_, nofun⟩
    · intro more hmore
      have hspent := h.spends hmore
      have hless := hmore.read s.logger.recordCapacity s.env s.pending
      rw [hleft, List.length_cons] at hspent
      dsimp only
      omega
    · intro other hother
      change other ∈ buffered (P.answer _ s.env s.pending).2.1 at hother
      rw [hrest] at hother
      exact h.fits other (hleft ▸ List.mem_cons_of_mem _ hother)
    · intro more _
      change (buffered (P.answer _ s.env s.pending).2.1).length + _ ≤ _
      rw [hrest]
      exact le_rfl
    · change s.trace ++ [_] = _
      rw [htrace, hsome, List.append_assoc]
    · exact fun hoff => (hturned hoff).concat _

theorem storeDealsWithHeldRecord_watched (hP : Contracts P buffered size capacity hasUnsent)
    (h : Watched P buffered size capacity start bound took s) :
    Ensures (storeDealsWithHeldRecord P)
      (fun _ s' => Watched P buffered size capacity start bound took s') s := by
  unfold storeDealsWithHeldRecord
  simp only [ensures_bind, ensures_logger, ensures_ask (.storeWrite _)]
  have hasked : Watched P buffered size capacity start bound took
    (s.asked P (.storeWrite s.logger.record)) :=
    h.asked hP rfl
  apply Ensures.ite
  · intro _
    simp only [ensures_bind, ensures_ask .storeIsTransient, ensures_pure]
    have hjudged : Watched P buffered size capacity start bound took
        ((s.asked P (.storeWrite s.logger.record)).asked P .storeIsTransient) := hasked.asked hP rfl
    apply Ensures.ite
    · intro _
      apply (haltIfPolicyHalts_watched hP hjudged).bind
      intro _ s₁ h₁
      exact h₁
    · intro _
      exact hjudged
  · intro _
    exact hasked

theorem storeOrSenderTakesHeldRecord_watched (hP : Contracts P buffered size capacity hasUnsent)
    (h : Watched P buffered size capacity start bound took s) :
    Ensures (storeOrSenderTakesHeldRecord P)
      (fun _ s' => Watched P buffered size capacity start bound took s') s := by
  unfold storeOrSenderTakesHeldRecord
  apply (storeDealsWithHeldRecord_watched hP h).bind
  intro dealt s₁ h₁
  apply Ensures.ite
  · intro _
    exact h₁
  · intro _
    rw [ensures_bind, ensures_logger]
    apply Ensures.ite
    · intro _
      exact h₁
    · intro _
      rw [ensures_bind, ensures_logger, ensures_ask (.senderSend _)]
      exact h₁.asked hP rfl

theorem dealWithHeldRecord_watched (hP : Contracts P buffered size capacity hasUnsent)
    (h : Watched P buffered size capacity start bound took s) :
    Ensures (dealWithHeldRecord P) (fun dealtWith s' =>
      Watched P buffered size capacity start bound took s' ∧
        (dealtWith = true ↔ s'.logger.holdsRecord = false)) s := by
  unfold dealWithHeldRecord
  rw [ensures_bind, ensures_logger]
  apply Ensures.ite
  · intro _
    apply (storeOrSenderTakesHeldRecord_watched hP h).bind
    intro taken s₁ h₁
    simp only [ensures_bind, ensures_setLogger, ensures_logger, ensures_pure]
    exact ⟨h₁.other rfl rfl rfl rfl rfl, by simp⟩
  · intro _
    simp only [ensures_bind, ensures_logger, ensures_pure]
    exact ⟨h, by simp⟩

/-! ## Reports -/

theorem holdPendingReport_watched (hP : Contracts P buffered size capacity hasUnsent)
    (h : Watched P buffered size capacity start bound took s)
    (index : Fin PendingEvents.kindCount) :
    Ensures (holdPendingReport P index)
      (fun _ s' => Watched P buffered size capacity start bound took s') s := by
  unfold holdPendingReport
  simp only [ensures_bind, ensures_get, ensures_modify, ensures_setLogger, ensures_logger,
    ensures_ask (.formatReport _ _)]
  have htaken : Watched P buffered size capacity start bound took { s with
      pending := (PendingEvents.take s.pending index).2.2
      logger := { s.logger with
        holdsRecord := (PendingEvents.take s.pending index).1
        heldRecordIsReport := (PendingEvents.take s.pending index).1 } } :=
    h.other rfl rfl rfl rfl rfl
  let report : Request ρ :=
    .formatReport s.logger.recordCapacity (PendingEvents.take s.pending index).2.1
  have hleaves : report.leavesBuffer = true := rfl
  exact (htaken.asked hP hleaves).other rfl rfl rfl rfl rfl

/-- The switch is noted with its answer. -/
theorem isEventReportingOn_watched (hP : Contracts P buffered size capacity hasUnsent)
    (h : Watched P buffered size capacity start bound took s) :
    Watched P buffered size capacity start bound took { s.asked P .isEventReportingOn with
      logger := { s.logger with reportTurnedDown :=
        !(P.answer .isEventReportingOn s.env s.pending).1 } } := by
  have hasked : Watched P buffered size capacity start bound took (s.asked P .isEventReportingOn) :=
    h.asked hP rfl
  refine ⟨h.slot, h.takes, hasked.fits, hasked.spends, ?_⟩
  obtain ⟨entries, htrace, -, htook⟩ := h.trace
  refine ⟨entries ++ [.call .isEventReportingOn (P.answer .isEventReportingOn s.env s.pending).1],
    ?_, ?_, ?_⟩
  · rw [State.asked_trace, htrace, List.append_assoc]
  · intro hoff
    have hanswer : (P.answer .isEventReportingOn s.env s.pending).1 = false := by simpa using hoff
    rw [hanswer]
    exact List.mem_append_right _ List.mem_cons_self
  · exact fun hnot => (htook hnot).concat nofun

theorem reportIfPending_watched (hP : Contracts P buffered size capacity hasUnsent)
    (h : Watched P buffered size capacity start bound took s)
    (index : Fin PendingEvents.kindCount) :
    Ensures (reportIfPending P index)
      (fun _ s' => Watched P buffered size capacity start bound took s') s := by
  unfold reportIfPending
  rw [ensures_bind, ensures_get]
  apply Ensures.ite
  · intro _
    simp only [ensures_bind, ensures_ask .isEventReportingOn, ensures_setLogger]
    have hanswered := isEventReportingOn_watched hP h
    apply Ensures.ite
    · intro _
      apply Ensures.bind (holdPendingReport_watched hP hanswered index)
      intro _ s₁ h₁
      apply (dealWithHeldRecord_watched hP h₁).bind
      rintro dealtWith s₂ ⟨h₂, -⟩
      exact h₂
    · intro _
      exact hanswered
  · intro _
    exact h

theorem walk_watched (hP : Contracts P buffered size capacity hasUnsent)
    (h : Watched P buffered size capacity start bound took s)
    (indices : List (Fin PendingEvents.kindCount)) :
    Ensures (walk P indices)
      (fun _ s' => Watched P buffered size capacity start bound took s') s := by
  induction indices generalizing s with
  | nil => exact h
  | cons index rest ih =>
    unfold walk
    apply (reportIfPending_watched hP h index).bind
    intro goesOn s₁ h₁
    apply Ensures.ite
    · intro _
      exact ih h₁
    · intro _
      exact h₁

theorem reportPendingEvents_watched (hP : Contracts P buffered size capacity hasUnsent)
    (h : Watched P buffered size capacity start bound took s) :
    Ensures (reportPendingEvents P) (fun dealtWith s' =>
      Watched P buffered size capacity start bound took s' ∧
        (dealtWith = true ↔ s'.logger.holdsRecord = false)) s := by
  unfold reportPendingEvents
  rw [ensures_bind, ensures_logger]
  apply Ensures.ite
  · intro _
    apply (walk_watched hP h _).bind
    intro _ s₁ h₁
    rw [ensures_bind, ensures_logger, ensures_pure]
    exact ⟨h₁, by simp⟩
  · intro _
    rw [ensures_bind, ensures_logger, ensures_pure]
    exact ⟨h, by simp⟩

/-! ## The pass -/

/-- Why the drain ended: the logger halted, a record is held, or the buffer was found empty. -/
def Drained (P : Parts ε ρ) (buffered : ε → List ρ) (start : List (Entry ρ)) (s : State ε ρ) :
    Prop :=
  s.logger.halted = true ∨ s.logger.holdsRecord = true ∨ Emptied P buffered start s

theorem Drained.of_stops {dealtWith : Bool}
    (hdealt : dealtWith = false → s.logger.halted = true ∨ s.logger.holdsRecord = true)
    (hstops : ¬(dealtWith && !s.logger.halted) = true) : Drained P buffered start s := by
  cases dealtWith with
  | false =>
    rcases hdealt rfl with hhalted | hholds
    · exact .inl hhalted
    · exact .inr (.inl hholds)
  | true =>
    rw [Bool.true_and, Bool.not_eq_true', Bool.not_eq_false] at hstops
    exact .inl hstops

/-- The loop ends once it has read what the buffer holds and what is still written to it. -/
theorem drainLoop_watched (hP : Contracts P buffered size capacity hasUnsent)
    (h : Watched P buffered size capacity start bound took s) {dealtWith : Bool}
    (hdealt : dealtWith = false → s.logger.halted = true ∨ s.logger.holdsRecord = true)
    (fuel : Nat) :
    Ensures (drainLoop P took dealtWith fuel) (fun outcome s' =>
      match outcome with
      | none => ∀ {more}, Limits P buffered more → fuel ≤ bound more
      | some drained => ∃ bound', Watched P buffered size capacity start bound' drained s' ∧
          Drained P buffered start s') s := by
  induction fuel generalizing s bound took dealtWith with
  | zero =>
    unfold drainLoop
    rw [ensures_bind, ensures_logger]
    apply Ensures.ite
    · intro _ more _
      exact Nat.zero_le _
    · intro hstops
      exact ⟨bound, h, .of_stops hdealt hstops⟩
  | succ fuel ih =>
    unfold drainLoop
    rw [ensures_bind, ensures_logger]
    apply Ensures.ite
    · intro _
      apply (holdNextRecord_watched hP h).bind
      rintro found s₁ ⟨hholds, hfound⟩
      cases found with
      | false =>
        obtain ⟨hemptied, h₁⟩ := hfound
        exact ⟨bound, h₁, .inr (.inr hemptied)⟩
      | true =>
        obtain ⟨bound', hless, h₁⟩ := hfound
        apply (dealWithHeldRecord_watched hP h₁).bind
        rintro dealtWith' s₂ ⟨h₂, hdealt₂⟩
        have hholds₂ : dealtWith' = false →
            s₂.logger.halted = true ∨ s₂.logger.holdsRecord = true := by
          rintro rfl
          exact .inr (by simpa using hdealt₂)
        apply (ih h₂ hholds₂).mono
        intro outcome s₃ h₃
        cases outcome with
        | none => exact fun hmore => (h₃ hmore).trans_lt (hless hmore)
        | some drained => exact h₃
    · intro hstops
      exact ⟨bound, h, .of_stops hdealt hstops⟩

theorem drainBufferIntoStore_watched (hP : Contracts P buffered size capacity hasUnsent)
    (h : Watched P buffered size capacity start bound false s) (fuel : Nat) :
    Ensures (drainBufferIntoStore P fuel) (fun outcome s' =>
      match outcome with
      | none => ∀ {more}, Limits P buffered more → fuel ≤ bound more
      | some drained => ∃ bound', Watched P buffered size capacity start bound' drained s' ∧
          Drained P buffered start s') s := by
  unfold drainBufferIntoStore
  apply (applyPolicyToHeldRecordIfBufferFull_watched hP h).bind
  intro _ s₁ h₁
  rw [ensures_bind, ensures_logger]
  have hdealt : Ensures (if s₁.logger.halted then pure false else dealWithHeldRecord P)
      (fun dealtWith s' => Watched P buffered size capacity start bound false s' ∧
        (dealtWith = false → s'.logger.halted = true ∨ s'.logger.holdsRecord = true)) s₁ := by
    apply Ensures.ite
    · intro hhalted
      exact ⟨h₁, fun _ => .inl hhalted⟩
    · intro _
      apply (dealWithHeldRecord_watched hP h₁).mono
      rintro dealtWith s' ⟨h', hholds⟩
      refine ⟨h', ?_⟩
      rintro rfl
      exact .inr (by simpa using hholds)
  apply Ensures.bind hdealt
  rintro dealtWith s₂ ⟨h₂, hholds₂⟩
  rw [ensures_bind, ensures_logger]
  have hreported : Ensures
      (if dealtWith && !s₂.logger.halted then reportPendingEvents P else pure dealtWith)
      (fun dealtWith s' => Watched P buffered size capacity start bound false s' ∧
        (dealtWith = false → s'.logger.halted = true ∨ s'.logger.holdsRecord = true)) s₂ := by
    apply Ensures.ite
    · intro _
      apply (reportPendingEvents_watched hP h₂).mono
      rintro dealtWith' s' ⟨h', hholds⟩
      refine ⟨h', ?_⟩
      rintro rfl
      exact .inr (by simpa using hholds)
    · intro _
      exact ⟨h₂, hholds₂⟩
  apply Ensures.bind hreported
  rintro dealtWith' s₃ ⟨h₃, hholds₃⟩
  exact drainLoop_watched hP h₃ hholds₃ fuel

theorem Drained.asked (h : Drained P buffered start s) {request : Request ρ}
    (hstep : request.ofSendStep = true) : Drained P buffered start (s.asked P request) :=
  h.imp_right fun h => h.imp_right fun h => h.asked hstep

/-- A store that could not move a record still has unsent ones. -/
theorem sendOneFromStore_watched (hP : Contracts P buffered size capacity hasUnsent)
    (h : Watched P buffered size capacity start bound took s)
    (hdrained : Drained P buffered start s) :
    Ensures (sendOneFromStore P) (fun storeBlocked s' =>
      Watched P buffered size capacity start bound took s' ∧ Drained P buffered start s' ∧
        (storeBlocked = true → hasUnsent s'.env = true)) s := by
  have htake : Ensures (takeNextFromStore P) (fun taken s' =>
      Watched P buffered size capacity start bound took s' ∧ Drained P buffered start s' ∧
        (taken = true → hasUnsent s'.env = true)) s := by
    unfold takeNextFromStore
    rw [ensures_bind, ensures_logger]
    apply Ensures.ite
    · intro _
      exact ⟨h, hdrained, nofun⟩
    · intro _
      simp only [ensures_bind, ensures_logger, ensures_ask (.storeReadNextUnsent _),
        ensures_setLogger, ensures_pure]
      have hasked : Watched P buffered size capacity start bound took
          (s.asked P (.storeReadNextUnsent s.logger.recordCapacity)) := h.asked hP rfl
      have hstill : Drained P buffered start
          (s.asked P (.storeReadNextUnsent s.logger.recordCapacity)) := hdrained.asked rfl
      refine ⟨hasked.other rfl rfl rfl rfl rfl, ?_, fun htaken => ?_⟩
      · exact hstill.imp_right fun h => h.imp_right fun h => h.other rfl rfl
      obtain ⟨record, hrecord⟩ := Option.isSome_iff_exists.1 htaken
      exact hP.handsOut _ _ _ record hrecord
  unfold sendOneFromStore
  apply htake.bind
  rintro taken s₁ ⟨h₁, hdrained₁, hunsent⟩
  apply Ensures.ite
  · intro htaken
    simp only [ensures_bind, ensures_logger, ensures_ask (.senderSend _)]
    have hsent : Watched P buffered size capacity start bound took
        (s₁.asked P (.senderSend s₁.logger.record)) := h₁.asked hP rfl
    have hstill : Drained P buffered start (s₁.asked P (.senderSend s₁.logger.record)) :=
      hdrained₁.asked rfl
    apply Ensures.ite
    · intro _
      exact ⟨hsent.asked hP rfl, hstill.asked rfl, nofun⟩
    · intro _
      refine ⟨hsent, hstill, fun _ => ?_⟩
      exact (hP.sends _ _ _).trans (hunsent htaken)
  · intro _
    rw [ensures_ask .storeHasUnsent]
    refine ⟨h₁.asked hP rfl, hdrained₁.asked rfl, fun hanswer => ?_⟩
    obtain ⟨hanswers, hstays⟩ := hP.answers s₁.env s₁.pending
    exact hstays.trans (hanswers.symm.trans hanswer)

/-- What a status says at the end of a pass. -/
def Says (P : Parts ε ρ) (buffered : ε → List ρ) (hasUnsent : ε → Bool) (start : List (Entry ρ))
    (s : State ε ρ) : ServiceStatus → Prop
  | .idle => s.logger.holdsRecord = false ∧ Emptied P buffered start s ∧ hasUnsent s.env = false ∧
      (PendingEvents.anyPending s.pending = false ∨
        ∃ entries, s.trace = start ++ entries ∧ SwitchedOff entries)
  | .blocked => s.logger.holdsRecord = true ∨
      (hasUnsent s.env = true ∧ ∃ entries, s.trace = start ++ entries ∧ TookNothing entries)
  | .ready => s.logger.holdsRecord = false ∧ s.logger.halted = false
  | .halted => True

theorem statusOf_speaks (hP : Contracts P buffered size capacity hasUnsent)
    (h : Watched P buffered size capacity start bound took s)
    (hdrained : Drained P buffered start s) {storeBlocked : Bool}
    (hblocked : storeBlocked = true → hasUnsent s.env = true) :
    Ensures (statusOf P storeBlocked took)
      (fun status s' => Says P buffered hasUnsent start s' status) s := by
  unfold statusOf
  rw [ensures_bind, ensures_logger]
  apply Ensures.ite
  · intro _
    trivial
  · intro hgoes
    rw [Bool.not_eq_true] at hgoes
    rw [ensures_bind, ensures_logger]
    apply Ensures.ite
    · intro hstuck
      rw [ensures_pure]
      rw [Bool.or_eq_true, Bool.and_eq_true, Bool.not_eq_true'] at hstuck
      rcases hstuck with hholds | ⟨hstore, htook⟩
      · exact .inl hholds
      · obtain ⟨entries, htrace, -, hnothing⟩ := h.trace
        exact .inr ⟨hblocked hstore, entries, htrace, hnothing htook⟩
    · intro hfree
      have hholds : s.logger.holdsRecord = false := by
        by_contra hheld
        rw [Bool.not_eq_false] at hheld
        exact hfree (by rw [hheld, Bool.true_or])
      apply Ensures.ite
      · intro _
        exact ⟨hholds, hgoes⟩
      · intro _
        simp only [ensures_bind, ensures_ask .storeHasUnsent]
        have hasked : Watched P buffered size capacity start bound took
            (s.asked P .storeHasUnsent) := h.asked hP rfl
        obtain ⟨hanswers, hstays⟩ := hP.answers s.env s.pending
        unfold isReportWaiting
        rw [ensures_bind, ensures_get, ensures_pure]
        apply Ensures.ite
        · intro _
          exact ⟨hholds, hgoes⟩
        · intro hdone
          rw [ensures_pure]
          rw [Bool.not_eq_true, Bool.or_eq_false_iff] at hdone
          obtain ⟨hnone, hwaiting⟩ := hdone
          have hemptied : Emptied P buffered start s := by
            rcases hdrained with hhalted | hheld | hemptied
            · exact absurd (hgoes.symm.trans hhalted) Bool.false_ne_true
            · exact absurd (hholds.symm.trans hheld) Bool.false_ne_true
            · exact hemptied
          refine ⟨hholds, hemptied.asked rfl, hstays.trans (hanswers.symm.trans hnone), ?_⟩
          rw [hasked.slot, Bool.true_and] at hwaiting
          cases hturned : s.logger.reportTurnedDown with
          | true =>
            obtain ⟨entries, htrace, hoff, -⟩ := hasked.trace
            exact .inr ⟨entries, htrace, hoff hturned⟩
          | false =>
            rw [State.asked_logger, hturned] at hwaiting
            exact .inl hwaiting

theorem processMessages_says (hP : Contracts P buffered size capacity hasUnsent)
    (h : Watched P buffered size capacity start bound false
      { s with logger := { s.logger with reportTurnedDown := false } }) (fuel : Nat) :
    Ensures (processMessages P fuel) (fun outcome s' =>
      match outcome with
      | none => ∀ {more}, Limits P buffered more → fuel ≤ bound more
      | some status => Says P buffered hasUnsent start s' status) s := by
  unfold processMessages
  rw [ensures_bind, ensures_setLogger]
  apply Ensures.bind (drainBufferIntoStore_watched hP h fuel)
  intro outcome s₁ h₁
  cases outcome with
  | none => exact h₁
  | some drained =>
    obtain ⟨bound', h₁, hdrained⟩ := h₁
    simp only [ensures_bind, ensures_logger]
    have hsent : Ensures (if s₁.logger.halted then pure false else sendOneFromStore P)
        (fun storeBlocked s' => Watched P buffered size capacity start bound' drained s' ∧
          Drained P buffered start s' ∧ (storeBlocked = true → hasUnsent s'.env = true)) s₁ := by
      apply Ensures.ite
      · intro _
        exact ⟨h₁, hdrained, nofun⟩
      · intro _
        exact sendOneFromStore_watched hP h₁ hdrained
    apply hsent.mono
    rintro storeBlocked s₂ ⟨h₂, hdrained₂, hblocked⟩
    exact statusOf_speaks hP h₂ hdrained₂ hblocked

/-- A pass that goes on starts with the switch not yet asked. -/
theorem resumed_watched (hP : Contracts P buffered size s.logger.recordCapacity hasUnsent)
    (hslot : s.logger.hasStorage = true)
    (hfits : ∀ record ∈ buffered s.env, size record ≤ s.logger.recordCapacity) :
    Watched P buffered size s.logger.recordCapacity s.trace
      (fun more => (buffered s.env).length + more s.env) false { s.resumed P with
      logger := { (s.resumed P).logger with reportTurnedDown := false } } := by
  have hstart : Watched P buffered size s.logger.recordCapacity s.trace
      (fun more => (buffered s.env).length + more s.env) false
      { s with logger := { s.logger with reportTurnedDown := false } } :=
    ⟨hslot, rfl, hfits, fun _ => le_rfl, [], by simp, nofun, fun _ => nofun⟩
  unfold State.resumed
  split
  · have hleaves : (Request.getDiscardPolicy : Request ρ).leavesBuffer = true := rfl
    exact (hstart.asked hP hleaves).other rfl rfl rfl rfl rfl
  · exact hstart

/-- A list for a buffer, a list for a store, and how many records the sender still logs. -/
structure Talk where
  buffered : List Nat
  stored : List Nat
  logs : Nat

/-- A system whose sender logs the record 9 in a send, while it has any to log. -/
def talkingParts : Parts Talk Nat where
  answer
    | .bufferRead maxSize, env, pending =>
      ((readBuffer id maxSize env.buffered).1,
        { env with buffered := (readBuffer id maxSize env.buffered).2 }, pending)
    | .bufferIsFull, env, pending => (false, env, pending)
    | .storeWrite record, env, pending =>
      (.kept, { env with stored := env.stored ++ [record] }, pending)
    | .storeReadNextUnsent _, env, pending => (env.stored.head?, env, pending)
    | .storeMarkSent, env, pending => ((), { env with stored := env.stored.tail }, pending)
    | .storeHasUnsent, env, pending => (!env.stored.isEmpty, env, pending)
    | .storeIsTransient, env, pending => (false, env, pending)
    | .senderSend _, env, pending =>
      (true, ⟨env.buffered ++ List.replicate (min env.logs 1) 9, env.stored, env.logs - 1⟩, pending)
    | .getDiscardPolicy, env, pending => (.oldest, env, pending)
    | .isEventReportingOn, env, pending => (true, env, pending)
    | .onHalt, env, pending => ((), env, pending)
    | .errorHandler _, env, pending => ((), env, pending)
    | .formatReport _ _, env, pending => (0, env, pending)

theorem talkingParts_contracts :
    Contracts talkingParts Talk.buffered id 16 (fun env => !env.stored.isEmpty) where
  read _ _ _ := rfl
  fits := by
    intro request env pending hleaves hfits record hrecord
    cases request with
    | bufferRead maxSize => cases hleaves
    | senderSend sent =>
      rcases List.mem_append.1 hrecord with hrecord | hrecord
      · exact hfits record hrecord
      · rw [List.eq_of_mem_replicate hrecord]
        decide
    | _ => exact hfits record hrecord
  answers _ _ := ⟨rfl, rfl⟩
  handsOut maxSize env pending record hsome := by
    change env.stored.head? = some record at hsome
    change (!env.stored.isEmpty) = true
    cases hstored : env.stored with
    | nil =>
      rw [hstored] at hsome
      cases hsome
    | cons first rest => rfl
  sends _ _ _ := rfl

theorem talkingParts_limits : Limits talkingParts Talk.buffered Talk.logs where
  read _ _ _ := le_rfl
  other := by
    intro request env pending hleaves
    cases request with
    | bufferRead maxSize => cases hleaves
    | senderSend sent =>
      change (env.buffered ++ List.replicate (min env.logs 1) 9).length + (env.logs - 1) ≤ _
      rw [List.length_append, List.length_replicate]
      omega
    | _ => exact le_rfl

/-- The last record of the store is waiting, and the sender has one to log. -/
def lastStored : State Talk Nat :=
  ⟨.initial 16 0, ⟨[], [5], 1⟩, PendingEvents.empty, []⟩

end SolidSyslog.Service
