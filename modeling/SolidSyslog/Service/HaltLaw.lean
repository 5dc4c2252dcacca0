import SolidSyslog.Service.Halting
import SolidSyslog.Lib.Run

/-!
# A halt stops everything

What the phases of a pass say of its calls in plain terms, `HaltLaw`, and what follows for every
pass of every run.
-/

namespace SolidSyslog.Service

open Lib

variable {ε ρ : Type} {P : Parts ε ρ} {s : State ε ρ}

/-! ## What the phases say of the calls -/

/-- What the calls of a pass say of a halt, for a pass that leaves the logger halted or not. -/
structure HaltLaw (entries : List (Entry ρ)) (halted : Bool) : Prop where
  /-- The policy's answer Halt is followed by the event, the callback and nothing else. -/
  stops : ∀ before after, entries = before ++ .call .getDiscardPolicy .halt :: after →
    halted = true ∧ ∃ haltedAt, (haltedAt = .haltedStoreRefused ∨ haltedAt = .haltedBufferFull) ∧
      after = [.call (.errorHandler (haltedEvent haltedAt)) (), .call .onHalt ()]
  /-- A logger that is left halted was halted by the policy. -/
  asked : halted = true → ∃ before after, entries = before ++ .call .getDiscardPolicy .halt :: after
  /-- The event is raised only then. -/
  announced : ∀ before after event, event.category = .loggerHalted →
    entries = before ++ .call (.errorHandler event) () :: after →
    ∃ before', before = before' ++ [.call .getDiscardPolicy .halt]
  /-- The callback is called only then. -/
  called : ∀ before after, entries = before ++ .call .onHalt () :: after →
    ∃ before' event, event.category = .loggerHalted ∧
      before = before' ++ [.call .getDiscardPolicy .halt, .call (.errorHandler event) ()]
  /-- A full buffer behind a held record is put to the policy. -/
  full : ∀ before after, entries = before ++ .call .bufferIsFull true :: after →
    ∃ policy after', after = .call .getDiscardPolicy policy :: after'
  /-- A record the store did not retain is put to the policy, unless the store is transient. -/
  refused : ∀ before after record, entries = before ++
    .call (.storeWrite record) .notRetained :: after →
    ∃ isTransient after', after = .call .storeIsTransient isTransient :: after' ∧
      (isTransient = false → ∃ policy after'', after' = .call .getDiscardPolicy policy :: after'')

theorem foldl_ruined (entries : List (Entry ρ)) :
    entries.foldl HaltPhase.next .ruined = .ruined := by
  induction entries with
  | nil => rfl
  | cons entry rest ih => exact ih

theorem haltPhase_append (before after : List (Entry ρ)) :
    haltPhase (before ++ after) = after.foldl HaltPhase.next (haltPhase before) := by
  simp [haltPhase]

/-- Calls that are not ruined were not ruined before. -/
theorem not_ruined_of_append {before after : List (Entry ρ)}
    (h : haltPhase (before ++ after) ≠ .ruined) : haltPhase before ≠ .ruined := by
  intro hruined
  rw [haltPhase_append, hruined, foldl_ruined] at h
  exact h rfl

theorem not_ruined_next {before after : List (Entry ρ)} {entry : Entry ρ}
    (h : haltPhase (before ++ entry :: after) ≠ .ruined) :
    (haltPhase before).next entry ≠ .ruined := by
  have happend : before ++ entry :: after = (before ++ [entry]) ++ after := by simp
  rw [happend] at h
  have hentry := not_ruined_of_append h
  rwa [haltPhase_append] at hentry

section Inversion

variable {phase : HaltPhase} {entry : Entry ρ}

theorem asking_next (h : HaltPhase.asking.next entry ≠ .ruined) :
    ∃ policy, entry = .call .getDiscardPolicy policy := by
  rcases entry with ⟨request, answer⟩ | record
  · cases request <;> simp_all [HaltPhase.next]
  · simp [HaltPhase.next] at h

theorem judging_next (h : HaltPhase.judging.next entry ≠ .ruined) :
    ∃ isTransient, entry = .call .storeIsTransient isTransient := by
  rcases entry with ⟨request, answer⟩ | record
  · cases request <;> simp_all [HaltPhase.next]
  · simp [HaltPhase.next] at h

theorem announcing_next (h : HaltPhase.announcing.next entry ≠ .ruined) :
    HaltPhase.announcing.next entry = .calling ∧ ∃ haltedAt,
      (haltedAt = .haltedStoreRefused ∨ haltedAt = .haltedBufferFull) ∧
      entry = .call (.errorHandler (haltedEvent haltedAt)) () := by
  rcases entry with ⟨request, answer⟩ | record
  · cases request with
    | errorHandler event =>
      have hevent :
          event = haltedEvent .haltedStoreRefused ∨ event = haltedEvent .haltedBufferFull := by
        by_contra hother
        simp [HaltPhase.next, hother] at h
      refine ⟨if_pos hevent, ?_⟩
      rcases hevent with rfl | rfl
      · exact ⟨_, .inl rfl, rfl⟩
      · exact ⟨_, .inr rfl, rfl⟩
    | _ => simp [HaltPhase.next] at h
  · simp [HaltPhase.next] at h

theorem calling_next (h : HaltPhase.calling.next entry ≠ .ruined) :
    entry = .call .onHalt () := by
  rcases entry with ⟨request, answer⟩ | record
  · cases request <;> simp_all [HaltPhase.next]
  · simp [HaltPhase.next] at h

theorem next_eq_announcing (h : phase.next entry = .announcing) :
    entry = .call .getDiscardPolicy .halt := by
  revert h
  fun_cases HaltPhase.next <;> simp_all

theorem phase_eq_announcing (h : phase.next entry = .calling) : phase = .announcing := by
  revert h
  fun_cases HaltPhase.next <;> simp_all

theorem phase_eq_calling (h : phase.next entry = .stopped) : phase = .calling := by
  revert h
  fun_cases HaltPhase.next <;> simp_all

theorem next_policy_halt (h : phase.next (.call .getDiscardPolicy .halt : Entry ρ) ≠ .ruined) :
    phase.next (.call .getDiscardPolicy .halt : Entry ρ) = .announcing := by
  cases phase <;> simp_all [HaltPhase.next]

theorem phase_of_event {event : ErrorEvent} (hcategory : event.category = .loggerHalted)
    (h : phase.next (.call (.errorHandler event) () : Entry ρ) ≠ .ruined) :
    phase = .announcing := by
  cases phase <;> simp_all [HaltPhase.next]

theorem phase_of_onHalt (h : phase.next (.call .onHalt () : Entry ρ) ≠ .ruined) :
    phase = .calling := by
  cases phase <;> simp_all [HaltPhase.next]

theorem next_full (h : phase.next (.call .bufferIsFull true : Entry ρ) ≠ .ruined) :
    phase.next (.call .bufferIsFull true : Entry ρ) = .asking := by
  cases phase <;> simp_all [HaltPhase.next]

theorem next_notRetained {record : ρ}
    (h : phase.next (.call (.storeWrite record) .notRetained) ≠ .ruined) :
    phase.next (.call (.storeWrite record) .notRetained) = .judging := by
  cases phase <;> simp_all [HaltPhase.next]

end Inversion

/-- A pass does not end in the phases in between, so one more entry is due. -/
theorem due {before after : List (Entry ρ)} {phase : HaltPhase} (hbefore : haltPhase before = phase)
    (hphase : ¬(phase = .stopped ∨ phase = .running))
    (h : haltPhase (before ++ after) = .stopped ∨ haltPhase (before ++ after) = .running) :
    ∃ entry after', after = entry :: after' ∧ phase.next entry ≠ .ruined := by
  cases after with
  | nil =>
    rw [List.append_nil, hbefore] at h
    exact absurd h hphase
  | cons entry after =>
    refine ⟨entry, after, rfl, ?_⟩
    rw [← hbefore]
    exact not_ruined_next (by rcases h with h | h <;> rw [h] <;> decide)

/-- After the policy's answer Halt only the event and the callback can follow. -/
theorem after_announcing {before after : List (Entry ρ)} (hbefore : haltPhase before = .announcing)
    (h : haltPhase (before ++ after) = .stopped ∨ haltPhase (before ++ after) = .running) :
    haltPhase (before ++ after) = .stopped ∧ ∃ haltedAt,
      (haltedAt = .haltedStoreRefused ∨ haltedAt = .haltedBufferFull) ∧
      after = [.call (.errorHandler (haltedEvent haltedAt)) (), .call .onHalt ()] := by
  obtain ⟨event, after, rfl, hevent⟩ := due hbefore (by decide) h
  obtain ⟨hcalling, haltedAt, hat, rfl⟩ := announcing_next hevent
  have hbefore₁ := haltPhase_append before [.call (.errorHandler (haltedEvent haltedAt)) ()]
  rw [hbefore] at hbefore₁
  rw [← List.singleton_append, ← List.append_assoc] at h ⊢
  obtain ⟨call, after, rfl, hcall⟩ := due (hbefore₁.trans hcalling) (by decide) h
  obtain rfl := calling_next hcall
  cases after with
  | nil =>
    refine ⟨?_, haltedAt, hat, rfl⟩
    rw [haltPhase_append, hbefore₁.trans hcalling]
    rfl
  | cons entry after =>
    -- Nothing follows the callback.
    rw [haltPhase_append, hbefore₁.trans hcalling] at h
    have hruined := foldl_ruined after
    rcases h with h | h <;> exact absurd (h.symm.trans hruined) (by decide)

/-- Calls are in the phase between answer and event only right after the answer. -/
theorem ends_of_announcing {entries : List (Entry ρ)} (h : haltPhase entries = .announcing) :
    ∃ before, entries = before ++ [.call .getDiscardPolicy .halt] := by
  rcases List.eq_nil_or_concat' entries with rfl | ⟨before, entry, rfl⟩
  · cases h
  · rw [haltPhase_append] at h
    exact ⟨before, by rw [next_eq_announcing h]⟩

theorem ends_of_calling {entries : List (Entry ρ)} (h : haltPhase entries = .calling) :
    ∃ before haltedAt, entries =
      before ++ [.call .getDiscardPolicy .halt, .call (.errorHandler (haltedEvent haltedAt))
        ()] := by
  rcases List.eq_nil_or_concat' entries with rfl | ⟨before, entry, rfl⟩
  · cases h
  · rw [haltPhase_append] at h
    have hbefore := phase_eq_announcing h
    obtain ⟨before', rfl⟩ := ends_of_announcing hbefore
    rw [hbefore] at h
    obtain ⟨_, haltedAt, _, rfl⟩ := announcing_next (ne_of_eq_of_ne h (by decide))
    exact ⟨before', haltedAt, by simp⟩

theorem ends_of_stopped {entries : List (Entry ρ)} (h : haltPhase entries = .stopped) :
    ∃ before after, entries = before ++ .call .getDiscardPolicy .halt :: after := by
  rcases List.eq_nil_or_concat' entries with rfl | ⟨before, entry, rfl⟩
  · cases h
  · rw [haltPhase_append] at h
    obtain ⟨before', haltedAt, rfl⟩ := ends_of_calling (phase_eq_calling h)
    exact ⟨before', _, List.append_assoc ..⟩

/-- A question to the policy that is due is asked. -/
theorem after_asking {before after : List (Entry ρ)} (hbefore : haltPhase before = .asking)
    (h : haltPhase (before ++ after) = .stopped ∨ haltPhase (before ++ after) = .running) :
    ∃ policy after', after = .call .getDiscardPolicy policy :: after' := by
  obtain ⟨entry, after, rfl, hentry⟩ := due hbefore (by decide) h
  obtain ⟨policy, rfl⟩ := asking_next hentry
  exact ⟨policy, after, rfl⟩

/-- What the phases say in plain terms. -/
theorem haltLaw {entries : List (Entry ρ)} {halted : Bool}
    (h : haltPhase entries = if halted then .stopped else .running) : HaltLaw entries halted := by
  have hended : haltPhase entries = .stopped ∨ haltPhase entries = .running := by
    rw [h]
    cases halted <;> simp
  have halive : haltPhase entries ≠ .ruined := by
    rw [h]
    cases halted <;> decide
  refine ⟨?_, ?_, ?_, ?_, ?_, ?_⟩
  · rintro before after rfl
    have hnext := not_ruined_next halive
    have hannouncing : haltPhase (before ++ [.call .getDiscardPolicy .halt]) = .announcing := by
      rw [haltPhase_append]
      exact next_policy_halt hnext
    rw [← List.singleton_append, ← List.append_assoc] at h hended
    obtain ⟨hstopped, haltedAt⟩ := after_announcing hannouncing hended
    rw [h] at hstopped
    refine ⟨?_, haltedAt⟩
    cases halted with
    | true => rfl
    | false => cases hstopped
  · rintro rfl
    rw [if_pos rfl] at h
    exact ends_of_stopped h
  · rintro before after event hcategory rfl
    exact ends_of_announcing (phase_of_event hcategory (not_ruined_next halive))
  · rintro before after rfl
    obtain ⟨before', haltedAt, hbefore⟩ :=
      ends_of_calling (phase_of_onHalt (not_ruined_next halive))
    exact ⟨before', _, rfl, hbefore⟩
  · rintro before after rfl
    have hasking : haltPhase (before ++ [.call .bufferIsFull true]) = .asking := by
      rw [haltPhase_append]
      exact next_full (not_ruined_next halive)
    rw [← List.singleton_append, ← List.append_assoc] at hended
    exact after_asking hasking hended
  · rintro before after record rfl
    have hjudging : haltPhase (before ++ [.call (.storeWrite record) .notRetained]) = .judging := by
      rw [haltPhase_append]
      exact next_notRetained (not_ruined_next halive)
    rw [← List.singleton_append, ← List.append_assoc] at hended
    generalize before ++ [.call (.storeWrite record) .notRetained] = before' at hjudging hended
    obtain ⟨entry, after', rfl, hentry⟩ := due hjudging (by decide) hended
    obtain ⟨isTransient, rfl⟩ := judging_next hentry
    refine ⟨isTransient, after', rfl, ?_⟩
    rintro rfl
    have hasking : haltPhase (before' ++ [.call .storeIsTransient false]) = .asking := by
      rw [haltPhase_append, hjudging]
      rfl
    rw [← List.singleton_append, ← List.append_assoc] at hended
    exact after_asking hasking hended

/-! ## The pass as a whole -/

/-- What the discard policy answers a pass that asks it first. -/
def State.policy (P : Parts ε ρ) (s : State ε ρ) : DiscardPolicy :=
  (P.answer .getDiscardPolicy s.env s.pending).1

/-- Where a pass that goes on starts: a logger that was halted has asked the policy, and is no
longer halted. Nothing else of it has changed. -/
def State.resumed (P : Parts ε ρ) (s : State ε ρ) : State ε ρ :=
  if s.logger.halted then
    { s.asked P .getDiscardPolicy with logger := { s.logger with halted := false } }
  else s

theorem resumed_logger : (s.resumed P).logger = { s.logger with halted := false } := by
  unfold State.resumed
  split
  · rfl
  · rename_i hgoes
    rw [Bool.not_eq_true] at hgoes
    rw [← hgoes]

theorem service_of_halts (fuel : Nat) (hhalted : s.logger.halted = true)
    (hpolicy : s.policy P = .halt) :
    service P fuel s = (some .halted, s.asked P .getDiscardPolicy) := by
  change Ensures (service P fuel)
    (fun status s' => (status, s') = (some .halted, s.asked P .getDiscardPolicy)) s
  unfold service resumeIfPolicyChanged policyHalts
  simp only [ensures_bind, ensures_logger, hhalted, if_true, ensures_ask .getDiscardPolicy,
    ensures_pure, ensures_setLogger]
  rw [State.policy] at hpolicy
  simp only [hpolicy, beq_self_eq_true, if_true, ensures_pure, Prod.mk.injEq, true_and]
  rw [← hhalted]
  rfl

theorem service_of_goes (fuel : Nat) (hgoes : s.logger.halted = false ∨ s.policy P ≠ .halt) :
    service P fuel s = processMessages P fuel (s.resumed P) := by
  change Ensures (service P fuel)
    (fun status s' => (status, s') = processMessages P fuel (s.resumed P)) s
  unfold service resumeIfPolicyChanged policyHalts State.resumed
  simp only [ensures_bind, ensures_logger]
  cases hhalted : s.logger.halted with
  | false =>
    simp only [Bool.false_eq_true, if_false, ensures_pure, hhalted]
    rfl
  | true =>
    have hpolicy : (P.answer .getDiscardPolicy s.env s.pending).1 ≠ .halt :=
      hgoes.resolve_left (by simp [hhalted])
    have hnot : ((P.answer .getDiscardPolicy s.env s.pending).1 == DiscardPolicy.halt) = false := by
      simpa using hpolicy
    simp only [if_true, ensures_bind, ensures_ask .getDiscardPolicy, ensures_pure,
      ensures_setLogger, hnot, Bool.false_eq_true, if_false]
    rfl

theorem applyPolicyToHeldRecordIfBufferFull_of_full (hholds : s.logger.holdsRecord = true)
    (hfull : (P.answer .bufferIsFull s.env s.pending).1 = true)
    (hpolicy : (s.asked P .bufferIsFull).policy P = .halt) :
    Ensures (applyPolicyToHeldRecordIfBufferFull P)
      (fun _ s' => s'.logger = { s.logger with halted := true }) s := by
  rw [State.policy] at hpolicy
  unfold applyPolicyToHeldRecordIfBufferFull
  simp only [ensures_bind, ensures_logger, hholds, if_true, ensures_ask .bufferIsFull, hfull,
    ensures_ask .getDiscardPolicy, hpolicy]
  have hnot : (DiscardPolicy.halt == DiscardPolicy.oldest) = false := by decide
  simp only [hnot, Bool.false_and, Bool.false_eq_true, if_false, beq_self_eq_true, if_true]
  change { s.logger with halted := true } = _
  rw [← hholds]

/-- A pass that finds the buffer full behind the record it holds, with Halt as the policy, halts
with the record where it was. -/
theorem processMessages_of_full (fuel : Nat) (hholds : s.logger.holdsRecord = true)
    (hfull : (P.answer .bufferIsFull s.env s.pending).1 = true)
    (hpolicy : (s.asked P .bufferIsFull).policy P = .halt) :
    Ensures (processMessages P fuel) (fun status s' => status = some .halted ∧
      s'.logger = { s.logger with reportTurnedDown := false, halted := true }) s := by
  unfold processMessages drainBufferIntoStore
  simp only [ensures_bind, ensures_setLogger]
  have happlied : Ensures (applyPolicyToHeldRecordIfBufferFull P)
      (fun _ s' => s'.logger = { s.logger with reportTurnedDown := false, halted := true })
      { s with logger := { s.logger with reportTurnedDown := false } } :=
    applyPolicyToHeldRecordIfBufferFull_of_full hholds hfull hpolicy
  apply happlied.mono
  intro _ s₁ hlogger
  have hhalted : s₁.logger.halted = true := by rw [hlogger]
  have hloop : Ensures (drainLoop P false false fuel)
      (fun outcome s' => outcome = some false ∧ s' = s₁) s₁ := by
    cases fuel <;> exact ⟨rfl, rfl⟩
  simp only [ensures_logger, hhalted, if_true, ensures_pure, Bool.false_and, Bool.false_eq_true,
    if_false]
  apply hloop.mono
  rintro outcome s₂ ⟨rfl, rfl⟩
  unfold statusOf
  simp only [ensures_bind, ensures_logger, hhalted, if_true, ensures_pure]
  exact ⟨trivial, hlogger⟩

/-! ## Runs -/

/-- Whether the last pass returned HALTED, after one more step. -/
def lastHalted (halted : Bool) : RunOp Unit → Option ServiceStatus → Bool
  | .others _, _ => halted
  | .pass _, status => status == some .halted

/-- Each pass returns HALTED exactly when it leaves the logger halted. -/
theorem service_halted_iff (fuel : Nat) (s : State ε ρ) :
    (service P fuel s).1 = some .halted ↔ (service P fuel s).2.logger.halted = true := by
  by_cases hgoes : s.logger.halted = false ∨ s.policy P ≠ .halt
  · rw [service_of_goes fuel hgoes]
    have hstart : Going (s.resumed P).trace (s.resumed P) :=
      ⟨by rw [resumed_logger], .refl _⟩
    exact (processMessages_settled hstart fuel).2
  · push Not at hgoes
    have hhalted : s.logger.halted = true := by simpa using hgoes.1
    rw [service_of_halts fuel hhalted hgoes.2]
    exact iff_of_true rfl hhalted

/-- The logger is halted while its last pass returned HALTED. -/
theorem halted_iff_lastHalted {s₀ : State ε ρ} {ops : List (RunOp Unit)}
    {answers : List (Option ServiceStatus)} (hrun : Run (RunStep P LeaveLogger) s₀ ops answers s) :
    s.logger.halted =
      (ops.zip answers).foldl (fun halted step => lastHalted halted step.1 step.2)
        s₀.logger.halted := by
  induction hrun with
  | nil => rfl
  | cons first rest ih =>
    rw [ih, List.zip_cons_cons, List.foldl_cons]
    congr 1
    cases first with
    | others what h =>
      obtain ⟨env, pending, rfl⟩ := h
      rfl
    | pass _ fuel =>
      rw [Bool.eq_iff_iff, ← service_halted_iff]
      simp [lastHalted]

/-- A halt stops everything. In every run: the logger is halted exactly while its last pass returned
HALTED; a pass on a halted logger whose policy still answers Halt asks the policy and does nothing
else; any other pass goes on from the logger as it was, with what its calls say of a halt; and one
that finds the buffer full behind its held record, under Halt, keeps that record. -/
theorem halt_stops_everything {s₀ : State ε ρ} (hstart : s₀.logger.halted = false)
    {ops : List (RunOp Unit)} {answers : List (Option ServiceStatus)}
    (hrun : Run (RunStep P LeaveLogger) s₀ ops answers s) (fuel : Nat) :
    s.logger.halted =
      (ops.zip answers).foldl (fun halted step => lastHalted halted step.1 step.2) false ∧
    ((service P fuel s).1 = some .halted ↔ (service P fuel s).2.logger.halted = true) ∧
    (s.logger.halted = true → s.policy P = .halt →
      service P fuel s = (some .halted, s.asked P .getDiscardPolicy)) ∧
    (s.logger.halted = false ∨ s.policy P ≠ .halt →
      service P fuel s = processMessages P fuel (s.resumed P) ∧
      (s.resumed P).logger = { s.logger with halted := false } ∧
      (∃ entries, (service P fuel s).2.trace = (s.resumed P).trace ++ entries ∧
        HaltLaw entries (service P fuel s).2.logger.halted) ∧
      ((s.resumed P).logger.holdsRecord = true →
        (P.answer .bufferIsFull (s.resumed P).env (s.resumed P).pending).1 = true →
        ((s.resumed P).asked P .bufferIsFull).policy P = .halt →
        (service P fuel s).1 = some .halted ∧ (service P fuel s).2.logger =
          { s.logger with reportTurnedDown := false, halted := true })) := by
  refine ⟨?_, service_halted_iff fuel s, service_of_halts fuel, ?_⟩
  · rw [halted_iff_lastHalted hrun, hstart]
  · intro hgoes
    rw [service_of_goes fuel hgoes]
    have hbegin : Going (s.resumed P).trace (s.resumed P) :=
      ⟨by rw [resumed_logger], .refl _⟩
    refine ⟨rfl, resumed_logger, ?_, ?_⟩
    · rcases (processMessages_settled hbegin fuel).1 with hend | hend
      · obtain ⟨entries, htrace, hphase⟩ := hend.trace
        exact ⟨entries, htrace, haltLaw (by simp [hphase, hend.logger])⟩
      · obtain ⟨entries, htrace, hphase⟩ := hend.trace
        exact ⟨entries, htrace, haltLaw (by simp [hphase, hend.logger])⟩
    · intro hholds hfull hpolicy
      have hpass := processMessages_of_full fuel hholds hfull hpolicy
      rw [resumed_logger] at hpass
      exact hpass

/-- A system with records in the buffer, a store that refuses them and Halt as the policy. -/
def refusingParts : Parts Unit Nat where
  answer
    | .bufferRead _, env, pending => (some 65, env, pending)
    | .bufferIsFull, env, pending => (false, env, pending)
    | .storeWrite _, env, pending => (.notRetained, env, pending)
    | .storeReadNextUnsent _, env, pending => (none, env, pending)
    | .storeMarkSent, env, pending => ((), env, pending)
    | .storeHasUnsent, env, pending => (false, env, pending)
    | .storeIsTransient, env, pending => (false, env, pending)
    | .senderSend _, env, pending => (true, env, pending)
    | .getDiscardPolicy, env, pending => (.halt, env, pending)
    | .isEventReportingOn, env, pending => (true, env, pending)
    | .onHalt, env, pending => ((), env, pending)
    | .errorHandler _, env, pending => ((), env, pending)
    | .formatReport _ _, env, pending => (0, env, pending)

/-- A logger just created over it. -/
def refusingStart : State Unit Nat :=
  ⟨.initial 16 0, (), PendingEvents.empty, []⟩

theorem halt_stops_everything_refused :
    (service refusingParts 1 refusingStart).1 = some .halted ∧
    service refusingParts 1 (service refusingParts 1 refusingStart).2 =
      (some .halted, (service refusingParts 1 refusingStart).2.asked refusingParts
        .getDiscardPolicy) := by
  have hrun : Run (RunStep refusingParts LeaveLogger) refusingStart [.pass 1]
      [(service refusingParts 1 refusingStart).1] (service refusingParts 1 refusingStart).2 :=
    .cons (.pass refusingStart 1) (.nil _)
  have hhalted : (service refusingParts 1 refusingStart).2.logger.halted = true := by
    decide +kernel
  exact ⟨by decide +kernel, (halt_stops_everything rfl hrun 1).2.2.1 hhalted rfl⟩

end SolidSyslog.Service
