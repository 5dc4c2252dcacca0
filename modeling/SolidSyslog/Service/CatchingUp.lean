import SolidSyslog.Service.LoggerRuns

/-!
# The logger catches up

A logger left alone by other tasks, with a stream that takes everything, no report to make and a
policy that does not halt it, gets rid of all it holds: each pass empties the ring into the store
and sends one record of the store. Whatever happened before, so many passes later nothing is left to
deliver.
-/

namespace SolidSyslog.Service

open Lib Buffer Store Sender

variable {σ : Type} {P : Platform σ} {C : Config} {media : σ → Media} {m₀ : Media}
  {outside : Nat → Outside}

/-- No task writes, the policy does not halt, no report is wanted, and the stream takes
everything. -/
structure Obliging (o : Outside) : Prop where
  writes : o.writes = []
  policy : o.policy ≠ .halt
  reporting : o.isEventReportingOn = false
  resolved : o.stream.resolved = true
  opened : o.stream.opened = true
  lengthSent : o.stream.lengthFails = none
  recordSent : o.stream.recordFails = none

/-- A stream that takes everything takes a record. -/
theorem send_of_obliging {o : Outside} (ho : Obliging o) (sender : StreamSender) (record : Bytes) :
    (sender.send record o.stream).1 = true := by
  have hready : ∀ s : StreamSender, (s.reconcile o.stream).1 = true := by
    intro s
    unfold StreamSender.reconcile StreamSender.ensureConnected StreamSender.connect
    split
    · rfl
    · simp [ho.resolved, ho.opened]
  unfold StreamSender.send
  dsimp only
  split
  · simp [StreamSender.transmitFramed, StreamSender.sendBytes, ho.lengthSent, ho.recordSent]
  · next s₁ hreconciled =>
    have htrue := hready (sender.emit (.called record))
    rw [hreconciled] at htrue
    cases htrue

/-- What the ring and the store have to deliver, with only obliging calls to come. -/
structure Backlog (P : Platform σ) (C : Config) (media : σ → Media) (m₀ : Media)
    (outside : Nat → Outside) (waiting : List Bytes) (q : FifoQueue)
    (s : State (Assembly σ) Bytes) : Prop where
  ring : HoldsQueue s.env.ring waiting
  fits : ∀ bytes ∈ waiting, bytes.length ≤ C.tunables.maxMessageSize
  store : s.env.store.Queues P C media m₀ q
  capacity : s.logger.recordCapacity = C.tunables.maxMessageSize
  record : s.logger.record.length ≤ C.tunables.maxMessageSize
  quiet : ∀ n, s.env.calls ≤ n → Obliging (outside n)

variable {waiting : List Bytes} {q : FifoQueue} {s : State (Assembly σ) Bytes}

/-- A call runs in the parts, with one more call counted. -/
theorem Backlog.ask (h : Backlog P C media m₀ outside waiting q s) (request : Request Bytes)
    {R : request.Answer → List Bytes → FifoQueue → Prop}
    (hcall : ∀ o, Obliging o → ∃ waiting' q',
      R (Assembly.call P C o request { s.env with calls := s.env.calls + 1 }).1 waiting' q' ∧
      HoldsQueue (Assembly.call P C o request { s.env with calls := s.env.calls + 1 }).2.ring
        waiting' ∧
      waiting' ⊆ waiting ∧
      (Assembly.call P C o request { s.env with calls := s.env.calls + 1 }).2.store.Queues
        P C media m₀ q' ∧
      (Assembly.call P C o request { s.env with calls := s.env.calls + 1 }).2.calls =
        s.env.calls + 1) :
    Ensures (Service.ask (assembled P C outside) request) (fun answer s' => ∃ waiting' q',
      R answer waiting' q' ∧ s'.logger = s.logger ∧ Backlog P C media m₀ outside waiting' q' s')
        s := by
  have ho := h.quiet s.env.calls (le_refl _)
  have hbefore : s.env.before C (outside s.env.calls) =
    { s.env with calls := s.env.calls + 1 } := by
    rw [Assembly.before, ho.writes]
    rfl
  obtain ⟨waiting', q', hanswer, hring, hwithin, hstore, hcalls⟩ := hcall _ ho
  rw [← hbefore] at hanswer hring hstore hcalls
  refine ⟨waiting', q', hanswer, rfl, hring, fun bytes hbytes =>
    h.fits bytes (hwithin hbytes), hstore, h.capacity, h.record, fun n hn => h.quiet n ?_⟩
  have hle : s.env.calls + 1 ≤ n := hcalls ▸ hn
  omega

/-- A call that leaves the ring and the store. -/
theorem Backlog.asks (h : Backlog P C media m₀ outside waiting q s) (request : Request Bytes)
    {R : request.Answer → Prop}
    (hcall : ∀ o (a : Assembly σ), Obliging o → R (Assembly.call P C o request a).1 ∧
      (Assembly.call P C o request a).2.ring = a.ring ∧
      (Assembly.call P C o request a).2.store = a.store ∧
      (Assembly.call P C o request a).2.calls = a.calls) :
    Ensures (Service.ask (assembled P C outside) request) (fun answer s' => R answer ∧
      s'.logger = s.logger ∧ Backlog P C media m₀ outside waiting q s') s := by
  refine (h.ask request (R := fun answer waiting' q' => R answer ∧ waiting' = waiting ∧ q' = q)
    fun o ho => ?_).mono ?_
  · obtain ⟨hanswer, hring, hstore, hcalls⟩ := hcall o { s.env with calls := s.env.calls + 1 } ho
    refine ⟨waiting, q, ⟨hanswer, rfl, rfl⟩, ?_, fun _ hbytes => hbytes, ?_, hcalls⟩
    · rw [hring]
      exact h.ring
    · rw [hstore]
      exact h.store
  · rintro answer s' ⟨_, _, ⟨hanswer, rfl, rfl⟩, hlogger, h'⟩
    exact ⟨hanswer, hlogger, h'⟩

/-- Only the logger changed, and its record fits the slot. -/
theorem Backlog.slot (h : Backlog P C media m₀ outside waiting q s) {s' : State (Assembly σ) Bytes}
    (henv : s'.env = s.env) (hcapacity : s'.logger.recordCapacity = s.logger.recordCapacity)
    (hrecord : s'.logger.record.length ≤ C.tunables.maxMessageSize) :
    Backlog P C media m₀ outside waiting q s' :=
  ⟨henv ▸ h.ring, h.fits, henv ▸ h.store, hcapacity.trans h.capacity, hrecord, henv ▸ h.quiet⟩

/-! ## The calls of a pass -/

theorem bufferRead_head {a : Assembly σ} (h : HoldsQueue a.ring waiting)
    (hfits : ∀ bytes ∈ waiting, bytes.length ≤ C.tunables.maxMessageSize) :
    (a.bufferRead C.tunables.maxMessageSize).1 = waiting.head? ∧
      HoldsQueue (a.bufferRead C.tunables.maxMessageSize).2.ring waiting.tail ∧
      (a.bufferRead C.tunables.maxMessageSize).2.store = a.store ∧
      (a.bufferRead C.tunables.maxMessageSize).2.calls = a.calls := by
  unfold Assembly.bufferRead
  cases waiting with
  | nil =>
    rw [read_empty h]
    exact ⟨rfl, h, rfl, rfl⟩
  | cons data rest =>
    obtain ⟨ring, hread, hholds, -⟩ := read_delivers h (hfits data List.mem_cons_self)
    rw [hread]
    exact ⟨rfl, hholds, rfl, rfl⟩

theorem Backlog.bufferRead (h : Backlog P C media m₀ outside waiting q s) :
    Ensures (Service.ask (assembled P C outside) (.bufferRead s.logger.recordCapacity))
      (fun answer s' => answer = waiting.head? ∧ s'.logger = s.logger ∧
        Backlog P C media m₀ outside waiting.tail q s') s := by
  rw [h.capacity]
  refine (h.ask (.bufferRead _) (R := fun answer waiting' q' =>
    answer = waiting.head? ∧ waiting' = waiting.tail ∧ q' = q) fun o _ => ?_).mono ?_
  · obtain ⟨hhead, hring, hstore, hcalls⟩ :=
      bufferRead_head (C := C) (a := { s.env with calls := s.env.calls + 1 }) h.ring h.fits
    refine ⟨waiting.tail, q, ⟨hhead, rfl, rfl⟩, hring, List.tail_subset waiting, ?_, hcalls⟩
    exact hstore ▸ h.store
  · rintro answer s' ⟨_, _, ⟨hanswer, rfl, rfl⟩, hlogger, h'⟩
    exact ⟨hanswer, hlogger, h'⟩

/-- The store takes one record more at most. -/
theorem Backlog.storeWrite (hP : Faithful P media) (hdispose : DisposesAlways P media)
    (hpolicy : SealsInPlace P C) (h : Backlog P C media m₀ outside waiting q s) :
    Ensures (Service.ask (assembled P C outside) (.storeWrite s.logger.record))
      (fun _ s' => s'.logger = s.logger ∧ ∃ q', q'.items.length ≤ q.items.length + 1 ∧
        Backlog P C media m₀ outside waiting q' s') s := by
  refine (h.ask (.storeWrite s.logger.record) (R := fun _ waiting' q' =>
    waiting' = waiting ∧ q'.items.length ≤ q.items.length + 1) fun o _ => ?_).mono ?_
  · change ∃ waiting' q', _ ∧ HoldsQueue s.env.ring waiting' ∧ _ ∧
      (BlockStore.write P C s.logger.record s.env.store).2.Queues P C media m₀ q' ∧ _
    by_cases hpos : 0 < s.logger.record.length
    · obtain ⟨q', hallows, hq'⟩ := queues_write hP hdispose hpolicy h.store hpos h.record
      refine ⟨waiting, q', ⟨rfl, ?_⟩, h.ring, fun _ hbytes => hbytes, hq', rfl⟩
      generalize (BlockStore.write P C s.logger.record s.env.store).1 = result at hallows
      cases hallows with
      | keeps evicts within => simp [FifoQueue.evicted]
      | keepsNot lost evicts within => simp [FifoQueue.evicted]; omega
    · have hempty : s.logger.record = [] := List.length_eq_zero_iff.1 (by omega)
      rw [hempty, write_empty]
      exact ⟨waiting, q, ⟨rfl, Nat.le_succ _⟩, h.ring, fun _ hbytes => hbytes, h.store, rfl⟩
  · rintro answer s' ⟨_, q', ⟨rfl, hlength⟩, hlogger, h'⟩
    exact ⟨hlogger, q', hlength, h'⟩

theorem Backlog.storeReadNextUnsent (hP : Faithful P media) (hdispose : DisposesAlways P media)
    (hpolicy : SealsInPlace P C) (h : Backlog P C media m₀ outside waiting q s) :
    Ensures (Service.ask (assembled P C outside) (.storeReadNextUnsent s.logger.recordCapacity))
      (fun answer s' => answer = q.items.head? ∧ s'.logger = s.logger ∧
        ∃ q', q'.items = q.items ∧ (q.items ≠ [] → q'.headRead = true) ∧
          Backlog P C media m₀ outside waiting q' s') s := by
  rw [h.capacity]
  refine (h.ask (.storeReadNextUnsent _) (R := fun answer waiting' q' => answer = q.items.head? ∧
    waiting' = waiting ∧ q'.items = q.items ∧ (q.items ≠ [] → q'.headRead = true))
    fun o _ => ?_).mono ?_
  · obtain ⟨bytes, store, asked, q', hread, hallows, hq'⟩ :=
      queues_read hP hdispose hpolicy h.store (le_refl _)
    change ∃ waiting' q'',
      ((BlockStore.readNextUnsent P C (modulus + 1) C.tunables.maxMessageSize s.env.store).1.join =
        q.items.head? ∧ _) ∧ HoldsQueue s.env.ring waiting' ∧ _ ∧
      (BlockStore.readNextUnsent P C (modulus + 1) C.tunables.maxMessageSize
        s.env.store).2.Queues P C media m₀ q'' ∧ _
    rw [hread]
    refine ⟨waiting, q', ?_, h.ring, fun _ hbytes => hbytes, hq', rfl⟩
    cases hallows with
    | handsOut items =>
      rw [items]
      exact ⟨rfl, rfl, rfl, fun _ => rfl⟩
    | hasNothing items =>
      rw [items]
      exact ⟨rfl, rfl, rfl, fun hne => absurd rfl hne⟩
  · rintro answer s' ⟨_, q', ⟨hanswer, rfl, hitems, hread⟩, hlogger, h'⟩
    exact ⟨hanswer, hlogger, q', hitems, hread, h'⟩

theorem Backlog.storeMarkSent (hP : Faithful P media) (hdispose : DisposesAlways P media)
    (hpolicy : SealsInPlace P C) {head : Bytes} {rest : List Bytes}
    (h : Backlog P C media m₀ outside waiting ⟨head :: rest, true⟩ s) :
    Ensures (Service.ask (assembled P C outside) .storeMarkSent)
      (fun _ s' => s'.logger = s.logger ∧ Backlog P C media m₀ outside waiting ⟨rest, false⟩ s')
        s := by
  refine (h.ask .storeMarkSent (R := fun _ waiting' q' => waiting' = waiting ∧ q' = ⟨rest, false⟩)
    fun o _ => ?_).mono ?_
  · obtain ⟨asked, q', hallows, hq'⟩ := queues_mark hP hdispose hpolicy h.store
    refine ⟨waiting, q', ⟨rfl, ?_⟩, h.ring, fun _ hbytes => hbytes, hq', rfl⟩
    cases hallows with
    | drops read items =>
      obtain ⟨-, rfl⟩ := List.cons.inj items
      rfl
    | dropsNothing unread => cases unread
  · rintro answer s' ⟨_, _, ⟨rfl, rfl⟩, hlogger, h'⟩
    exact ⟨hlogger, h'⟩

/-! ## The parts of a pass -/

/-- The slot is free and the logger goes on, with so much in the store at most. -/
structure Ready (P : Platform σ) (C : Config) (media : σ → Media) (m₀ : Media)
    (outside : Nat → Outside) (waiting : List Bytes) (most : Nat) (s : State (Assembly σ) Bytes) :
    Prop where
  free : s.logger.holdsRecord = false
  running : s.logger.halted = false
  backlog : ∃ q, q.items.length ≤ most ∧ Backlog P C media m₀ outside waiting q s

theorem Backlog.report (h : Backlog P C media m₀ outside waiting q s) (severity : Severity)
    (category : Category) (error : LoggerError) :
    Ensures (Service.report (assembled P C outside) severity category error)
      (fun _ s' => s'.logger = s.logger ∧ Backlog P C media m₀ outside waiting q s') s := by
  rw [ensures_report]
  obtain ⟨-, hlogger, h'⟩ := h.asks (.errorHandler ⟨severity, category, false, "SolidSyslog",
    error.code, 0⟩) (R := fun _ => True) fun o a _ => ⟨trivial, rfl, rfl, rfl⟩
  exact ⟨hlogger, h'.slot rfl rfl h'.record⟩

theorem Backlog.getDiscardPolicy (h : Backlog P C media m₀ outside waiting q s) :
    Ensures (Service.ask (assembled P C outside) .getDiscardPolicy) (fun policy s' =>
      policy ≠ .halt ∧ s'.logger = s.logger ∧ Backlog P C media m₀ outside waiting q s') s :=
  h.asks .getDiscardPolicy fun _ _ ho => ⟨ho.policy, rfl, rfl, rfl⟩

theorem Ready.fewer {most most' : Nat} (h : Ready P C media m₀ outside waiting most s)
    (hle : most ≤ most') : Ready P C media m₀ outside waiting most' s := by
  obtain ⟨hfree, hrunning, q, hmost, hbacklog⟩ := h
  exact ⟨hfree, hrunning, q, hmost.trans hle, hbacklog⟩

theorem resumeIfPolicyChanged_running (h : Backlog P C media m₀ outside waiting q s) :
    Ensures (resumeIfPolicyChanged (assembled P C outside)) (fun _ s' =>
      s'.logger.halted = false ∧ s'.logger.holdsRecord = s.logger.holdsRecord ∧
        Backlog P C media m₀ outside waiting q s') s := by
  unfold resumeIfPolicyChanged policyHalts
  simp only [ensures_bind, ensures_logger]
  refine .ite (fun _ => ?_) fun hrunning => ?_
  · simp only [ensures_bind, ensures_pure, ensures_setLogger]
    refine h.getDiscardPolicy.mono ?_
    rintro policy s' ⟨hpolicy, hlogger, h'⟩
    exact ⟨by simpa using hpolicy, by rw [hlogger], h'.slot rfl rfl h'.record⟩
  · rw [ensures_pure]
    exact ⟨by simpa using hrunning, rfl, h⟩

theorem dropHeldRecord_running (h : Backlog P C media m₀ outside waiting q s)
    (hrunning : s.logger.halted = false) :
    Ensures (dropHeldRecord (assembled P C outside)) (fun _ s' => s'.logger.halted = false ∧
      s'.logger.holdsRecord = false ∧ Backlog P C media m₀ outside waiting q s') s := by
  unfold dropHeldRecord
  simp only [ensures_bind, ensures_logger, ensures_modify, ensures_setLogger]
  have hdropped : Backlog P C media m₀ outside waiting q { s with
      logger := { s.logger with holdsRecord := false, heldRecordLossReported := true }
      trace := s.trace ++ [.dropped s.logger.record] } := h.slot rfl rfl h.record
  refine .ite (fun _ => ?_) fun _ => ⟨hrunning, rfl, hdropped⟩
  refine (hdropped.report _ _ _).mono ?_
  rintro _ s' ⟨hlogger, h'⟩
  rw [hlogger]
  exact ⟨hrunning, rfl, h'⟩

theorem applyPolicy_running (h : Backlog P C media m₀ outside waiting q s)
    (hrunning : s.logger.halted = false) :
    Ensures (applyPolicyToHeldRecordIfBufferFull (assembled P C outside)) (fun _ s' =>
      s'.logger.halted = false ∧ (s'.logger.holdsRecord = true → s.logger.holdsRecord = true) ∧
        Backlog P C media m₀ outside waiting q s') s := by
  unfold applyPolicyToHeldRecordIfBufferFull
  simp only [ensures_bind, ensures_logger]
  refine .ite (fun hheld => ?_) fun _ => ⟨hrunning, id, h⟩
  simp only [ensures_bind]
  refine (h.asks .bufferIsFull (R := fun _ => True) fun _ _ _ => ⟨trivial, rfl, rfl, rfl⟩).mono ?_
  rintro isFull s₁ ⟨-, hl₁, h₁⟩
  have hr₁ : s₁.logger.halted = false := by rw [hl₁, hrunning]
  refine .ite (fun _ => ?_) fun _ => ⟨hr₁, fun _ => hheld, h₁⟩
  simp only [ensures_bind, ensures_logger]
  refine h₁.getDiscardPolicy.mono ?_
  rintro policy s₂ ⟨hpolicy, hl₂, h₂⟩
  have hr₂ : s₂.logger.halted = false := by rw [hl₂, hr₁]
  refine .ite (fun _ => ?_) fun _ => .ite (fun hhalts => ?_) fun _ => ⟨hr₂, fun _ => hheld, h₂⟩
  · refine (dropHeldRecord_running h₂ hr₂).mono ?_
    rintro _ s₃ ⟨hr₃, -, h₃⟩
    exact ⟨hr₃, fun _ => hheld, h₃⟩
  · exact absurd (by simpa using hhalts) hpolicy

theorem haltIfPolicyHalts_running (h : Backlog P C media m₀ outside waiting q s) :
    Ensures (haltIfPolicyHalts (assembled P C outside)) (fun _ s' => s'.logger = s.logger ∧
      Backlog P C media m₀ outside waiting q s') s := by
  unfold haltIfPolicyHalts policyHalts
  simp only [ensures_bind, ensures_pure]
  refine h.getDiscardPolicy.mono ?_
  rintro policy s' ⟨hpolicy, hlogger, h'⟩
  exact .ite (fun hhalts => absurd (by simpa using hhalts) hpolicy) fun _ => ⟨hlogger, h'⟩

theorem storeDealsWithHeldRecord_running (hP : Faithful P media) (hdispose : DisposesAlways P media)
    (hpolicy : SealsInPlace P C) (h : Backlog P C media m₀ outside waiting q s) :
    Ensures (storeDealsWithHeldRecord (assembled P C outside)) (fun _ s' => s'.logger = s.logger ∧
      ∃ q', q'.items.length ≤ q.items.length + 1 ∧ Backlog P C media m₀ outside waiting q' s')
        s := by
  unfold storeDealsWithHeldRecord
  rw [ensures_bind, ensures_logger]
  refine (h.storeWrite hP hdispose hpolicy).bind ?_
  rintro result s₁ ⟨hl₁, q', hmost, h₁⟩
  refine Ensures.bind (Q := fun _ s₂ => s₂.logger = s.logger ∧
    Backlog P C media m₀ outside waiting q' s₂) ?_ ?_
  · refine .ite (fun _ => ?_) fun _ => ⟨hl₁, h₁⟩
    rw [ensures_bind]
    refine (h₁.asks .storeIsTransient (R := fun _ => True) fun _ _ _ =>
      ⟨trivial, rfl, rfl, rfl⟩).mono ?_
    rintro isTransient s₂ ⟨-, hl₂, h₂⟩
    exact ⟨hl₂.trans hl₁, h₂⟩
  · rintro refused s₂ ⟨hl₂, h₂⟩
    refine .ite (fun _ => ?_) fun _ => ⟨hl₂, q', hmost, h₂⟩
    refine (haltIfPolicyHalts_running h₂).bind ?_
    rintro _ s₃ ⟨hl₃, h₃⟩
    exact ⟨hl₃.trans hl₂, q', hmost, h₃⟩

/-- What the store does not deal with the sender takes. -/
theorem storeOrSenderTakesHeldRecord_running (hP : Faithful P media)
    (hdispose : DisposesAlways P media) (hpolicy : SealsInPlace P C)
    (h : Backlog P C media m₀ outside waiting q s) (hrunning : s.logger.halted = false) :
    Ensures (storeOrSenderTakesHeldRecord (assembled P C outside)) (fun taken s' => taken = true ∧
      s'.logger = s.logger ∧
      ∃ q', q'.items.length ≤ q.items.length + 1 ∧ Backlog P C media m₀ outside waiting q' s')
        s := by
  unfold storeOrSenderTakesHeldRecord
  refine (storeDealsWithHeldRecord_running hP hdispose hpolicy h).bind ?_
  rintro dealtWith s₁ ⟨hl₁, q', hmost, h₁⟩
  refine .ite (fun _ => ⟨rfl, hl₁, q', hmost, h₁⟩) fun _ => ?_
  rw [ensures_bind, ensures_logger]
  refine .ite (fun hhalted => ?_) fun _ => ?_
  · rw [hl₁, hrunning] at hhalted
    cases hhalted
  · rw [ensures_bind, ensures_logger]
    refine (h₁.asks (.senderSend s₁.logger.record) (R := fun accepted => accepted = true)
      fun o a ho => ⟨send_of_obliging ho _ _, rfl, rfl, rfl⟩).mono ?_
    rintro accepted s₂ ⟨haccepted, hl₂, h₂⟩
    exact ⟨haccepted, hl₂.trans hl₁, q', hmost, h₂⟩

/-- The record in the slot goes into the store or to the sender. -/
theorem dealWithHeldRecord_ready (hP : Faithful P media) (hdispose : DisposesAlways P media)
    (hpolicy : SealsInPlace P C) (h : Backlog P C media m₀ outside waiting q s)
    (hrunning : s.logger.halted = false) :
    Ensures (dealWithHeldRecord (assembled P C outside)) (fun taken s' => taken = true ∧
      Ready P C media m₀ outside waiting (q.items.length + s.logger.holdsRecord.toNat) s') s := by
  unfold dealWithHeldRecord
  rw [ensures_bind, ensures_logger]
  refine .ite (fun hheld => ?_) fun hfree => ?_
  · refine (storeOrSenderTakesHeldRecord_running hP hdispose hpolicy h hrunning).bind ?_
    rintro taken s₁ ⟨rfl, hl₁, q', hmost, h₁⟩
    simp only [ensures_bind, ensures_setLogger, ensures_logger, ensures_pure]
    refine ⟨rfl, rfl, by rw [hl₁, hrunning], q', ?_, h₁.slot rfl rfl h₁.record⟩
    rw [hheld]
    exact hmost
  · have hfree' : s.logger.holdsRecord = false := by simpa using hfree
    rw [ensures_bind, ensures_logger, ensures_pure, hfree']
    exact ⟨rfl, hfree', hrunning, q, le_refl _, h⟩

/-! ## A pass -/

theorem reportIfPending_ready {most : Nat} (h : Ready P C media m₀ outside waiting most s)
    (index : Fin PendingEvents.kindCount) :
    Ensures (reportIfPending (assembled P C outside) index) (fun _ s' =>
      Ready P C media m₀ outside waiting most s') s := by
  obtain ⟨hfree, hrunning, q, hmost, hbacklog⟩ := h
  unfold reportIfPending
  rw [ensures_bind, ensures_get]
  refine .ite (fun _ => ?_) fun _ => ⟨hfree, hrunning, q, hmost, hbacklog⟩
  refine (hbacklog.asks .isEventReportingOn (R := fun isOn => isOn = false)
    fun o a ho => ⟨ho.reporting, rfl, rfl, rfl⟩).bind ?_
  rintro isOn s₁ ⟨rfl, hl₁, h₁⟩
  rw [ensures_bind, ensures_setLogger]
  refine .ite (fun hon => by cases hon) fun _ => ?_
  rw [ensures_pure]
  exact ⟨by rw [hl₁, hfree], by rw [hl₁, hrunning], q, hmost, h₁.slot rfl rfl h₁.record⟩

theorem walk_ready {most : Nat} (indices : List (Fin PendingEvents.kindCount))
    (h : Ready P C media m₀ outside waiting most s) :
    Ensures (walk (assembled P C outside) indices) (fun _ s' =>
      Ready P C media m₀ outside waiting most s') s := by
  induction indices generalizing s with
  | nil => exact h
  | cons index rest ih =>
    refine (reportIfPending_ready h index).bind ?_
    rintro goesOn s₁ h₁
    exact .ite (fun _ => ih h₁) fun _ => h₁

theorem reportPendingEvents_ready {most : Nat} (h : Ready P C media m₀ outside waiting most s) :
    Ensures (reportPendingEvents (assembled P C outside)) (fun goesOn s' => goesOn = true ∧
      Ready P C media m₀ outside waiting most s') s := by
  have hends : ∀ {s : State (Assembly σ) Bytes}, Ready P C media m₀ outside waiting most s →
      Ensures (do return !(← logger).holdsRecord : Action (Assembly σ) Bytes Bool)
        (fun goesOn s' => goesOn = true ∧ Ready P C media m₀ outside waiting most s') s := by
    intro s h
    rw [ensures_bind, ensures_logger, ensures_pure, h.free]
    exact ⟨rfl, h⟩
  unfold reportPendingEvents
  rw [ensures_bind, ensures_logger]
  refine .ite (fun _ => ?_) fun _ => hends h
  exact (walk_ready _ h).bind fun _ _ h₁ => hends h₁

theorem holdNextRecord_backlog (h : Backlog P C media m₀ outside waiting q s)
    (hrunning : s.logger.halted = false) :
    Ensures (holdNextRecord (assembled P C outside)) (fun held s' =>
      held = waiting.head?.isSome ∧ s'.logger.holdsRecord = held ∧ s'.logger.halted = false ∧
        Backlog P C media m₀ outside waiting.tail q s') s := by
  unfold holdNextRecord
  rw [ensures_bind, ensures_logger]
  refine h.bufferRead.bind ?_
  rintro next s₁ ⟨rfl, hl₁, h₁⟩
  simp only [ensures_bind, ensures_setLogger, ensures_pure]
  refine ⟨trivial, trivial, by rw [hl₁, hrunning], h₁.slot rfl rfl ?_⟩
  cases waiting with
  | nil => exact h₁.record
  | cons bytes rest => exact h.fits bytes List.mem_cons_self

/-- The drain ends with the ring empty. -/
theorem drainLoop_ready (hP : Faithful P media) (hdispose : DisposesAlways P media)
    (hpolicy : SealsInPlace P C) {most fuel : Nat} (drained : Bool)
    (h : Ready P C media m₀ outside waiting most s) (hfuel : waiting.length < fuel) :
    Ensures (drainLoop (assembled P C outside) drained true fuel) (fun outcome s' =>
      outcome.isSome = true ∧ Ready P C media m₀ outside [] (most + waiting.length) s') s := by
  induction fuel generalizing waiting most drained s with
  | zero => exact absurd hfuel (Nat.not_lt_zero _)
  | succ fuel ih =>
    obtain ⟨hfree, hrunning, q, hmost, hbacklog⟩ := h
    unfold drainLoop
    rw [ensures_bind, ensures_logger]
    refine .ite (fun _ => ?_) fun hstops => absurd (by simp [hrunning]) hstops
    refine (holdNextRecord_backlog hbacklog hrunning).bind ?_
    rintro held s₁ ⟨rfl, hheld, hr₁, h₁⟩
    cases waiting with
    | nil => exact ⟨rfl, hheld, hr₁, q, hmost, h₁⟩
    | cons bytes rest =>
      refine (dealWithHeldRecord_ready hP hdispose hpolicy h₁ hr₁).bind ?_
      rintro dealtWith s₂ ⟨rfl, h₂⟩
      rw [hheld] at h₂
      obtain ⟨hf₂, hr₂, q₂, hmost₂, hb₂⟩ := h₂
      have hone : q₂.items.length ≤ most + 1 := le_trans hmost₂ (Nat.add_le_add_right hmost 1)
      refine (ih true ⟨hf₂, hr₂, q₂, hone, hb₂⟩ (Nat.lt_of_succ_lt_succ hfuel)).mono ?_
      rintro outcome s₃ ⟨hsome, h₃⟩
      rw [Nat.add_right_comm, Nat.add_assoc] at h₃
      exact ⟨hsome, h₃⟩

theorem takeNextFromStore_backlog (hP : Faithful P media) (hdispose : DisposesAlways P media)
    (hpolicy : SealsInPlace P C) (h : Backlog P C media m₀ outside waiting q s)
    (hfree : s.logger.holdsRecord = false) (hrunning : s.logger.halted = false) :
    Ensures (takeNextFromStore (assembled P C outside)) (fun taken s' =>
      taken = q.items.head?.isSome ∧ s'.logger.holdsRecord = false ∧ s'.logger.halted = false ∧
        ∃ q', q'.items = q.items ∧ (q.items ≠ [] → q'.headRead = true) ∧
          Backlog P C media m₀ outside waiting q' s') s := by
  unfold takeNextFromStore
  rw [ensures_bind, ensures_logger]
  refine .ite (fun hheld => ?_) fun _ => ?_
  · rw [hfree] at hheld
    cases hheld
  rw [ensures_bind, ensures_logger]
  refine (h.storeReadNextUnsent hP hdispose hpolicy).bind ?_
  rintro next s₁ ⟨rfl, hl₁, q', hitems, hread, h₁⟩
  simp only [ensures_bind, ensures_setLogger, ensures_pure]
  refine ⟨trivial, by rw [hl₁, hfree], by rw [hl₁, hrunning], q', hitems, hread, h₁.slot rfl rfl ?_⟩
  rcases hq : q.items with _ | ⟨bytes, rest⟩
  · exact h₁.record
  · exact queues_fit h.store bytes (by rw [hq]; exact List.mem_cons_self)

/-- The oldest record of the store is sent. -/
theorem sendOneFromStore_ready (hP : Faithful P media) (hdispose : DisposesAlways P media)
    (hpolicy : SealsInPlace P C) {most : Nat} (h : Ready P C media m₀ outside waiting most s) :
    Ensures (sendOneFromStore (assembled P C outside)) (fun _ s' =>
      Ready P C media m₀ outside waiting (most - 1) s') s := by
  obtain ⟨hfree, hrunning, q, hmost, hbacklog⟩ := h
  unfold sendOneFromStore
  refine (takeNextFromStore_backlog hP hdispose hpolicy hbacklog hfree hrunning).bind ?_
  rintro taken s₁ ⟨rfl, hf₁, hr₁, ⟨items, headRead⟩, hitems, hread, h₁⟩
  obtain rfl : items = q.items := hitems
  rcases hq : q.items with _ | ⟨head, rest⟩
  · rw [hq] at h₁
    refine (h₁.asks .storeHasUnsent (R := fun _ => True) fun _ _ _ =>
      ⟨trivial, rfl, rfl, rfl⟩).mono ?_
    rintro _ s₂ ⟨-, hl₂, h₂⟩
    exact ⟨by rw [hl₂, hf₁], by rw [hl₂, hr₁], _, Nat.zero_le _, h₂⟩
  · rw [hq] at h₁ hread hmost
    obtain rfl : headRead = true := hread (List.cons_ne_nil _ _)
    change Ensures (logger >>= _) _ s₁
    rw [ensures_bind, ensures_logger]
    refine (h₁.asks (.senderSend s₁.logger.record) (R := fun accepted => accepted = true)
      fun o a ho => ⟨send_of_obliging ho _ _, rfl, rfl, rfl⟩).bind ?_
    rintro accepted s₂ ⟨rfl, hl₂, h₂⟩
    refine (h₂.storeMarkSent hP hdispose hpolicy).bind ?_
    rintro _ s₃ ⟨hl₃, h₃⟩
    rw [ensures_pure]
    exact ⟨by rw [hl₃, hl₂, hf₁], by rw [hl₃, hl₂, hr₁], ⟨rest, false⟩,
      Nat.le_sub_one_of_lt hmost, h₃⟩

theorem statusOf_ready {most : Nat} (h : Ready P C media m₀ outside waiting most s)
    (storeBlocked drained : Bool) :
    Ensures (statusOf (assembled P C outside) storeBlocked drained) (fun _ s' =>
      Ready P C media m₀ outside waiting most s') s := by
  unfold statusOf
  rw [ensures_bind, ensures_logger]
  refine .ite (fun _ => h) fun _ => ?_
  rw [ensures_bind, ensures_logger]
  refine .ite (fun _ => h) fun _ => .ite (fun _ => h) fun _ => ?_
  obtain ⟨hfree, hrunning, q, hmost, hbacklog⟩ := h
  refine (hbacklog.asks .storeHasUnsent (R := fun _ => True)
    fun _ _ _ => ⟨trivial, rfl, rfl, rfl⟩).bind ?_
  rintro hasUnsent s₁ ⟨-, hl₁, h₁⟩
  have hready : Ready P C media m₀ outside waiting most s₁ :=
    ⟨by rw [hl₁, hfree], by rw [hl₁, hrunning], q, hmost, h₁⟩
  unfold isReportWaiting
  simp only [ensures_bind, ensures_get, ensures_pure]
  exact .ite (fun _ => hready) fun _ => hready

theorem drainBufferIntoStore_ready (hP : Faithful P media) (hdispose : DisposesAlways P media)
    (hpolicy : SealsInPlace P C) {fuel : Nat} (h : Backlog P C media m₀ outside waiting q s)
    (hrunning : s.logger.halted = false) (hfuel : waiting.length < fuel) :
    Ensures (drainBufferIntoStore (assembled P C outside) fuel) (fun outcome s' =>
      outcome.isSome = true ∧ Ready P C media m₀ outside []
        (q.items.length + s.logger.holdsRecord.toNat + waiting.length) s') s := by
  unfold drainBufferIntoStore
  refine (applyPolicy_running h hrunning).bind ?_
  rintro _ s₁ ⟨hr₁, hheld, h₁⟩
  have hfewer : s₁.logger.holdsRecord.toNat ≤ s.logger.holdsRecord.toNat := by
    cases hs₁ : s₁.logger.holdsRecord with
    | false => exact Nat.zero_le _
    | true => rw [hheld hs₁]
  have hmost : q.items.length + s₁.logger.holdsRecord.toNat ≤
      q.items.length + s.logger.holdsRecord.toNat := Nat.add_le_add_left hfewer _
  rw [ensures_bind, ensures_logger]
  refine Ensures.bind (Q := fun dealtWith s₂ => dealtWith = true ∧
    Ready P C media m₀ outside waiting
    (q.items.length + s.logger.holdsRecord.toNat) s₂) ?_ ?_
  · refine .ite (fun hhalted => ?_) fun _ => ?_
    · rw [hr₁] at hhalted
      cases hhalted
    · refine (dealWithHeldRecord_ready hP hdispose hpolicy h₁ hr₁).mono ?_
      rintro dealtWith s₂ ⟨hdealt, hf₂, hr₂, q₂, hq₂, h₂⟩
      exact ⟨hdealt, hf₂, hr₂, q₂, hq₂.trans hmost, h₂⟩
  rintro _ s₂ ⟨rfl, h₂⟩
  rw [ensures_bind, ensures_logger]
  refine Ensures.bind (Q := fun dealtWith s₃ => dealtWith = true ∧
    Ready P C media m₀ outside waiting
    (q.items.length + s.logger.holdsRecord.toNat) s₃) ?_ ?_
  · exact .ite (fun _ => reportPendingEvents_ready h₂) fun _ => ⟨rfl, h₂⟩
  rintro _ s₃ ⟨rfl, h₃⟩
  exact drainLoop_ready hP hdispose hpolicy false h₃ hfuel

/-- A pass empties the ring into the store and sends one record of the store. -/
theorem service_ready (hP : Faithful P media) (hdispose : DisposesAlways P media)
    (hpolicy : SealsInPlace P C) {fuel : Nat} (h : Backlog P C media m₀ outside waiting q s)
    (hfuel : waiting.length < fuel) :
    Ensures (service (assembled P C outside) fuel) (fun status s' => status.isSome = true ∧
      Ready P C media m₀ outside [] (q.items.length + s.logger.holdsRecord.toNat +
        waiting.length - 1)
        s') s := by
  unfold service
  refine (resumeIfPolicyChanged_running h).bind ?_
  rintro _ s₁ ⟨hr₁, hheld, h₁⟩
  rw [ensures_bind, ensures_logger]
  refine .ite (fun hhalted => ?_) fun _ => ?_
  · rw [hr₁] at hhalted
    cases hhalted
  unfold processMessages
  rw [ensures_bind, ensures_setLogger]
  have hturned : Backlog P C media m₀ outside waiting q { s₁ with
      logger := { s₁.logger with reportTurnedDown := false } } := h₁.slot rfl rfl h₁.record
  refine (drainBufferIntoStore_ready hP hdispose hpolicy hturned hr₁ hfuel).bind ?_
  rintro outcome s₂ ⟨hsome, h₂⟩
  obtain ⟨drained, rfl⟩ := Option.isSome_iff_exists.1 hsome
  rw [← hheld]
  change Ensures (logger >>= _) _ s₂
  rw [ensures_bind, ensures_logger]
  refine Ensures.bind (Q := fun _ s₃ => Ready P C media m₀ outside []
    (q.items.length + s₁.logger.holdsRecord.toNat + waiting.length - 1) s₃) ?_ ?_
  · refine .ite (fun hhalted => ?_) fun _ => sendOneFromStore_ready hP hdispose hpolicy h₂
    rw [h₂.running] at hhalted
    cases hhalted
  · rintro storeBlocked s₃ h₃
    refine (statusOf_ready h₃ storeBlocked drained).bind ?_
    rintro status s₄ h₄
    exact ⟨rfl, h₄⟩

/-! ## Runs -/

/-- The passes of a logger left alone. -/
def IsPass {ω : Type} (atLeast : Nat) : RunOp ω → Prop
  | .pass fuel => atLeast < fuel
  | .others _ => False

theorem IsPass.anyFuel {ω : Type} {atLeast : Nat} {op : RunOp ω} (h : IsPass atLeast op) :
    IsPass 0 op := by
  cases op with
  | others what => exact h
  | pass fuel => exact Nat.lt_of_le_of_lt (Nat.zero_le _) h

/-- Each pass returns and leaves one record less to deliver. -/
theorem ready_of_passes (hP : Faithful P media) (hdispose : DisposesAlways P media)
    (hpolicy : SealsInPlace P C) {most : Nat} {s' : State (Assembly σ) Bytes}
    {ops : List RingOp} {statuses : List (Option ServiceStatus)}
    (h : Ready P C media m₀ outside [] most s) (hops : ∀ op ∈ ops, IsPass 0 op)
    (hrun : AssemblyRun P C outside s ops statuses s') :
    (∀ status ∈ statuses, status.isSome = true) ∧
      Ready P C media m₀ outside [] (most - ops.length) s' := by
  induction hrun generalizing most with
  | nil => exact ⟨fun _ hstatus => absurd hstatus List.not_mem_nil, h⟩
  | @cons s s₁ s' op status ops statuses first rest ih =>
    have hop := hops op List.mem_cons_self
    cases first with
    | others writes hwrite => exact absurd hop id
    | pass _ fuel =>
      obtain ⟨hfree, hrunning, q, hmost, hbacklog⟩ := h
      obtain ⟨hsome, hf₁, hr₁, q₁, hq₁, h₁⟩ := service_ready hP hdispose hpolicy hbacklog hop
      have hone : q₁.items.length ≤ most - 1 := by
        rw [hfree] at hq₁
        exact hq₁.trans (Nat.sub_le_sub_right hmost 1)
      obtain ⟨hstatuses, hrest⟩ :=
        ih ⟨hf₁, hr₁, q₁, hone, h₁⟩ fun op hop => hops op (List.mem_cons_of_mem _ hop)
      refine ⟨List.forall_mem_cons.2 ⟨hsome, hstatuses⟩, ?_⟩
      rw [List.length_cons, Nat.add_comm, ← Nat.sub_sub]
      exact hrest

/-- A store whose queue is empty under one reading has an empty queue under any. -/
theorem queues_eq_nil (hP : Faithful P media) (hdispose : DisposesAlways P media)
    (hpolicy : SealsInPlace P C) {store : BlockStore σ} {q' : FifoQueue}
    (h : store.Queues P C media m₀ q) (h' : store.Queues P C media m₀ q') (hempty : q.items = []) :
    q'.items = [] := by
  obtain ⟨bytes, _, _, _, hread, hallows, -⟩ := queues_read hP hdispose hpolicy h (le_refl _)
  obtain ⟨bytes', _, _, _, hread', hallows', -⟩ := queues_read hP hdispose hpolicy h' (le_refl _)
  rw [hread] at hread'
  obtain ⟨rfl⟩ : bytes = bytes' := by simpa using congrArg Prod.fst hread'
  cases hallows with
  | handsOut items =>
    rw [hempty] at items
    cases items
  | hasNothing items =>
    cases hallows' with
    | hasNothing items' => exact items'

theorem call_written (o : Outside) (request : Request Bytes) (a : Assembly σ) :
    (Assembly.call P C o request a).2.written = a.written ∧
      (Assembly.call P C o request a).2.calls = a.calls := by
  cases request with
  | bufferRead maxSize =>
    dsimp only [Assembly.call, Assembly.bufferRead]
    split <;> exact ⟨rfl, rfl⟩
  | _ => exact ⟨rfl, rfl⟩

/-- The ring keeps no record in the passes of a logger left alone. -/
theorem written_of_passes {s' : State (Assembly σ) Bytes}
    {t : State (Assembly σ × Pipeline) Item} {L : Parts (Assembly σ × Pipeline) Item}
    {ops : List RingOp} {statuses : List (Option ServiceStatus)}
    (hL : Labels P C media m₀ outside L) (h : LabelledAs P C media m₀ s t)
    (hquiet : ∀ n, s.env.calls ≤ n → Obliging (outside n)) {atLeast : Nat}
    (hops : ∀ op ∈ ops, IsPass atLeast op) (hrun : AssemblyRun P C outside s ops statuses s') :
    s'.env.written = s.env.written := by
  have halike := hL.answersAlike.also (I := fun a => a.written = s.env.written ∧
    s.env.calls ≤ a.calls)
    fun request a table ⟨hwritten, hcalls⟩ => by
      obtain ⟨hkept, hcounted⟩ := call_written (P := P) (C := C) (outside a.calls) request
        (a.before C (outside a.calls))
      refine ⟨hkept.trans ?_, hcounted ▸ Nat.le_succ_of_le hcalls⟩
      rw [Assembly.before, (hquiet _ hcalls).writes]
      exact hwritten
  have hstart := h.also (I := fun a => a.written = s.env.written ∧ s.env.calls ≤ a.calls)
    ⟨rfl, le_refl _⟩
  obtain ⟨t', ht'⟩ := hrun.invariant (D := IsPass atLeast) (I := fun s => ∃ t, InStep _ _ _ _ s t)
    hops ⟨t, hstart⟩ fun {_ op _ _} hop ⟨t, ht⟩ hstep => by
      cases hstep with
      | others what hwrite => exact absurd hop id
      | pass _ fuel => exact ⟨_, (service_coupled halike fuel _ t ht).2⟩
  exact ht'.env.2.1

/-- Everything goes well. -/
def allObliging (_ : Nat) : Outside :=
  ⟨[], id, .newest, false, [], StreamSender.allWell⟩

theorem allObliging_obliging (n : Nat) : Obliging (allObliging n) :=
  ⟨rfl, nofun, rfl, rfl, rfl, rfl, rfl⟩

/-- A logger whose ring has kept one record. -/
def smallLoggerWritten : State (Assembly Media) Bytes :=
  { smallLogger with env := smallLogger.env.writeAll Config.small.tunables [(.newest, [65])] }

/-- What a pass makes of a logger. -/
def served (s : State (Assembly Media) Bytes) :
    Option ServiceStatus × State (Assembly Media) Bytes :=
  service (assembled (ramDevice .oldest) .small allObliging) 40 s

end SolidSyslog.Service
