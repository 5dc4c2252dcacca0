import SolidSyslog.Service.Order

/-!
# Delivery over every run

A run interleaves passes of `Service` with buffer writes by other tasks, which may also come in the
middle of a pass. Over every run from a new logger the account is kept, and what it says is the
order and the losses of the records the buffer accepted: `transient_store_delivers_in_order` for a
store that is transient throughout and `retaining_store_delivers_in_order` for one that retains
records until it freezes.
-/

namespace SolidSyslog.Service

open Lib

variable {ε : Type} {P : Parts ε Item} {view : ε → Pipeline}

/-- Between passes other tasks write the buffer and raise events. -/
def WriteBuffer (view : ε → Pipeline) (_ : Unit) (s s' : State ε Item) : Prop :=
  ∃ env pending, Relation.ReflTransGen BufferWrite (view s.env) (view env) ∧
    s' = { s with env := env, pending := pending }

/-- A new logger in a system where nothing was accepted or sent yet. The store may hold records of
an earlier run. -/
structure Starts (view : ε → Pipeline) (s : State ε Item) : Prop where
  logger : ∃ recordCapacity record, s.logger = Logger.initial recordCapacity record
  trace : s.trace = []
  accepted : (view s.env).accepted = []
  buffer : (view s.env).buffer = []
  sent : (view s.env).sent = []
  lost : (view s.env).lost = []
  handedOut : (view s.env).handedOut = false
  store : ∀ r ∈ (view s.env).store, r.arrival = none
  transient : (view s.env).isTransient = true → (view s.env).store = []

theorem Starts.atRest {s : State ε Item} (h : Starts view s) {throughout : Bool}
    (ht : throughout = true → (view s.env).isTransient = true) : AtRest view throughout s := by
  obtain ⟨recordCapacity, record, hlogger⟩ := h.logger
  have hkept : (view s.env).kept [] = [] := by
    simp only [Pipeline.kept, h.sent, h.buffer, List.nil_append, List.append_nil]
    exact List.filter_eq_nil_iff.2 fun r hr => by simp [h.store r hr]
  refine AtRest.of_free (by rw [hlogger]; rfl) ⟨⟨?_, fun r => ?_, ?_, ?_, ?_, ?_, ?_⟩, ?_, ?_, ?_⟩
  · rw [hkept]
    exact List.nil_sublist _
  · rw [hkept]
    simp [h.accepted, h.trace, h.lost, Pipeline.missing, droppedIn]
  · simp [h.accepted]
  · simp [h.buffer]
  · exact fun htransient => ⟨h.transient htransient, h.handedOut⟩
  · simp [h.lost, h.trace, droppedIn]
  · simp [h.lost, h.trace, droppedIn]
  · rw [h.trace]
    exact Always.nil
  · exact fun hthroughout => ⟨ht hthroughout, by simp [h.lost]⟩
  · intro _
    rw [h.trace, hlogger]
    exact ⟨trivial, rfl⟩

theorem atRest_of_runStep (hP : IsPipeline P view) {throughout : Bool} {s s' : State ε Item}
    {op : RunOp Unit} {status : Option ServiceStatus} (h : AtRest view throughout s)
    (hstep : RunStep P (WriteBuffer view) s op status s') : AtRest view throughout s' := by
  cases hstep with
  | others _ hothers =>
    obtain ⟨env, pending, hwrites, rfl⟩ := hothers
    refine h.congr (Accounted.bufferWrites h.holds hwrites) (.refl _) fun ht => ?_
    exact (Accounted.bufferWrites_isTransient hwrites).trans ht
  | pass _ fuel => exact service_spec hP h

theorem atRest_of_run (hP : IsPipeline P view) {throughout : Bool} {s s' : State ε Item}
    {ops : List (RunOp Unit)} {statuses : List (Option ServiceStatus)}
    (h : AtRest view throughout s)
    (hrun : Run (RunStep P (WriteBuffer view)) s ops statuses s') : AtRest view throughout s' :=
  hrun.invariant (D := fun _ => True) (fun _ _ => trivial) h
    fun _ hs hstep => atRest_of_runStep hP hs hstep

/-! ## What the account says -/

theorem Conserved.perm {p : Pipeline} {held dropped : List Item} (h : Conserved p held dropped) :
    p.accepted.Perm (p.kept held ++ p.missing dropped) := by
  rw [List.perm_iff_count]
  intro r
  rw [List.count_append, h.account r]

/-- With nothing missing the records stand as they were accepted. -/
theorem Conserved.accepted_eq {p : Pipeline} {held dropped : List Item}
    (h : Conserved p held dropped) (hmissing : p.missing dropped = []) :
    p.accepted = p.kept held := by
  have hperm := h.perm
  rw [hmissing, List.append_nil] at hperm
  exact (h.order.eq_of_length hperm.length_eq.symm).symm

/-! ## A system in which nothing goes wrong -/

/-- A buffer and a store that never lose a record, a sender that takes every record, and nothing
else going on. -/
def smoothParts : Parts Pipeline Item where
  answer
    | .bufferRead _, p, t =>
      match p.buffer with
      | [] => (none, p, t)
      | r :: rest => (some r, { p with buffer := rest }, t)
    | .bufferIsFull, p, t => (false, p, t)
    | .storeWrite r, p, t =>
      if p.isTransient then (.notRetained, { p.evictFromStore 0 with turnedAway := some r }, t)
      else (.kept, { p.evictFromStore 0 with store := p.store.drop 0 ++ [r] }, t)
    | .storeReadNextUnsent _, p, t =>
      match p.store with
      | [] => (none, p, t)
      | r :: rest =>
        (some r, { p.lose [] .storeLost with store := r :: rest, handedOut := true }, t)
    | .storeMarkSent, p, t => ((), p.markSent, t)
    | .storeHasUnsent, p, t => (!p.store.isEmpty, p, t)
    | .storeIsTransient, p, t => (p.isTransient, p.settle, t)
    | .senderSend r, p, t => (true, { p with sent := p.sent ++ [r] }, t)
    | .getDiscardPolicy, p, t => (.newest, { p with policies := p.policies ++ [.newest] }, t)
    | .isEventReportingOn, p, t => (true, p, t)
    | .onHalt, p, t => ((), p, t)
    | .errorHandler _, p, t => ((), p, t)
    | .formatReport _ _, p, t => (⟨[], none⟩, p, t)

theorem smoothParts_isPipeline : IsPipeline smoothParts id where
  step request p t := by
    refine ⟨p, .refl, .inl ?_⟩
    cases request with
    | bufferRead maxSize =>
      simp only [smoothParts]
      split
      · exact .bufferEmpty p maxSize
      · next r rest h => exact .bufferRead p maxSize r rest h
    | storeWrite r =>
      simp only [smoothParts]
      split
      · exact .storeTurnsAway p r 0
      · next h => exact .storeKeeps p r 0 (Bool.eq_false_iff.2 h)
    | storeReadNextUnsent maxSize =>
      simp only [smoothParts]
      split
      · exact .storeHandsOutNothing p maxSize
      · next r rest h => exact .storeHandsOut p maxSize [] r rest h
    | bufferIsFull => exact .bufferIsFull p false
    | storeMarkSent => exact .storeMarkSent p
    | storeHasUnsent => exact .storeHasUnsent p _
    | storeIsTransient => exact .storeIsTransient p
    | senderSend r => exact .senderSend p r true
    | getDiscardPolicy => exact .getDiscardPolicy p .newest
    | isEventReportingOn => exact .isEventReportingOn p true
    | onHalt => exact .onHalt p
    | errorHandler event => exact .errorHandler p event
    | formatReport capacity event => exact .formatReport p capacity event _ rfl

/-- A new logger over empty queues. -/
def smoothStart (isTransient : Bool) : State Pipeline Item :=
  ⟨Logger.initial 64 ⟨[], none⟩, ⟨[], [], false, isTransient, none, [], [], [], []⟩,
    PendingEvents.empty, []⟩

theorem smoothStart_starts (isTransient : Bool) : Starts id (smoothStart isTransient) where
  logger := ⟨64, ⟨[], none⟩, rfl⟩
  trace := rfl
  accepted := rfl
  buffer := rfl
  sent := rfl
  lost := rfl
  handedOut := rfl
  store := by simp [smoothStart]
  transient _ := rfl

/-- The state after another task wrote one record. -/
def smoothWritten (isTransient : Bool) : State Pipeline Item :=
  { smoothStart isTransient with
    env := (smoothStart isTransient).env.bufferWrite .newest 0 (some [65]) }

/-- One record is written and a pass is made. -/
theorem smooth_run (isTransient : Bool) :
    Run (RunStep smoothParts (WriteBuffer id)) (smoothStart isTransient) [.others (), .pass 2]
      [none, (service smoothParts 2 (smoothWritten isTransient)).1]
      (service smoothParts 2 (smoothWritten isTransient)).2 := by
  have hwrite : BufferWrite (smoothStart isTransient).env (smoothWritten isTransient).env :=
    .mk _ .newest 0 (some [65]) fun h => absurd h (Nat.lt_irrefl 0)
  exact .cons (.others () ⟨_, PendingEvents.empty, .single hwrite, rfl⟩)
    (.cons (.pass (smoothWritten isTransient) 2) (.nil _))

/-! ## Order and loss -/

/-- Over a store that is transient throughout, the records the sender took, the held one and those
in the buffer stand in the order the buffer accepted them in; a record is missing only if the buffer
evicted it or it was dropped from the slot under Oldest with the buffer full; under any other policy
none is missing; and each run of drops is reported once, at its first. -/
theorem transient_store_delivers_in_order (hP : IsPipeline P view) {s s' : State ε Item}
    {ops : List (RunOp Unit)} {statuses : List (Option ServiceStatus)} (hstart : Starts view s)
    (htransient : (view s.env).isTransient = true)
    (hrun : Run (RunStep P (WriteBuffer view)) s ops statuses s') :
    let p := view s'.env
    let kept := arrivals (p.sent ++ s'.logger.held ++ p.buffer)
    let missing := arrivals (p.lost.map Prod.fst ++ droppedIn s'.trace)
    let seen := s'.trace.filterMap observe
    kept.Sublist p.accepted ∧ p.accepted.Nodup ∧ p.accepted.Perm (kept ++ missing) ∧
      (∀ x ∈ p.lost, x.2 = Loss.bufferEvicted) ∧
      (∀ before r after, s'.trace = before ++ .dropped r :: after →
        ∃ earlier, before = earlier ++
          [.call .bufferIsFull true, .call .getDiscardPolicy .oldest]) ∧
      (.oldest ∉ p.policies → p.accepted = kept) ∧
      RunsReported false seen ∧ seen.count .report = runCount false seen := by
  intro p kept missing seen
  have h : AtRest view true s' := atRest_of_run hP (hstart.atRest fun _ => htransient) hrun
  have hloses : LosesNothing p := h.holds.transient rfl
  have hkept : p.kept s'.logger.held = kept := by
    have hstore : p.store = [] := (h.holds.conserved.transient hloses.1).1
    simp only [Pipeline.kept, hstore, List.append_nil, kept]
  have hconserved := h.holds.conserved
  refine ⟨?_, hconserved.nodup_accepted, ?_, hloses.2, ?_, fun hpolicy => ?_, ?_, ?_⟩
  · rw [← hkept]
    exact hconserved.order
  · rw [← hkept]
    exact hconserved.perm
  · exact fun before r after heq => h.holds.allowed before (.dropped r) after heq
  · rw [← hkept]
    refine hconserved.accepted_eq ?_
    have hlost : p.lost = [] := by
      refine List.eq_nil_iff_forall_not_mem.2 fun x hx => hpolicy (hconserved.blame (.inl ?_))
      exact ⟨x, hx, hloses.2 x hx⟩
    have hdropped : droppedIn s'.trace = [] := by
      by_contra hne
      exact hpolicy (hconserved.blame (.inr hne))
    have hlost' : (view s'.env).lost = [] := hlost
    simp [Pipeline.missing, hlost', hdropped]
  · exact (h.holds.runs rfl).1
  · exact count_report_eq_runCount (h.holds.runs rfl).1

theorem transient_store_delivers_one : (smoothStart true).env.isTransient = true ∧
    (service smoothParts 2 (smoothWritten true)).2.env.sent = [⟨[65], some 0⟩] ∧
    (service smoothParts 2 (smoothWritten true)).2.env.accepted = [⟨[65], some 0⟩] := by
  have h := transient_store_delivers_in_order smoothParts_isPipeline (smoothStart_starts true) rfl
    (smooth_run true)
  exact ⟨rfl, rfl, (h.2.2.2.2.2.1 (by decide)).trans (by rfl)⟩

/-- Over a store that retains records until it freezes, the records the sender took, those in the
store, the held one and those in the buffer stand in the order the buffer accepted them in, and the
others are in the account of what was lost; nothing is left on the media or dropped from the slot
before the store froze, and a drop is under Oldest with the buffer full. A record of the buffer goes
to the sender only as the store hands it out or past a store that says it is transient, and
`MarkSent` only follows a send the sender accepted of the record just handed out. -/
theorem retaining_store_delivers_in_order (hP : IsPipeline P view) {s s' : State ε Item}
    {ops : List (RunOp Unit)} {statuses : List (Option ServiceStatus)} (hstart : Starts view s)
    (hrun : Run (RunStep P (WriteBuffer view)) s ops statuses s') :
    let p := view s'.env
    let kept := arrivals (p.sent ++ p.store ++ s'.logger.held ++ p.buffer)
    let missing := arrivals (p.lost.map Prod.fst ++ droppedIn s'.trace)
    kept.Sublist p.accepted ∧ p.accepted.Nodup ∧ p.accepted.Perm (kept ++ missing) ∧
      ((∃ x ∈ p.lost, x.2 = Loss.leftOnMedia) ∨ droppedIn s'.trace ≠ [] → p.isTransient = true) ∧
      (∀ before r after, s'.trace = before ++ .dropped r :: after →
        ∃ earlier, before = earlier ++
          [.call .bufferIsFull true, .call .getDiscardPolicy .oldest]) ∧
      (∀ before r accepted after, s'.trace = before ++ .call (.senderSend r) accepted :: after →
        r.arrival.isSome = true →
        (∃ earlier maxSize, before =
          earlier ++ [.call (.storeReadNextUnsent maxSize) (some r)]) ∨
        (∃ earlier, before =
          earlier ++ [.call (.storeWrite r) .notRetained, .call .storeIsTransient true])) ∧
      (∀ before after, s'.trace = before ++ .call .storeMarkSent () :: after →
        ∃ earlier maxSize r, before = earlier ++
          [.call (.storeReadNextUnsent maxSize) (some r), .call (.senderSend r) true]) := by
  intro p kept missing
  have h : AtRest view false s' :=
    atRest_of_run hP (hstart.atRest fun hfalse => by cases hfalse) hrun
  have hconserved := h.holds.conserved
  refine ⟨hconserved.order, hconserved.nodup_accepted, hconserved.perm, hconserved.frozen, ?_, ?_,
    ?_⟩
  · exact fun before r after heq => h.holds.allowed before (.dropped r) after heq
  · exact fun before r accepted after heq =>
      h.holds.allowed before (.call (.senderSend r) accepted) after heq
  · exact fun before after heq => h.holds.allowed before (.call .storeMarkSent ()) after heq

theorem retaining_store_delivers_one :
    (service smoothParts 2 (smoothWritten false)).2.env.sent = [⟨[65], some 0⟩] ∧
    (service smoothParts 2 (smoothWritten false)).2.env.accepted.Nodup := by
  have h := retaining_store_delivers_in_order smoothParts_isPipeline (smoothStart_starts false)
    (smooth_run false)
  exact ⟨rfl, h.2.1⟩

end SolidSyslog.Service
