import SolidSyslog.Lib.Latch
import SolidSyslog.Buffer.Fifo

/-!
# What a ring loses, and what it says about it

A run of the ring leaves a log: each operation with the ring it found, its answer and its reports.
The log decides the rest. Three latches make one report for each run of losses (refused writes,
evicting writes, reads too small for the head record), the records kept are those that left and
those still queued, in order, and the ring is full where the last write or delivering read left
it so.
-/

namespace SolidSyslog.Buffer

open Lib

/-! ## The log -/

/-- One operation of a run as it happened. -/
structure Entry where
  before : CircularBuffer
  op : Op
  answer : Answer
  reports : List BufferReport
  deriving DecidableEq, Repr

def perform (T : Tunables) (self : CircularBuffer) : Op → Except Fault (Entry × CircularBuffer)
  | .write policy data => do
    let (outcome, reports, after) ← self.write T policy data
    return (⟨self, .write policy data, .wrote outcome, reports⟩, after)
  | .read maxSize => do
    let (data, reports, after) ← self.read maxSize
    return (⟨self, .read maxSize, .delivered data, reports⟩, after)
  | .isFull => .ok (⟨self, .isFull, .full self.isFull, []⟩, self)

def performAll (T : Tunables) :
    CircularBuffer → List Op → Except Fault (List Entry × CircularBuffer)
  | self, [] => .ok ([], self)
  | self, op :: ops => do
    let (entry, after) ← perform T self op
    let (log, last) ← performAll T after ops
    return (entry :: log, last)

namespace Entry

/-- The record a write kept. -/
def kept (e : Entry) : List Bytes :=
  match e.op, e.answer with
  | .write _ data, .wrote (some (.kept _)) => [data]
  | _, _ => []

/-- The record a read delivered. -/
def delivered (e : Entry) : List Bytes :=
  match e.answer with
  | .delivered (some data) => [data]
  | _ => []

/-- The records a write evicted. -/
def evicted (e : Entry) : List Bytes :=
  match e.op, e.answer with
  | .write _ data, .wrote (some (.kept true)) => e.before.evictedBy (headerBytes + data.length)
  | _, _ => []

/-- The records that left the ring. -/
def left (e : Entry) : List Bytes :=
  e.delivered ++ e.evicted

/-- A write within the message limit or a delivering read: what decides whether the ring is
full. -/
def settles (e : Entry) : Bool :=
  match e.answer with
  | .wrote (some _) => true
  | .delivered (some _) => true
  | _ => false

/-- A write that evicted, or that refused a record an empty ring could hold. -/
def fills (capacity : Nat) (e : Entry) : Bool :=
  match e.op, e.answer with
  | .write _ _, .wrote (some (.kept evicted)) => evicted
  | .write _ data, .wrote (some .refused) => decide (headerBytes + data.length ≤ capacity)
  | _, _ => false

theorem length_left (log : List Entry) : (log.flatMap left).length =
    (log.flatMap delivered).length + (log.flatMap evicted).length := by
  induction log with
  | nil => rfl
  | cons e log ih =>
    simp only [List.flatMap_cons, List.length_append, ih, left]
    omega

end Entry

/-! ## Runs of losses -/

/-- The losses that are reported once a run. -/
inductive LossRun where
  | refusals
  | evictions
  | tooSmallReads
  deriving DecidableEq, Repr

namespace LossRun

def code : LossRun → CircularBufferError
  | refusals => .recordRefused
  | evictions => .recordsEvicted
  | tooSmallReads => .recordTooLarge

def latch : LossRun → CircularBuffer → Bool
  | refusals, b => b.lossReported
  | evictions, b => b.evictionReported
  | tooSmallReads, b => b.tooLargeReported

/-- The operation is one of such a run: a refused write, an evicting write, a read of a ring that
holds a record and delivers none. -/
def loses (run : LossRun) (e : Entry) : Bool :=
  match run, e.answer with
  | refusals, .wrote (some .refused) => true
  | evictions, .wrote (some (.kept true)) => true
  | tooSmallReads, .delivered none => !e.before.isEmpty
  | _, _ => false

/-- The operation ends such a run: a kept write, a write that evicts nothing, a delivering
read. -/
def ends (run : LossRun) (e : Entry) : Bool :=
  match run, e.answer with
  | refusals, .wrote (some (.kept _)) => true
  | evictions, .wrote (some (.kept false)) => true
  | evictions, .wrote (some .refused) => true
  | tooSmallReads, .delivered (some _) => true
  | _, _ => false

/-- The reports of such runs among those an operation made. -/
def reportsIn (run : LossRun) (reports : List BufferReport) : Nat :=
  reports.countP fun report => report.code = run.code

/-- What an operation shows of such a run. -/
def seen (run : LossRun) (e : Entry) : List Observation :=
  (if run.loses e then [.fault] else if run.ends e then [.clear] else []) ++
    List.replicate (run.reportsIn e.reports) .report

theorem count_seen (run : LossRun) (log : List Entry) :
    (log.flatMap run.seen).count .report = run.reportsIn (log.flatMap Entry.reports) := by
  induction log with
  | nil => rfl
  | cons e log ih =>
    have hentry : (run.seen e).count .report = run.reportsIn e.reports := by
      unfold seen
      rw [List.count_append, List.count_replicate_self]
      split
      · simp
      · split <;> simp
    rw [List.flatMap_cons, List.flatMap_cons, List.count_append, ih, hentry]
    simp only [reportsIn, List.countP_append]

end LossRun

/-- What an operation does to a latch and shows of it. -/
inductive LatchStep (run : LossRun) (e : Entry) (after : CircularBuffer) : Prop
  | fault (seen : run.seen e = faultObservations (run.latch e.before))
      (latched : run.latch after = true)
  | clear (seen : run.seen e = [.clear]) (latched : run.latch after = false)
  | other (seen : run.seen e = []) (latched : run.latch after = run.latch e.before)

namespace LatchStep

variable {run : LossRun} {e : Entry} {after : CircularBuffer}

theorem of_loses (hloses : run.loses e = true)
    (hreports : run.reportsIn e.reports = if run.latch e.before then 0 else 1)
    (hlatch : run.latch after = true) : LatchStep run e after := by
  refine .fault ?_ hlatch
  unfold LossRun.seen faultObservations
  rw [if_pos hloses, hreports]
  cases run.latch e.before <;> rfl

theorem of_ends (hloses : run.loses e = false) (hends : run.ends e = true)
    (hreports : run.reportsIn e.reports = 0) (hlatch : run.latch after = false) :
    LatchStep run e after := by
  refine .clear ?_ hlatch
  simp [LossRun.seen, hloses, hends, hreports]

theorem of_neither (hloses : run.loses e = false) (hends : run.ends e = false)
    (hreports : run.reportsIn e.reports = 0) (hlatch : run.latch after = run.latch e.before) :
    LatchStep run e after := by
  refine .other ?_ hlatch
  simp [LossRun.seen, hloses, hends, hreports]

end LatchStep

/-- The reports of a log match its runs, and the latch says whether a run is under way. -/
structure Latched (run : LossRun) (log : List Entry) (b : CircularBuffer) : Prop where
  reported : RunsReported false (log.flatMap run.seen)
  latched : run.latch b = inRun false (log.flatMap run.seen)

theorem Latched.step {run : LossRun} {log : List Entry} {e : Entry} {after : CircularBuffer}
    (h : Latched run log e.before) (hstep : LatchStep run e after) :
    Latched run (log ++ [e]) after := by
  have hsplit : (log ++ [e]).flatMap run.seen = log.flatMap run.seen ++ run.seen e := by simp
  constructor
  · rw [hsplit]
    refine h.reported.append ?_
    rw [← h.latched]
    cases hstep with
    | fault seen latched =>
      rw [seen]
      exact runsReported_fault _
    | clear seen latched =>
      rw [seen]
      cases run.latch e.before <;> trivial
    | other seen latched =>
      rw [seen]
      cases run.latch e.before <;> trivial
  · rw [hsplit, inRun_append, ← h.latched]
    cases hstep with
    | fault seen latched => rw [seen, inRun_fault, latched]
    | clear seen latched => rw [seen, latched, inRun, inRun]
    | other seen latched => rw [seen, latched, inRun]

/-! ## One operation -/

/-- An operation ran on a ring that held `q` and left one that holds `q'`; its entry says what
moved, and the latches and the full flag follow it. -/
structure Performed (T : Tunables) (b : CircularBuffer) (q : List Bytes) (op : Op) (e : Entry)
    (after : CircularBuffer) (q' : List Bytes) : Prop where
  ran : perform T b op = .ok (e, after)
  before : e.before = b
  op_eq : e.op = op
  holds : HoldsQueue after q'
  capacity : after.capacity = b.capacity
  moved : q ++ e.kept = e.left ++ q'
  latches : ∀ run, LatchStep run e after
  full : after.full = if e.settles then e.fills b.capacity else b.full

section Perform

variable {T : Tunables} {b : CircularBuffer} {q : List Bytes}

theorem perform_write (h : HoldsQueue b q) (policy : DiscardPolicy) (data : Bytes) :
    ∃ e after q', Performed T b q (.write policy data) e after q' := by
  by_cases hsize : data.length ≤ T.maxMessageSize
  · have hle : data.length ≤ 65535 := by
      have := T.maxMessageSize_le
      omega
    cases hfits : b.readied.recordFits (headerBytes + data.length) with
    | true =>
      obtain ⟨after, hstore, hholds, hcap, hloss, heviction, hlarge, hfull⟩ :=
        storeApplyingPolicy_fits policy h hfits hle
      refine ⟨⟨b, .write policy data, .wrote (some (.kept false)), []⟩, after, q ++ [data],
        ?_, rfl, rfl, hholds, hcap, rfl, ?_, hfull⟩
      · simp [perform, CircularBuffer.write, hsize, hstore, bind, Except.bind, pure, Except.pure,
          CircularBuffer.reportRunStarted]
      · intro run
        cases run with
        | refusals => exact .of_ends rfl rfl rfl hloss
        | evictions => exact .of_ends rfl rfl rfl heviction
        | tooSmallReads => exact .of_neither rfl rfl rfl hlarge
    | false =>
      cases hpolicy : b.policyEvictsFor (headerBytes + data.length) policy with
      | true =>
        obtain ⟨after, q', hstore, hq, -, hholds, hcap, hloss, heviction, hlarge, hfull⟩ :=
          storeApplyingPolicy_evicts h hfits hpolicy hle
        refine ⟨⟨b, .write policy data, .wrote (some (.kept true)),
          CircularBuffer.reportRunStarted (if b.evictionReported then .none else .evictions)⟩,
          after, q' ++ [data], ?_, rfl, rfl, hholds, hcap, ?_, ?_, hfull⟩
        · simp [perform, CircularBuffer.write, hsize, hstore, bind, Except.bind, pure, Except.pure]
        · change q ++ [data] = [] ++ b.evictedBy (headerBytes + data.length) ++ (q' ++ [data])
          conv_lhs => rw [hq]
          simp
        · have hothers : ∀ run ≠ LossRun.evictions, run.reportsIn (CircularBuffer.reportRunStarted
              (if b.evictionReported then .none else .evictions)) = 0 := by
            intro run hrun
            cases b.evictionReported <;> cases run <;> trivial
          have hown : LossRun.evictions.reportsIn (CircularBuffer.reportRunStarted
              (if b.evictionReported then .none else .evictions)) =
              if b.evictionReported then 0 else 1 := by
            cases b.evictionReported <;> rfl
          intro run
          cases run with
          | refusals => exact .of_ends rfl rfl (hothers _ (by decide)) hloss
          | evictions => exact .of_loses rfl hown heviction
          | tooSmallReads => exact .of_neither rfl rfl (hothers _ (by decide)) hlarge
      | false =>
        obtain ⟨after, hstore, hholds, hcap, hloss, heviction, hlarge, hfull⟩ :=
          storeApplyingPolicy_refuses h hfits hpolicy
        refine ⟨⟨b, .write policy data, .wrote (some .refused),
          CircularBuffer.reportRunStarted (if b.lossReported then .none else .refusals)⟩,
          after, q, ?_, rfl, rfl, hholds, hcap, by simp [Entry.kept, Entry.left, Entry.delivered,
            Entry.evicted], ?_, hfull⟩
        · simp [perform, CircularBuffer.write, hsize, hstore, bind, Except.bind, pure, Except.pure]
        · have hothers : ∀ run ≠ LossRun.refusals, run.reportsIn (CircularBuffer.reportRunStarted
              (if b.lossReported then .none else .refusals)) = 0 := by
            intro run hrun
            cases b.lossReported <;> cases run <;> trivial
          have hown : LossRun.refusals.reportsIn (CircularBuffer.reportRunStarted
              (if b.lossReported then .none else .refusals)) =
              if b.lossReported then 0 else 1 := by
            cases b.lossReported <;> rfl
          intro run
          cases run with
          | refusals => exact .of_loses rfl hown hloss
          | evictions => exact .of_ends rfl rfl (hothers _ (by decide)) heviction
          | tooSmallReads => exact .of_neither rfl rfl (hothers _ (by decide)) hlarge
  · refine ⟨⟨b, .write policy data, .wrote none,
      [CircularBuffer.reportRecordExceedsMaxMessageSize]⟩, b, q, ?_, rfl, rfl, h, rfl,
      by simp [Entry.kept, Entry.left, Entry.delivered, Entry.evicted], ?_, rfl⟩
    · simp [perform, CircularBuffer.write, hsize, bind, Except.bind, pure, Except.pure]
    · intro run
      cases run <;> exact .of_neither rfl rfl rfl rfl

theorem perform_read (h : HoldsQueue b q) (maxSize : Nat) :
    ∃ e after q', Performed T b q (.read maxSize) e after q' := by
  cases q with
  | nil =>
    refine ⟨⟨b, .read maxSize, .delivered none, []⟩, b, [], ?_, rfl, rfl, h, rfl, rfl, ?_, rfl⟩
    · simp [perform, read_empty h, bind, Except.bind, pure, Except.pure]
    · intro run
      have hempty : b.isEmpty = true := h.isEmpty_iff.2 rfl
      cases run with
      | refusals => exact .of_neither rfl rfl rfl rfl
      | evictions => exact .of_neither rfl rfl rfl rfl
      | tooSmallReads => exact .of_neither (by simp [LossRun.loses, hempty]) rfl rfl rfl
  | cons data q =>
    by_cases hsize : data.length ≤ maxSize
    · obtain ⟨after, hread, hholds, hcap, hloss, heviction, hlarge, hfull⟩ :=
        read_delivers h hsize
      refine ⟨⟨b, .read maxSize, .delivered (some data), []⟩, after, q, ?_, rfl, rfl, hholds,
        hcap, by simp [Entry.kept, Entry.left, Entry.delivered, Entry.evicted], ?_, hfull⟩
      · simp [perform, hread, bind, Except.bind, pure, Except.pure]
      · intro run
        cases run with
        | refusals => exact .of_neither rfl rfl rfl hloss
        | evictions => exact .of_neither rfl rfl rfl heviction
        | tooSmallReads => exact .of_ends rfl rfl rfl hlarge
    · obtain ⟨after, hread, hholds, hcap, hloss, heviction, hlarge, hfull⟩ :=
        read_too_small h (Nat.lt_of_not_le hsize)
      refine ⟨⟨b, .read maxSize, .delivered none,
        if b.tooLargeReported then [] else [CircularBuffer.reportRecordTooLarge]⟩, after,
        data :: q, ?_, rfl, rfl, hholds, hcap, by simp [Entry.kept, Entry.left, Entry.delivered,
          Entry.evicted], ?_, hfull⟩
      · simp [perform, hread, bind, Except.bind, pure, Except.pure]
      · have hothers : ∀ run ≠ LossRun.tooSmallReads, run.reportsIn
            (if b.tooLargeReported then [] else [CircularBuffer.reportRecordTooLarge]) = 0 := by
          intro run hrun
          cases b.tooLargeReported <;> cases run <;> trivial
        have hown : LossRun.tooSmallReads.reportsIn
            (if b.tooLargeReported then [] else [CircularBuffer.reportRecordTooLarge]) =
            if b.tooLargeReported then 0 else 1 := by
          cases b.tooLargeReported <;> rfl
        have hsome : b.isEmpty = false := by simpa using not_isEmpty h
        intro run
        cases run with
        | refusals => exact .of_neither rfl rfl (hothers _ (by decide)) hloss
        | evictions => exact .of_neither rfl rfl (hothers _ (by decide)) heviction
        | tooSmallReads => exact .of_loses (by simp [LossRun.loses, hsome]) hown hlarge

theorem performed (h : HoldsQueue b q) (op : Op) : ∃ e after q', Performed T b q op e after q' := by
  cases op with
  | write policy data => exact perform_write h policy data
  | read maxSize => exact perform_read h maxSize
  | isFull =>
    refine ⟨⟨b, .isFull, .full b.isFull, []⟩, b, q, rfl, rfl, rfl, h, rfl,
      by simp [Entry.kept, Entry.left, Entry.delivered, Entry.evicted], ?_, rfl⟩
    intro run
    cases run <;> exact .of_neither rfl rfl rfl rfl

theorem perform_step {op : Op} {e : Entry} {after : CircularBuffer}
    (h : perform T b op = .ok (e, after)) : Step T b op e.answer after := by
  cases op with
  | write policy data =>
    rw [perform] at h
    cases hwrite : b.write T policy data with
    | error fault => rw [hwrite] at h; cases h
    | ok result => rw [hwrite] at h; cases h; exact .write hwrite
  | read maxSize =>
    rw [perform] at h
    cases hread : b.read maxSize with
    | error fault => rw [hread] at h; cases h
    | ok result => rw [hread] at h; cases h; exact .read hread
  | isFull => cases h; exact .isFull b

/-- An operation answers as a FIFO allows, so a write within the message limit either keeps its
record or refuses it. -/
theorem Performed.allowed {op : Op} {e : Entry} {after : CircularBuffer} {q' : List Bytes}
    (hop : Performed T b q op e after q') (h : HoldsQueue b q) :
    ∃ q'', FifoStep T b.capacity q op e.answer q'' := by
  obtain ⟨answer, after', q'', hstep, hallowed, -⟩ := step_refines T h rfl op
  obtain ⟨rfl, rfl⟩ := step_deterministic hstep (perform_step hop.ran)
  exact ⟨q'', hallowed⟩

end Perform

/-- No write within the message limit is dropped without a word: it is kept, or it is one of a run
of refusals. -/
theorem kept_or_refused {T : Tunables} {capacity : Nat} {q q' : List Bytes} {e : Entry}
    {policy : DiscardPolicy} {data : Bytes} (hwrite : e.op = .write policy data)
    (hsize : data.length ≤ T.maxMessageSize) (h : FifoStep T capacity q e.op e.answer q') :
    e.kept = [data] ∨ LossRun.refusals.loses e = true := by
  obtain ⟨before, op, answer, reports⟩ := e
  dsimp only at hwrite h
  subst hwrite
  cases h with
  | write _ allowed =>
    cases allowed with
    | kept => exact .inl rfl
    | keptEvicting => exact .inl rfl
    | refused => exact .inr rfl
  | tooLong hlong => omega

/-! ## A run -/

/-- What a log accounts for: each operation answered as a FIFO allows, the records that left and
those queued are the records kept, each latch follows its runs, and the full flag follows the last
entry that settles it. -/
structure Accounted (T : Tunables) (capacity : Nat) (log : List Entry) (b : CircularBuffer)
    (q : List Bytes) : Prop where
  holds : HoldsQueue b q
  capacity_eq : b.capacity = capacity
  allowed : ∀ e ∈ log, ∃ q q', HoldsQueue e.before q ∧ FifoStep T capacity q e.op e.answer q'
  kept : log.flatMap Entry.kept = log.flatMap Entry.left ++ q
  latches : ∀ run, Latched run log b
  full : b.full = true ↔
    ∃ e, (log.filter Entry.settles).getLast? = some e ∧ e.fills capacity = true

theorem Accounted.step {T : Tunables} {capacity : Nat} {log : List Entry}
    {b after : CircularBuffer} {q q' : List Bytes} {op : Op} {e : Entry}
    (h : Accounted T capacity log b q) (hop : Performed T b q op e after q') :
    Accounted T capacity (log ++ [e]) after q' := by
  refine ⟨hop.holds, hop.capacity.trans h.capacity_eq, ?_, ?_, ?_, ?_⟩
  · intro e' he'
    rcases List.mem_append.1 he' with he' | he'
    · exact h.allowed e' he'
    · obtain rfl := List.mem_singleton.1 he'
      obtain ⟨q'', hallowed⟩ := hop.allowed h.holds
      rw [h.capacity_eq, ← hop.op_eq] at hallowed
      exact ⟨q, q'', hop.before ▸ h.holds, hallowed⟩
  · calc
      (log ++ [e]).flatMap Entry.kept = log.flatMap Entry.left ++ (q ++ e.kept) := by
        simp [h.kept]
      _ = log.flatMap Entry.left ++ (e.left ++ q') := by rw [hop.moved]
      _ = (log ++ [e]).flatMap Entry.left ++ q' := by simp
  · intro run
    refine Latched.step ?_ (hop.latches run)
    rw [hop.before]
    exact h.latches run
  · rw [hop.full, h.capacity_eq, List.filter_append]
    cases hsettles : e.settles with
    | true => simp [hsettles]
    | false => simpa [hsettles] using h.full

theorem performAll_accounted {T : Tunables} {capacity : Nat} {log : List Entry}
    {b : CircularBuffer} {q : List Bytes} (h : Accounted T capacity log b q) (ops : List Op) :
    ∃ more last q', performAll T b ops = .ok (more, last) ∧ more.map Entry.op = ops ∧
      Accounted T capacity (log ++ more) last q' := by
  induction ops generalizing log b q with
  | nil => exact ⟨[], b, q, rfl, rfl, by simpa using h⟩
  | cons op ops ih =>
    obtain ⟨e, after, q₁, hop⟩ := performed (T := T) h.holds op
    obtain ⟨more, last, q', hrun, hops, haccounted⟩ := ih (h.step hop)
    refine ⟨e :: more, last, q', ?_, ?_, by simpa using haccounted⟩
    · simp [performAll, hop.ran, hrun, bind, Except.bind, pure, Except.pure]
    · rw [List.map_cons, hop.op_eq, hops]

theorem initialise_accounted (T : Tunables) (ring : Bytes) :
    Accounted T ring.length [] (CircularBuffer.initialise ring) [] := by
  refine ⟨initialise_holds ring, rfl, List.forall_mem_nil _, rfl, fun run => ⟨trivial, ?_⟩, by
    simp [CircularBuffer.initialise, CircularBuffer.resetToStart]⟩
  cases run <;> rfl

/-- Two records of four bytes kept, two more refused in one run, a read that is too small twice
over, then a write under Oldest. -/
def crowding : List Op :=
  [.write .newest [1, 1, 1, 1], .write .newest [2, 2, 2, 2], .write .newest [3],
    .write .newest [4], .read 2, .read 2, .write .oldest [5, 5, 5]]

/-- What the log of a run shows: the records kept, those evicted, the reports of each kind and
whether the ring is full. -/
def shown (ran : Except Fault (List Entry × CircularBuffer)) :
    Option (List Bytes × List Bytes × List Nat × Bool) :=
  ran.toOption.map fun (log, b) =>
    (log.flatMap Entry.kept, log.flatMap Entry.evicted,
      [.refusals, .evictions, .tooSmallReads].map fun run : LossRun =>
        run.reportsIn (log.flatMap Entry.reports), b.isFull)

end SolidSyslog.Buffer
