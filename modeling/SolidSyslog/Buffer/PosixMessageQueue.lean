import SolidSyslog.Basic
import SolidSyslog.Lib.Run
import SolidSyslog.Lib.Trace

/-!
# The buffer on a POSIX message queue

`SolidSyslogPosixMessageQueueBuffer.c`. The kernel's queue is a bounded FIFO. A write happens at
once, under the mutex; a read takes a record from the kernel first and notes under the mutex
afterwards that it did, so that writes can come between.
-/

namespace SolidSyslog.Buffer.MessageQueue

open Lib

/-! ## The kernel's queue -/

/-- `struct mq_attr`, as `Initialise` fills it in: `mq_maxmsg`, and
`SOLIDSYSLOG_MAX_MESSAGE_SIZE`. -/
structure Attributes where
  maxMessages : Nat
  room : 0 < maxMessages
  messageSize : Nat

/-- What the kernel leaves in `errno`. -/
inductive Errno where
  | eagain
  | emsgsize
  deriving DecidableEq, Repr

/-- `mq_send`, of a queue that does not block. -/
def mqSend (A : Attributes) (queue : List Bytes) (data : Bytes) : Except Errno (List Bytes) :=
  if data.length ≤ A.messageSize then
    if queue.length < A.maxMessages then .ok (queue ++ [data]) else .error .eagain
  else .error .emsgsize

/-- `mq_receive`, of a queue that does not block. -/
def mqReceive (A : Attributes) (queue : List Bytes) (maxSize : Nat) :
    Except Errno (Bytes × List Bytes) :=
  if A.messageSize ≤ maxSize then
    match queue with
    | [] => .error .eagain
    | head :: rest => .ok (head, rest)
  else .error .emsgsize

/-! ## The buffer -/

/-- The codes of `enum SolidSyslogPosixMessageQueueBufferErrors` raised by `Read` and `Write`. -/
inductive ErrorCode where
  | sendFailed
  | receiveFailed
  | recordRefused
  | recordsEvicted
  deriving DecidableEq, Repr

/-- The categories those codes are raised under. -/
inductive Category where
  | recordsLost
  | backendFailed
  deriving DecidableEq, Repr

/-- One call of `PosixMessageQueueBuffer_Report`. -/
structure Report where
  severity : Severity
  category : Category
  code : ErrorCode
  deriving DecidableEq, Repr

/-- `enum SolidSyslogPosixMessageQueueBufferRunStarted`. -/
inductive RunStarted where
  | none
  | refusals
  | failures
  deriving DecidableEq, Repr

/-- `struct SolidSyslogPosixMessageQueueBuffer`, less the vtable, the mutex and the policy, with the
kernel's queue behind its descriptor. -/
structure PosixMessageQueueBuffer where
  queue : List Bytes
  refusalReported : Bool
  failureReported : Bool
  evictionReported : Bool
  receiveFailureReported : Bool
  full : Bool
  deriving DecidableEq, Repr

/-- What became of a record: the `errno` its last send left, if it was not sent, and whether another
was evicted for it. -/
structure SendOutcome where
  sendErrno : Option Errno
  evicted : Bool
  deriving DecidableEq, Repr

namespace PosixMessageQueueBuffer

variable (A : Attributes)

/-- `SolidSyslogPosixMessageQueueBuffer_Initialise`, where the queue could be opened. -/
def initialise : PosixMessageQueueBuffer :=
  ⟨[], false, false, false, false, false⟩

/-- `PosixMessageQueueBuffer_Send`. -/
def send (self : PosixMessageQueueBuffer) (data : Bytes) : Option Errno × PosixMessageQueueBuffer :=
  match mqSend A self.queue data with
  | .ok queue => (none, { self with queue := queue })
  | .error sendErrno => (some sendErrno, self)

/-- `PosixMessageQueueBuffer_EvictOne`. -/
def evictOne (self : PosixMessageQueueBuffer) : Bool × PosixMessageQueueBuffer :=
  match mqReceive A self.queue A.messageSize with
  | .ok (_, queue) => (true, { self with queue := queue })
  | .error _ => (false, self)

/-- `PosixMessageQueueBuffer_NoteEvicted`. -/
def noteEvicted (self : PosixMessageQueueBuffer) (evicted : Bool) :
    Bool × PosixMessageQueueBuffer :=
  (evicted && !self.evictionReported, { self with evictionReported := evicted })

/-- The sends of `PosixMessageQueueBuffer_SendNotingRuns`, with the eviction between them. -/
def sendMakingRoom (self : PosixMessageQueueBuffer) (policy : DiscardPolicy) (data : Bytes) :
    SendOutcome × PosixMessageQueueBuffer :=
  let (sendErrno, after) := self.send A data
  if sendErrno = some .eagain ∧ policy = .oldest then
    let (evicted, after) := after.evictOne A
    if evicted then
      let (sendErrno, after) := after.send A data
      (⟨sendErrno, true⟩, after)
    else (⟨sendErrno, false⟩, after)
  else (⟨sendErrno, false⟩, after)

/-- What `PosixMessageQueueBuffer_SendNotingRuns` makes of how its sends went. -/
def noteSent (self : PosixMessageQueueBuffer) (outcome : SendOutcome) :
    RunStarted × PosixMessageQueueBuffer :=
  match outcome.sendErrno with
  | none =>
    (.none,
      { self with refusalReported := false, failureReported := false, full := outcome.evicted })
  | some .eagain =>
    (if self.refusalReported then .none else .refusals,
      { self with refusalReported := true, full := true })
  | some .emsgsize =>
    (if self.failureReported then .none else .failures,
      { self with failureReported := true, full := self.full || outcome.evicted })

/-- `PosixMessageQueueBuffer_ReportRecordsEvicted`. -/
def reportRecordsEvicted : Report :=
  ⟨.warning, .recordsLost, .recordsEvicted⟩

/-- `PosixMessageQueueBuffer_ReportRunStarted`. -/
def reportRunStarted : RunStarted → List Report
  | .refusals => [⟨.warning, .recordsLost, .recordRefused⟩]
  | .failures => [⟨.error, .backendFailed, .sendFailed⟩]
  | .none => []

/-- `PosixMessageQueueBuffer_Write`, with what the policy answered. -/
def write (self : PosixMessageQueueBuffer) (policy : DiscardPolicy) (data : Bytes) :
    SendOutcome × List Report × PosixMessageQueueBuffer :=
  let (outcome, after) := self.sendMakingRoom A policy data
  let (evictionRunStarted, after) := after.noteEvicted outcome.evicted
  let (started, after) := after.noteSent outcome
  (outcome, (if evictionRunStarted then [reportRecordsEvicted] else []) ++ reportRunStarted started,
    after)

/-- `PosixMessageQueueBuffer_NoteReceiveFailed`. -/
def noteReceiveFailed (self : PosixMessageQueueBuffer) : List Report × PosixMessageQueueBuffer :=
  (if self.receiveFailureReported then [] else [⟨.error, .backendFailed, .receiveFailed⟩],
    { self with receiveFailureReported := true })

/-- `PosixMessageQueueBuffer_NoteRecordTaken`. -/
def noteRecordTaken (self : PosixMessageQueueBuffer) : PosixMessageQueueBuffer :=
  { self with full := false }

/-- `PosixMessageQueueBuffer_IsFull`. -/
def isFull (self : PosixMessageQueueBuffer) : Bool :=
  self.full

end PosixMessageQueueBuffer

/-! ## The two sides -/

/-- The buffer, and the record of a read that has taken it and not noted so yet. -/
structure State where
  buffer : PosixMessageQueueBuffer
  reader : Option Bytes
  deriving DecidableEq, Repr

/-- A write of any task, or one of the two steps of a read. -/
inductive Move where
  | write (policy : DiscardPolicy) (data : Bytes)
  | receive (maxSize : Nat)
  | noteRecordTaken
  deriving DecidableEq, Repr

/-- What a move came to. -/
inductive Answer where
  | wrote (outcome : SendOutcome) (reports : List Report)
  | received
  | empty
  | receiveFailed (reports : List Report)
  | delivered (data : Bytes)
  deriving DecidableEq, Repr

def State.initial : State :=
  ⟨.initialise, none⟩

/-- One move. The Service task reads one record after another. -/
def perform (A : Attributes) (s : State) : Move → Option (Answer × State)
  | .write policy data =>
    let (outcome, reports, after) := s.buffer.write A policy data
    some (.wrote outcome reports, { s with buffer := after })
  | .receive maxSize =>
    match s.reader with
    | some _ => none
    | none =>
      match mqReceive A s.buffer.queue maxSize with
      | .ok (data, queue) =>
        some (.received,
          ⟨{ s.buffer with queue := queue, receiveFailureReported := false }, some data⟩)
      | .error .eagain => some (.empty, s)
      | .error .emsgsize =>
        let (reports, after) := s.buffer.noteReceiveFailed
        some (.receiveFailed reports, { s with buffer := after })
  | .noteRecordTaken =>
    match s.reader with
    | some data => some (.delivered data, ⟨s.buffer.noteRecordTaken, none⟩)
    | none => none

def Step (A : Attributes) (s : State) (move : Move) (answer : Answer) (s' : State) : Prop :=
  perform A s move = some (answer, s')

/-! ## When the queue is full -/

/-- A write evicted a record, or was refused for lack of room. -/
def Answer.FoundNoRoom : Answer → Prop
  | .wrote outcome _ => outcome.evicted = true ∨ outcome.sendErrno = some .eagain
  | _ => False

/-- A record was received, or a write kept its own without evicting another. -/
def Answer.FoundRoom : Answer → Prop
  | .wrote outcome _ => outcome.evicted = false ∧ outcome.sendErrno = none
  | .received => True
  | _ => False

/-- A write found no room, and since the last that did nothing was received and no write was kept
without evicting. -/
def Outrun (answers : List Answer) : Prop :=
  Pending Answer.FoundNoRoom Answer.FoundRoom answers

/-- The buffer is full after each part of a run that ends between two reads exactly where the queue
was outrun in it. -/
def TellsWhenOutrun (A : Attributes) (moves : List Move) (answers : List Answer) : Prop :=
  ∀ k s, Run (Step A) .initial (moves.take k) (answers.take k) s → s.reader = none →
    (s.buffer.isFull = true ↔ Outrun (answers.take k))

/-- Between the two steps of some read the queue was outrun by what was written there. -/
def ReadOvertaken (answers : List Answer) : Prop :=
  ∃ before between data after,
    answers = before ++ .received :: (between ++ .delivered data :: after) ∧
      (∀ answer ∈ between, ∀ data, answer ≠ .delivered data) ∧ Outrun between

variable {A : Attributes} {s s' : State} {move : Move} {answer : Answer}
  {answers past : List Answer}

section

variable (self : PosixMessageQueueBuffer) (data : Bytes)

@[simp] theorem send_full : (self.send A data).2.full = self.full := by
  unfold PosixMessageQueueBuffer.send
  cases mqSend A self.queue data <;> rfl

@[simp] theorem evictOne_full : (self.evictOne A).2.full = self.full := by
  unfold PosixMessageQueueBuffer.evictOne
  cases mqReceive A self.queue A.messageSize <;> rfl

@[simp] theorem sendMakingRoom_full (policy : DiscardPolicy) :
    (self.sendMakingRoom A policy data).2.full = self.full := by
  unfold PosixMessageQueueBuffer.sendMakingRoom
  dsimp only
  split_ifs <;> simp

theorem noteSent_full (outcome : SendOutcome) (reports : List Report) :
    (self.noteSent outcome).2.full = true ↔ (Answer.wrote outcome reports).FoundNoRoom ∨
      self.full = true ∧ ¬ (Answer.wrote outcome reports).FoundRoom := by
  obtain ⟨sendErrno, evicted⟩ := outcome
  unfold PosixMessageQueueBuffer.noteSent Answer.FoundNoRoom Answer.FoundRoom
  match sendErrno with
  | none => cases evicted <;> simp
  | some .eagain => simp
  | some .emsgsize => cases evicted <;> simp

end

/-- What a write makes of the flag, whatever its sends came to. -/
theorem write_full (self : PosixMessageQueueBuffer) (policy : DiscardPolicy) (data : Bytes) :
    (self.write A policy data).2.2.full = true ↔
      (Answer.wrote (self.write A policy data).1 (self.write A policy data).2.1).FoundNoRoom ∨
        self.full = true ∧
          ¬ (Answer.wrote (self.write A policy data).1
            (self.write A policy data).2.1).FoundRoom := by
  have hbefore : ((self.sendMakingRoom A policy data).2.noteEvicted
      (self.sendMakingRoom A policy data).1.evicted).2.full = self.full :=
    sendMakingRoom_full self data policy
  rw [← hbefore]
  exact noteSent_full _ _ _

/-- What each move does to the reader and to the flag. -/
theorem step_cases (h : Step A s move answer s') :
    (answer ≠ .received ∧ (∀ data, answer ≠ .delivered data) ∧ s'.reader = s.reader ∧
      (s'.buffer.full = true ↔
        answer.FoundNoRoom ∨ s.buffer.full = true ∧ ¬ answer.FoundRoom)) ∨
    (answer = .received ∧ s.reader = none ∧ s'.reader ≠ none) ∨
    (∃ data, answer = .delivered data ∧ s.reader = some data ∧ s'.reader = none ∧
      s'.buffer.full = false) := by
  unfold Step perform at h
  cases move with
  | write policy data =>
    obtain ⟨rfl, rfl⟩ : _ = answer ∧ _ = s' := by simpa using h
    exact .inl ⟨nofun, nofun, rfl, write_full s.buffer policy data⟩
  | receive maxSize =>
    cases hreader : s.reader with
    | some data => simp [hreader] at h
    | none =>
      simp only [hreader] at h
      match hreceived : mqReceive A s.buffer.queue maxSize with
      | .ok (data, queue) =>
        simp only [hreceived, Option.some.injEq, Prod.mk.injEq] at h
        obtain ⟨rfl, rfl⟩ := h
        exact .inr (.inl ⟨rfl, rfl, nofun⟩)
      | .error .eagain =>
        simp only [hreceived, Option.some.injEq, Prod.mk.injEq] at h
        obtain ⟨rfl, rfl⟩ := h
        exact .inl ⟨nofun, nofun, hreader, by simp [Answer.FoundNoRoom, Answer.FoundRoom]⟩
      | .error .emsgsize =>
        simp only [hreceived, Option.some.injEq, Prod.mk.injEq] at h
        obtain ⟨rfl, rfl⟩ := h
        refine .inl ⟨nofun, nofun, rfl, ?_⟩
        simp [Answer.FoundNoRoom, Answer.FoundRoom, PosixMessageQueueBuffer.noteReceiveFailed]
  | noteRecordTaken =>
    cases hreader : s.reader with
    | none => simp [hreader] at h
    | some data =>
      simp only [hreader, Option.some.injEq, Prod.mk.injEq] at h
      obtain ⟨rfl, rfl⟩ := h
      exact .inr (.inr ⟨data, rfl, rfl, rfl, rfl⟩)

/-- What a run knows of a state: between two reads the flag, while a read is under way where it
was. -/
def Knows (s : State) (past : List Answer) : Prop :=
  ¬ ReadOvertaken past →
    match s.reader with
    | none => s.buffer.full = true ↔ Outrun past
    | some _ => ∃ before between, past = before ++ .received :: between ∧
        ∀ answer ∈ between, answer ≠ .received ∧ ∀ data, answer ≠ .delivered data

theorem outrun_concat : Outrun (past ++ [answer]) ↔
    answer.FoundNoRoom ∨ Outrun past ∧ ¬ answer.FoundRoom :=
  Pending.concat_iff

/-- What was written before a record was received does not count any more. -/
theorem outrun_received {before between : List Answer} :
    Outrun (before ++ .received :: between) ↔ Outrun between :=
  Pending.append_iff trivial id

theorem ReadOvertaken.append (h : ReadOvertaken past) (more : List Answer) :
    ReadOvertaken (past ++ more) := by
  obtain ⟨before, between, data, after, rfl, hwrites, houtrun⟩ := h
  exact ⟨before, between, data, after ++ more, by simp, hwrites, houtrun⟩

theorem Knows.step (h : Knows s past) (hstep : Step A s move answer s') :
    Knows s' (past ++ [answer]) := by
  intro hkept
  have hbefore := h fun hovertaken => hkept (hovertaken.append _)
  rcases step_cases hstep with ⟨hreceived, hdelivered, hreader, hfull⟩ | ⟨rfl, hidle, hbusy⟩ |
    ⟨data, rfl, hbusy, hidle, hfull⟩
  · rw [hreader]
    cases hreads : s.reader with
    | none =>
      rw [hreads] at hbefore
      dsimp only at hbefore ⊢
      rw [hfull, hbefore, outrun_concat]
    | some data =>
      rw [hreads] at hbefore
      obtain ⟨before, between, rfl, hbetween⟩ := hbefore
      refine ⟨before, between ++ [answer], by simp, ?_⟩
      intro a ha
      rcases List.mem_append.1 ha with ha | ha
      · exact hbetween a ha
      · rw [List.mem_singleton.1 ha]
        exact ⟨hreceived, hdelivered⟩
  · cases hreads : s'.reader with
    | none => exact absurd hreads hbusy
    | some data => exact ⟨past, [], rfl, nofun⟩
  · rw [hbusy] at hbefore
    obtain ⟨before, between, rfl, hbetween⟩ := hbefore
    have hnot : ¬ Outrun between := fun houtrun =>
      hkept ⟨before, between, data, [], by simp, fun a ha => (hbetween a ha).2, houtrun⟩
    rw [hidle]
    dsimp only
    rw [hfull, outrun_concat, outrun_received]
    exact ⟨nofun, fun h => h.elim False.elim fun h => absurd h.1 hnot⟩

/-- `SolidSyslogPosixMessageQueueBuffer` is full between two reads exactly where its queue was
outrun, as long as no read is overtaken between its steps, and in no other run. -/
theorem tellsWhenOutrun_iff {moves : List Move} (hrun : Run (Step A) .initial moves answers s) :
    TellsWhenOutrun A moves answers ↔ ¬ ReadOvertaken answers := by
  constructor
  · -- right behind the read that was overtaken the flag is down
    rintro htells ⟨before, between, data, after, rfl, -, houtrun⟩
    have hcut : before ++ Answer.received :: (between ++ Answer.delivered data :: after) =
        (before ++ .received :: between ++ [.delivered data]) ++ after := by simp
    rw [hcut] at hrun htells
    obtain ⟨s₁, hfront, -⟩ := hrun.split
    have htold := htells (before ++ Answer.received :: between ++ [Answer.delivered data]).length s₁
    rw [List.take_left] at htold
    obtain ⟨s₀, move, hlast⟩ := hfront.last
    rcases step_cases hlast with ⟨-, hdelivered, -⟩ | ⟨heq, -⟩ | ⟨_, -, -, hidle, hfull⟩
    · exact absurd rfl (hdelivered data)
    · cases heq
    · have hup := (htold hfront hidle).2
        (outrun_concat.2 (.inr ⟨outrun_received.2 houtrun, id⟩))
      rw [PosixMessageQueueBuffer.isFull, hfull] at hup
      cases hup
  · intro hkept k s₁ hrun₁ hidle
    have hstart : Knows .initial [] := fun _ => ⟨nofun, fun h => absurd h Pending.not_nil⟩
    have hknows := hrun₁.history hstart Knows.step
    rw [List.nil_append] at hknows
    have hnever : ¬ ReadOvertaken (answers.take k) := by
      intro hovertaken
      have hwhole := hovertaken.append (answers.drop k)
      rw [List.take_append_drop] at hwhole
      exact hkept hwhole
    have htold := hknows hnever
    rwa [hidle] at htold

/-- A queue for one record: a write fills it, one is refused, and a read finds the record of the
first; then it is filled and outrun again. -/
def outrunTwice : List Move :=
  [.write .newest [0x61], .write .newest [0x62], .receive 8, .noteRecordTaken,
    .write .newest [0x63], .write .oldest [0x64]]

def outrunTwiceAnswers : List Answer :=
  [.wrote ⟨none, false⟩ [], .wrote ⟨some .eagain, false⟩ [⟨.warning, .recordsLost, .recordRefused⟩],
    .received, .delivered [0x61], .wrote ⟨none, false⟩ [],
    .wrote ⟨none, true⟩ [⟨.warning, .recordsLost, .recordsEvicted⟩]]

theorem tellsWhenOutrun_outrunTwice : ∃ s,
    Run (Step ⟨1, Nat.one_pos, 8⟩) .initial outrunTwice outrunTwiceAnswers s ∧
      TellsWhenOutrun ⟨1, Nat.one_pos, 8⟩ outrunTwice outrunTwiceAnswers ∧
      Outrun outrunTwiceAnswers ∧ s.buffer.isFull = true := by
  have hrun : Run (Step ⟨1, Nat.one_pos, 8⟩) .initial outrunTwice outrunTwiceAnswers _ :=
    .cons rfl (.cons rfl (.cons rfl (.cons rfl (.cons rfl (.cons rfl (.nil _))))))
  have hkept : ¬ ReadOvertaken outrunTwiceAnswers := by
    rintro ⟨before, between, data, after, heq, hwrites, houtrun⟩
    have hcut : outrunTwiceAnswers.take 2 ++ .received :: outrunTwiceAnswers.drop 3 =
        before ++ .received :: (between ++ .delivered data :: after) := heq
    obtain ⟨-, -, hrest⟩ := (List.append_cons_inj_of_notMem (by decide) (by decide)).1 hcut
    cases between with
    | nil => exact Pending.not_nil houtrun
    | cons answer between =>
      obtain rfl := (List.cons.inj hrest).1
      exact hwrites _ List.mem_cons_self _ rfl
  have htells := (tellsWhenOutrun_iff hrun).2 hkept
  exact ⟨_, hrun, htells, (htells 6 _ hrun rfl).1 rfl, rfl⟩
/-- A queue for one record: while a read has taken the first and not noted so, the second is kept
and the third refused. -/
def overtaken : List Move :=
  [.write .newest [0x61], .receive 8, .write .newest [0x62], .write .newest [0x63],
    .noteRecordTaken]

/-- The queue was outrun, and nothing was received or kept since; the flag is down. -/
theorem overtaken_not_full : ∃ answers s,
    Run (Step ⟨1, Nat.one_pos, 8⟩) .initial overtaken answers s ∧ s.reader = none ∧ Outrun answers ∧
      s.buffer.isFull = false := by
  have hrun : Run (Step ⟨1, Nat.one_pos, 8⟩) .initial overtaken
      [.wrote ⟨none, false⟩ [], .received, .wrote ⟨none, false⟩ [],
        .wrote ⟨some .eagain, false⟩ [⟨.warning, .recordsLost, .recordRefused⟩], .delivered [0x61]]
          _ :=
    .cons rfl (.cons rfl (.cons rfl (.cons rfl (.cons rfl (.nil _)))))
  refine ⟨_, _, hrun, rfl, ?_, rfl⟩
  exact ⟨[_, _, _], _, [_], rfl, .inr rfl, by simp [Answer.FoundRoom]⟩

end SolidSyslog.Buffer.MessageQueue
