import SolidSyslog.Store.Buffered.Operations
import SolidSyslog.Lib.Run

/-!
# No media push the record reader out of bounds

Over every run of the store with its buffer, from any media: nothing is written or given away beyond
the buffer, no span the policy sees is longer than it and no record handed out longer than the
caller's room or a message. Every read lies within the size known of its block as long as no write
starts over on the block being read; one that does leaves the old size behind.
-/

namespace SolidSyslog.Store.BufferedStore

open Lib

variable {σ : Type} {P : Platform σ} {C : Config} {G : Prop} {t t' : BufferedStore σ}

/-- What a read hands out is no longer than the caller's room and the longest message. -/
def AnswerFits (C : Config) : BlockStore.Op C → BlockStore.Answer → Prop
  | .readNextUnsent maxSize, .read (some bytes) =>
    bytes.length ≤ min maxSize C.tunables.maxMessageSize
  | _, _ => True

theorem perform_answerFits {s : BlockStore σ} (h : BlockStore.Kept P G C s) (fuel : Nat)
    (op : BlockStore.Op C) :
    Ensures (BlockStore.perform P fuel op) (fun answer _ => AnswerFits C op answer) s := by
  cases op with
  | readNextUnsent maxSize =>
    cases hfrozen : s.frozen with
    | true =>
      unfold Ensures
      rw [BlockStore.perform_of_frozen hfrozen]
      trivial
    | false =>
      unfold BlockStore.perform
      apply (BlockStore.readNextUnsent_kept (h.stands hfrozen) fuel maxSize).bind
      rintro outcome s' ⟨-, hanswer⟩
      cases outcome with
      | none => trivial
      | some bytes =>
        cases bytes with
        | none => trivial
        | some bytes => exact (hanswer _ rfl).within bytes rfl
  | _ => trivial

/-- The buffer is intact and the store within bounds. -/
structure Bounded (P : Platform σ) (G : Prop) (C : Config) (t : BufferedStore σ) : Prop where
  buffer : t.Intact C
  store : BlockStore.Kept P G C t.store

theorem created_bounded (hroomy : Roomy P C) (env : σ) {buffer : Bytes}
    (hbuffer : buffer.length = C.recordBufferSize) : Bounded P G C (created P C env buffer) := by
  have hmirrors : Mirrors store (Intact C) (create P C) (BlockStore.create P C)
      ⟨.initial ⟨env, []⟩, ⟨buffer, false⟩⟩ :=
    create_mirrors hroomy ⟨hbuffer, rfl⟩ rfl
  refine ⟨hmirrors.1, ?_⟩
  have hstore : (created P C env buffer).store = BlockStore.created P C env :=
    congrArg Prod.snd hmirrors.2
  rw [hstore]
  exact BlockStore.created_kept P C env

theorem step_bounded (hroomy : Roomy P C) (h : Bounded P G C t) {op : BlockStore.Op C}
    {answer : BlockStore.Answer} (hstep : Step P t op answer t')
    (hother : G → ¬ BlockStore.TakesReadBlock P t.store op) :
    Bounded P G C t' ∧ AnswerFits C op answer := by
  obtain ⟨fuel, hperform⟩ := hstep
  have hmirrors := perform_mirrors hroomy h.buffer h.store fuel op
  have hends := (hmirrors.ensures (perform_answerFits h.store fuel op)).and
    (hmirrors.ensures (BlockStore.perform_kept h.store fuel op hother))
  unfold Ensures at hends
  rw [hperform] at hends
  obtain ⟨⟨hintact, -, hfits⟩, -, -, hkept⟩ := hends
  exact ⟨⟨hintact, hkept⟩, hfits⟩

theorem run_bounded (hroomy : Roomy P C) {ops : List (BlockStore.Op C)}
    {answers : List BlockStore.Answer}
    (hrun : Run (fun t op answer t' => Step P t op answer t' ∧
      (G → ¬ BlockStore.TakesReadBlock P t.store op)) t ops answers t') (h : Bounded P G C t) :
    Bounded P G C t' ∧ List.Forall₂ (AnswerFits C) ops answers := by
  induction hrun with
  | nil => exact ⟨h, .nil⟩
  | cons first rest ih =>
    obtain ⟨h₁, hfits⟩ := step_bounded hroomy h first.1 first.2
    obtain ⟨h', hrest⟩ := ih h₁
    exact ⟨h', .cons hfits hrest⟩

/-- Where the sizes leave room for a record below the top of `size_t`, a run with sums that wrap is
one with sums of natural numbers: what holds of the runs of the block store holds of it. -/
theorem run_mirrors (hroomy : Roomy P C) (env : σ) {buffer : Bytes}
    (hbuffer : buffer.length = C.recordBufferSize) {ops : List (BlockStore.Op C)}
    {answers : List BlockStore.Answer}
    (hrun : Run (Step P) (created P C env buffer) ops answers t) :
    Run (BlockStore.Step P) (BlockStore.created P C env) ops answers t.store := by
  have hcreated : Mirrors store (Intact C) (create P C) (BlockStore.create P C)
      ⟨.initial ⟨env, []⟩, ⟨buffer, false⟩⟩ :=
    create_mirrors hroomy ⟨hbuffer, rfl⟩ rfl
  have hstart : (created P C env buffer).store = BlockStore.created P C env :=
    congrArg Prod.snd hcreated.2
  rw [← hstart]
  have hbounded := created_bounded (G := False) hroomy env hbuffer
  generalize created P C env buffer = t₀ at hrun hbounded
  induction hrun with
  | nil t => exact .nil t.store
  | cons first rest ih =>
    obtain ⟨h₁, -⟩ := step_bounded hroomy hbounded first False.elim
    obtain ⟨fuel, hperform⟩ := first
    obtain ⟨-, hsame⟩ := perform_mirrors hroomy hbounded.buffer hbounded.store fuel _
    rw [hperform] at hsame
    exact .cons ⟨fuel, hsame.symm⟩ (ih h₁)

/-- Whatever a run does, the buffer is never overrun, the spans shown to the policy fit into it and
what is handed out fits. -/
theorem buffer_never_overrun (hroomy : Roomy P C) (env : σ) {buffer : Bytes}
    (hbuffer : buffer.length = C.recordBufferSize) {ops : List (BlockStore.Op C)}
    {answers : List BlockStore.Answer}
    (hrun : Run (Step P) (created P C env buffer) ops answers t) :
    t.buffer.overrun = false ∧ Always (WithinBounds P False C) t.store.world.trace ∧
      List.Forall₂ (AnswerFits C) ops answers := by
  obtain ⟨h, hfits⟩ := run_bounded hroomy (hrun.mono fun hstep => ⟨hstep, False.elim⟩)
    (created_bounded hroomy env hbuffer)
  exact ⟨h.buffer.overrun, h.store.calls, hfits⟩

/-- From any media, with any answers of the device and the policies, in every run of calls of which
none starts a new block on the number of the block being read: every read of the device lies within
the size known of its block, every span the policy sees fits into the record buffer, nothing beyond
it is written or given away, and what is handed out fits. -/
theorem media_never_out_of_bounds (hroomy : Roomy P C) (env : σ) {buffer : Bytes}
    (hbuffer : buffer.length = C.recordBufferSize) {ops : List (BlockStore.Op C)}
    {answers : List BlockStore.Answer}
    (hrun : Run (fun t op answer t' => Step P t op answer t' ∧
      ¬ BlockStore.TakesReadBlock P t.store op) (created P C env buffer) ops answers t) :
    Always (WithinBounds P True C) t.store.world.trace ∧ t.buffer.overrun = false ∧
      List.Forall₂ (AnswerFits C) ops answers := by
  obtain ⟨h, hfits⟩ := run_bounded hroomy (hrun.mono fun hstep => ⟨hstep.1, fun _ => hstep.2⟩)
    (created_bounded hroomy env hbuffer)
  exact ⟨h.store.calls, h.buffer.overrun, hfits⟩

/-- A device in memory that gives no size beyond that of its blocks. -/
def cappedDevice : Platform Media where
  answer
    | .size block, m =>
      ((m block).bind fun content => if content.length ≤ 69 then some content.length else none, m)
    | request, m => (ramDevice .oldest).answer request m

theorem cappedDevice_roomy : Roomy cappedDevice .small := by
  refine ⟨?_, by unfold Config.Addressable; decide⟩
  rintro size ⟨block, m, hsize⟩
  have hle : size ≤ 69 := by
    change ((m block).bind _) = some size at hsize
    cases hcontent : m block with
    | none => simp [hcontent] at hsize
    | some content =>
      rw [hcontent, Option.bind_some] at hsize
      split at hsize
      · next hfits =>
        cases hsize
        exact hfits
      · cases hsize
  have hroom : Config.small.Addressable 69 := by
    unfold Config.Addressable
    decide
  exact hroom.of_le hle

/-- A block cut short and one with a record. -/
def tornFirst : Media :=
  fun block => if block = 0 then some [0xA5]
    else if block = 1 then some [0xA5, 0x5A, 1, 0, 65, 0xFF] else none

theorem media_never_out_of_bounds_torn :
    Always (WithinBounds cappedDevice True .small)
      (created cappedDevice .small tornFirst (List.replicate 73 0)).store.world.trace ∧
    (created cappedDevice .small tornFirst (List.replicate 73 0)).buffer.overrun =
      false := by
  have h := media_never_out_of_bounds cappedDevice_roomy tornFirst
    (show (List.replicate 73 (0 : UInt8)).length = Config.small.recordBufferSize by decide)
    (.nil _)
  exact ⟨h.1, h.2.1⟩

/-! ## A read beyond a block

All numbers are taken, each block by one record of the greatest length. A write starts over on the
block being read and leaves the size known of it behind; the next one moves on, and the reads that
follow go on to where the block once ended. -/

/-- Whether every read of a trace lies within the sizes known. -/
def readsWithin (known : Sequence → Option Nat) : List Event → Bool
  | [] => true
  | event :: rest =>
    (match event with
      | .call (.read block offset count) _ => (known block).any fun size => offset + count ≤ size
      | _ => true) && readsWithin (event.learn known) rest

theorem readsWithin_of_always (before : List Event) {after : List Event}
    (h : Always (WithinBounds P True C) (before ++ after)) :
    readsWithin (sizesKnown before) after = true := by
  induction after generalizing before with
  | nil => rfl
  | cons event rest ih =>
    unfold readsWithin
    rw [Bool.and_eq_true]
    constructor
    · have hevent := h before event rest rfl
      split
      · obtain ⟨size, hsize, hfits⟩ := hevent trivial
        simpa [hsize] using hfits
      · rfl
    · rw [← sizesKnown_concat]
      apply ih
      simpa using h

/-- A block of one record of the greatest length. -/
def everyBlockFull : Media :=
  fun _ => some ([0xA5, 0x5A, 64, 0] ++ List.replicate 64 65 ++ [0xFF])

/-- A write that starts over on the block being read, one that moves on, and the reads that
follow. -/
def startOverThenRead : List (BlockStore.Op .small) :=
  [.write ⟨[66], by decide⟩, .write ⟨List.replicate 64 67, by decide⟩,
    .readNextUnsent 64, .markSent, .readNextUnsent 64]

/-- The calls of a list, one after the other. -/
def performAll (P : Platform σ) (fuel : Nat) :
    List (BlockStore.Op C) → Action σ (List BlockStore.Answer)
  | [] => return []
  | op :: ops => do
    let answer ← perform P fuel op
    let answers ← performAll P fuel ops
    return answer :: answers

theorem run_performAll (P : Platform σ) (fuel : Nat) (ops : List (BlockStore.Op C))
    (t : BufferedStore σ) :
    Run (Step P) t ops (performAll P fuel ops t).1 (performAll P fuel ops t).2 := by
  induction ops generalizing t with
  | nil => exact .nil t
  | cons op ops ih => exact .cons ⟨fuel, rfl⟩ (ih (perform P fuel op t).2)

theorem read_beyond_block_started_over : ∃ answers t,
    Run (Step cappedDevice) (created cappedDevice .small everyBlockFull (List.replicate 73 0))
      startOverThenRead answers t ∧
    ¬ Always (WithinBounds cappedDevice True .small) t.store.world.trace := by
  refine ⟨_, _, run_performAll cappedDevice 3 startOverThenRead _, fun halways => ?_⟩
  have hbeyond : readsWithin (fun _ => none) (performAll cappedDevice 3 startOverThenRead
      (created cappedDevice .small everyBlockFull
        (List.replicate 73 0))).2.store.world.trace = false := by
    decide +kernel
  have hwithin := readsWithin_of_always [] halways
  exact Bool.false_ne_true (hbeyond.symm.trans hwithin)

end SolidSyslog.Store.BufferedStore
