import SolidSyslog.Buffer.Fifo
import SolidSyslog.Sender.SwitchedDelivery
import SolidSyslog.Service.Parametric
import SolidSyslog.Service.Pipeline
import SolidSyslog.Store.Queue

/-!
# The logger put together

A logger whose buffer is the ring, whose store is the block store and whose sender is the one over a
stream. `Assembly.call` is what a call of a pass runs in them, over plain bytes. Other tasks write
the ring before any call, and what the callbacks, the resolver and the stream answer is open.

Beside the parts stands an account of every record, the `Pipeline`, from which what the ring, the
store and the wire hold is read off. Each write of another task and each call of a pass moves the
parts as the account may move there, and says why it lost what it lost.
-/

namespace SolidSyslog.Service

open Lib Buffer Store Sender

variable {σ : Type}

/-! ## The parts -/

/-- The ring, the store and the sender of one logger, the records the ring has kept, and how many
calls its passes have made. -/
structure Assembly (σ : Type) where
  ring : CircularBuffer
  store : BlockStore σ
  sender : StreamSender
  written : List Bytes
  calls : Nat

/-- What other tasks write before a call, the events they raise, and what the integrator's
callbacks, the resolver and the stream answer in it. -/
structure Outside where
  writes : List (DiscardPolicy × Bytes)
  raise : PendingEvents.Table → PendingEvents.Table
  policy : DiscardPolicy
  isEventReportingOn : Bool
  report : Bytes
  stream : SendAnswers

namespace Assembly

/-- A record the ring keeps. -/
def keptRecord (data : Bytes) : Option WriteOutcome → List Bytes
  | some (.kept _) => [data]
  | _ => []

/-- `SolidSyslogBuffer_Write` by another task. -/
def write (T : Tunables) (a : Assembly σ) (policy : DiscardPolicy) (data : Bytes) : Assembly σ :=
  match a.ring.write T policy data with
  | .ok (outcome, _, ring) =>
      { a with ring := ring, written := a.written ++ keptRecord data outcome }
  | .error _ => a

def writeAll (T : Tunables) (a : Assembly σ) (writes : List (DiscardPolicy × Bytes)) : Assembly σ :=
  writes.foldl (fun a w => a.write T w.1 w.2) a

/-- `SolidSyslogBuffer_Read`. -/
def bufferRead (a : Assembly σ) (maxSize : Nat) : Option Bytes × Assembly σ :=
  match a.ring.read maxSize with
  | .ok (data, _, ring) => (data, { a with ring := ring })
  | .error _ => (none, a)

variable (P : Platform σ) (C : Config)

/-- What a call of a pass runs. Each turn of the store's read leaves a block, so as many turns as
there are numbers are enough. -/
def call (o : Outside) : (request : Request Bytes) → Assembly σ → request.Answer × Assembly σ
  | .bufferRead maxSize, a => a.bufferRead maxSize
  | .bufferIsFull, a => (a.ring.isFull, a)
  | .storeWrite record, a =>
    let (result, store) := BlockStore.write P C record a.store
    (result, { a with store := store })
  | .storeReadNextUnsent maxSize, a =>
    let (outcome, store) := BlockStore.readNextUnsent P C (modulus + 1) maxSize a.store
    (outcome.join, { a with store := store })
  | .storeMarkSent, a => ((), { a with store := (BlockStore.markSent P C a.store).2 })
  | .storeHasUnsent, a => (a.store.hasUnsent, a)
  | .storeIsTransient, a => (a.store.isTransient, a)
  | .senderSend record, a =>
    let (delivered, sender) := a.sender.send record o.stream
    (delivered, { a with sender := sender })
  | .getDiscardPolicy, a => (o.policy, a)
  | .isEventReportingOn, a => (o.isEventReportingOn, a)
  | .onHalt, a => ((), a)
  | .errorHandler _, a => ((), a)
  | .formatReport capacity _, a => (o.report.take capacity, a)

/-- What other tasks do before a call. -/
def before (o : Outside) (a : Assembly σ) : Assembly σ :=
  { a.writeAll C.tunables o.writes with calls := a.calls + 1 }

end Assembly

/-- The parts of the logger, with what is outside at each call. -/
def assembled (P : Platform σ) (C : Config) (outside : Nat → Outside) :
    Parts (Assembly σ) Bytes where
  answer request a table :=
    let o := outside a.calls
    let outcome := Assembly.call P C o request (a.before C o)
    (outcome.1, outcome.2, o.raise table)

/-! ## The account of the parts -/

/-- A record no longer than a message may be. -/
def FitsSlot (C : Config) (r : Item) : Prop :=
  r.bytes.length ≤ C.tunables.maxMessageSize

/-- Records with their places, the oldest first. -/
def numbered (records : List Bytes) : List Item :=
  records.zipIdx.map fun record => ⟨record.1, some record.2⟩

theorem numbered_append_toList (records : List Bytes) (kept : Option Bytes) :
    numbered (records ++ kept.toList) =
      numbered records ++ (kept.map (⟨·, some (numbered records).length⟩)).toList := by
  cases kept <;> simp [numbered, List.zipIdx_append]

/-- The account says what the ring and the store hold, what has gone out, and which records the ring
has kept, each with its place. -/
structure Accounts (P : Platform σ) (C : Config) (media : σ → Media) (m₀ : Media) (a : Assembly σ)
    (p : Pipeline) : Prop where
  ring : HoldsQueue a.ring (p.buffer.map Item.bytes)
  fits : ∀ r ∈ p.buffer, FitsSlot C r
  store : a.store.Queues P C media m₀ ⟨p.store.map Item.bytes, p.handedOut⟩
  sender : StreamSender.Rest a.sender
  sent : (Wire.of a.sender.trace).delivered = p.sent.map Item.bytes
  written : p.accepted = numbered a.written
  retains : p.isTransient = false

/-! ## A write of another task -/

/-- What the account makes of a write: a record the ring keeps takes the next place, and the oldest
of the ring go only before a record that had no room, under Oldest. -/
inductive RingWrite (T : Tunables) (a : Assembly σ) (p : Pipeline) (policy : DiscardPolicy)
    (data : Bytes) : Pipeline → Prop
  | mk {outcome : Option WriteOutcome} {reports : List BufferReport} {ring : CircularBuffer}
      (ran : a.ring.write T policy data = .ok (outcome, reports, ring)) (evicted : Nat)
      (kept : Option Bytes) (keeps : Assembly.keptRecord data outcome = kept.toList)
      (evicts : 0 < evicted → policy = .oldest ∧ outcome = some (.kept true))
      (within : evicted ≤ p.buffer.length) :
      RingWrite T a p policy data (p.bufferWrite policy evicted kept)

/-- The writes of other tasks, one after the other. -/
inductive RingWrites (T : Tunables) :
    Assembly σ → Pipeline → List (DiscardPolicy × Bytes) → Pipeline → Prop
  | nil (a : Assembly σ) (p : Pipeline) : RingWrites T a p [] p
  | cons {a : Assembly σ} {p p₁ p' : Pipeline} {policy : DiscardPolicy} {data : Bytes}
      {writes : List (DiscardPolicy × Bytes)} (first : RingWrite T a p policy data p₁)
      (rest : RingWrites T (a.write T policy data) p₁ writes p') :
      RingWrites T a p ((policy, data) :: writes) p'

theorem RingWrites.bufferWrites {T : Tunables} {a : Assembly σ} {p p' : Pipeline}
    {writes : List (DiscardPolicy × Bytes)} (h : RingWrites T a p writes p') :
    Relation.ReflTransGen BufferWrite p p' := by
  induction h with
  | nil => exact .refl
  | cons first rest ih =>
    obtain ⟨-, evicted, kept, -, evicts, -⟩ := first
    exact .head (.mk _ _ evicted kept fun hsome => (evicts hsome).1) ih

variable {P : Platform σ} {C : Config} {media : σ → Media} {m₀ : Media}
  {a : Assembly σ} {p : Pipeline}

/-- A write of the ring is one of the account. -/
theorem Accounts.write (h : Accounts P C media m₀ a p) (policy : DiscardPolicy) (data : Bytes) :
    ∃ p', RingWrite C.tunables a p policy data p' ∧
      Accounts P C media m₀ (a.write C.tunables policy data) p' := by
  obtain ⟨answer, ring, q', hstep, hallowed, hring, -⟩ :=
    step_refines C.tunables h.ring rfl (.write policy data)
  cases hstep with
  | @write _ _ _ outcome reports hran =>
    have hwritten : a.write C.tunables policy data =
        { a with ring := ring, written := a.written ++ Assembly.keptRecord data outcome } := by
      rw [Assembly.write, hran]
    have hmoved : ∀ (evicted : Nat) (kept : Option Bytes),
        (0 < evicted → policy = .oldest ∧ outcome = some (.kept true)) →
        evicted ≤ (p.buffer.map Item.bytes).length →
        (∀ bytes ∈ kept, bytes.length ≤ C.tunables.maxMessageSize) →
        q' = (p.buffer.map Item.bytes).drop evicted ++ kept.toList →
        Assembly.keptRecord data outcome = kept.toList →
        ∃ p', RingWrite C.tunables a p policy data p' ∧
          Accounts P C media m₀ (a.write C.tunables policy data) p' := by
      rintro evicted kept hevicts hwithin hfits rfl hkept
      rw [List.length_map] at hwithin
      rw [hwritten]
      refine ⟨_, .mk hran evicted kept hkept hevicts hwithin, ?_, ?_, h.store, h.sender, h.sent, ?_,
        h.retains⟩
      · cases kept <;> simpa [Pipeline.bufferWrite, List.map_drop] using hring
      · intro r hr
        rcases List.mem_append.1 hr with hr | hr
        · exact h.fits r (List.mem_of_mem_drop hr)
        · obtain ⟨bytes, hbytes, rfl⟩ := Option.map_eq_some_iff.1 (Option.mem_toList.1 hr)
          exact hfits bytes hbytes
      · rw [hkept, numbered_append_toList, ← h.written]
        rfl
    have hnone : 0 < 0 → policy = .oldest ∧ outcome = some (.kept true) :=
      fun hpos => absurd hpos (lt_irrefl 0)
    generalize p.buffer.map Item.bytes = q at hallowed hmoved
    cases hallowed with
    | write size allowed =>
      have hdata : ∀ bytes ∈ some data, bytes.length ≤ C.tunables.maxMessageSize := by
        rintro _ ⟨⟩
        exact size
      cases allowed with
      | kept => exact hmoved 0 (some data) hnone (Nat.zero_le _) hdata rfl rfl
      | keptEvicting n oldest some_evicted le =>
        exact hmoved n (some data) (fun _ => ⟨oldest, rfl⟩) le hdata rfl rfl
      | refused could_not =>
        refine hmoved 0 none hnone (Nat.zero_le _) (fun _ hnot => by cases hnot) ?_ rfl
        exact (List.append_nil _).symm
    | tooLong size =>
      refine hmoved 0 none hnone (Nat.zero_le _) (fun _ hnot => by cases hnot) ?_ rfl
      exact (List.append_nil _).symm

theorem Accounts.writeAll (h : Accounts P C media m₀ a p)
    (writes : List (DiscardPolicy × Bytes)) : ∃ p', RingWrites C.tunables a p writes p' ∧
      Accounts P C media m₀ (a.writeAll C.tunables writes) p' := by
  induction writes generalizing a p with
  | nil => exact ⟨p, .nil a p, h⟩
  | cons w writes ih =>
    obtain ⟨p₁, hfirst, h₁⟩ := h.write w.1 w.2
    obtain ⟨p', hrest, h'⟩ := ih h₁
    exact ⟨p', .cons hfirst hrest, h'⟩

/-! ## A call of the store -/

section Calls

variable {s : BlockStore σ} {q : FifoQueue}

theorem queues_not_frozen (h : s.Queues P C media m₀ q) : s.frozen = false := by
  obtain ⟨V, hsees, -⟩ := h
  exact hsees.frozen

theorem queues_fit (h : s.Queues P C media m₀ q) :
    ∀ bytes ∈ q.items, bytes.length ≤ C.tunables.maxMessageSize := by
  obtain ⟨V, -, hV⟩ := h
  obtain ⟨S, hS, -, rfl⟩ := hV.shelf
  intro bytes hbytes
  obtain ⟨e, he, rfl⟩ := List.mem_map.1 hbytes
  exact (hS.view.queue_wellFormed e he).le

/-- As many turns as there are numbers are enough for a read. -/
theorem queues_read (hP : Faithful P media) (hdispose : DisposesAlways P media)
    (hpolicy : SealsInPlace P C) (h : s.Queues P C media m₀ q) {maxSize : Nat}
    (hmax : C.tunables.maxMessageSize ≤ maxSize) : ∃ bytes s' asked q',
    BlockStore.readNextUnsent P C (modulus + 1) maxSize s = (some bytes, s') ∧
      q.Allows (C := C) (.readNextUnsent maxSize) (.read bytes, asked) q' ∧
      s'.Queues P C media m₀ q' := by
  obtain ⟨V, hs, hV⟩ := id h
  obtain ⟨S, hS, hsealed, -⟩ := hV.shelf
  have hfew : S.later.length < modulus := by
    have hlength := hS.view.length_le
    rw [Shelf.blocks, List.length_cons] at hlength
    omega
  have hends : Ensures (BlockStore.readNextUnsent P C (modulus + 1) maxSize)
      (fun outcome _ => ∃ bytes, outcome = some bytes) s := by
    refine (BlockStore.readNextUnsent_sees hP hs).mono ?_
    rintro outcome s' (⟨rfl, V', -, hturns, -⟩ | ⟨bytes, V', rfl, -, -⟩ | ⟨-, hjammed⟩)
    · obtain ⟨S', -, -, hcount⟩ := hS.turns hpolicy hturns hsealed
      omega
    · exact ⟨bytes, rfl⟩
    · exact absurd hjammed (BlockStore.not_jammed hdispose)
  obtain ⟨bytes, hbytes⟩ := hends
  generalize hread : BlockStore.readNextUnsent P C (modulus + 1) maxSize s = outcome at hbytes
  obtain ⟨_, s'⟩ := outcome
  obtain rfl : _ = some bytes := hbytes
  have hperform : Ensures (BlockStore.perform P (modulus + 1) (.readNextUnsent (C := C) maxSize))
      (fun answer s'' => answer = .read bytes ∧ s'' = s') s := by
    unfold BlockStore.perform
    refine Ensures.bind (Q := fun outcome s'' => outcome = some bytes ∧ s'' = s') ?_ ?_
    · exact ⟨congrArg Prod.fst hread, congrArg Prod.snd hread⟩
    · rintro _ _ ⟨rfl, rfl⟩
      exact ⟨rfl, rfl⟩
  have hcall : BlockStore.IsQueueCall (.readNextUnsent (C := C) maxSize) := hmax
  have hreturns : BlockStore.Returns P s (.readNextUnsent (C := C) maxSize) (.read bytes, _) s' :=
    ⟨⟨modulus + 1, hperform.eq_mk⟩, (by rintro ⟨⟩), rfl⟩
  obtain ⟨q', hallows, hq'⟩ := h.returns hP hdispose hpolicy hcall hreturns
  exact ⟨bytes, s', _, q', rfl, hallows, hq'⟩

theorem queues_write (hP : Faithful P media) (hdispose : DisposesAlways P media)
    (hpolicy : SealsInPlace P C) (h : s.Queues P C media m₀ q) {data : Bytes}
    (hpos : 0 < data.length) (hfits : data.length ≤ C.tunables.maxMessageSize) : ∃ q',
    q.Allows (C := C) (.write ⟨data, hfits⟩) (.wrote (BlockStore.write P C data s).1,
      decide (oldestAnswers s.world.trace <
        oldestAnswers (BlockStore.write P C data s).2.world.trace)) q' ∧
      (BlockStore.write P C data s).2.Queues P C media m₀ q' := by
  have hcall : BlockStore.IsQueueCall (.write (C := C) ⟨data, hfits⟩) := hpos
  have hreturns : BlockStore.Returns P s (.write (C := C) ⟨data, hfits⟩)
      (.wrote (BlockStore.write P C data s).1, _) (BlockStore.write P C data s).2 :=
    ⟨⟨0, rfl⟩, (by rintro ⟨⟩), rfl⟩
  exact h.returns hP hdispose hpolicy hcall hreturns

/-- An empty record is turned away, and nothing else happens. -/
theorem write_empty (P : Platform σ) (C : Config) (s : BlockStore σ) :
    BlockStore.write P C [] s = (.notRetained, s) := by
  have hran : Ensures (BlockStore.write P C [])
      (fun result s' => result = .notRetained ∧ s' = s) s := by
    unfold BlockStore.write
    simp
  exact hran.eq_mk

theorem queues_mark (hP : Faithful P media) (hdispose : DisposesAlways P media)
    (hpolicy : SealsInPlace P C) (h : s.Queues P C media m₀ q) : ∃ asked q',
    q.Allows (C := C) .markSent (.marked, asked) q' ∧
      (BlockStore.markSent P C s).2.Queues P C media m₀ q' := by
  have hreturns : BlockStore.Returns P s (.markSent (C := C)) (.marked, _)
      (BlockStore.markSent P C s).2 :=
    ⟨⟨0, rfl⟩, (by rintro ⟨⟩), rfl⟩
  have hcall : BlockStore.IsQueueCall (.markSent (C := C)) := trivial
  obtain ⟨q', hallows, hq'⟩ := h.returns hP hdispose hpolicy hcall hreturns
  exact ⟨_, q', hallows, hq'⟩

end Calls

/-! ## A call of the parts -/

/-- Why a call lost a record: in it the store's policy answered Oldest, or the store said so of that
record. -/
inductive Blames (before after : BlockStore σ) (p : Pipeline) :
    (request : Request Item) → request.Answer → Item × Loss → Prop
  | evicted {result : StoreWriteResult} {r r' : Item}
      (oldest : oldestAnswers before.world.trace < oldestAnswers after.world.trace) :
      Blames before after p (.storeWrite r') result (r, .storeEvicted)
  | lost (r : Item) : Blames before after p (.storeWrite r) .lost (r, .storeLost)
  | refused {r : Item} (turnedAway : p.turnedAway = some r) :
      Blames before after p .storeIsTransient false (r, .storeRefused)

/-- A move of the account at a call, which says why it lost what it lost. -/
structure Moves (before after : BlockStore σ) (p : Pipeline) (request : Request Item)
    (answer : request.Answer) (p' : Pipeline) : Prop where
  effect : Effect p request answer p'
  losses : ∃ lost, p'.lost = p.lost ++ lost ∧ ∀ x ∈ lost, Blames before after p request answer x

/-- A move that loses nothing. -/
theorem Moves.lossless {before after : BlockStore σ} {p p' : Pipeline} {request : Request Item}
    {answer : request.Answer} (effect : Effect p request answer p') (hlost : p'.lost = p.lost) :
    Moves before after p request answer p' :=
  ⟨effect, [], hlost.trans (List.append_nil _).symm, List.forall_mem_nil _⟩

/-- A call that answers and moves the parts as the account may move. -/
def Follows (P : Platform σ) (C : Config) (media : σ → Media) (m₀ : Media) (before : BlockStore σ)
    (p : Pipeline) (request : Request Item)
    (outcome : (request.map Item.bytes).Answer × Assembly σ) : Prop :=
  ∃ answer p', outcome.1 = request.mapAnswer Item.bytes answer ∧
    request.AnswerFits (FitsSlot C) answer ∧ Moves before outcome.2.store p request answer p' ∧
    Accounts P C media m₀ outcome.2 p'

/-- A call that leaves the parts and the account. -/
theorem Accounts.stays (h : Accounts P C media m₀ a p) (request : Request Item)
    (answer : request.Answer) (hfits : request.AnswerFits (FitsSlot C) answer)
    (heffect : Effect p request answer p) :
    Follows P C media m₀ a.store p request (request.mapAnswer Item.bytes answer, a) :=
  ⟨answer, p, rfl, hfits, .lossless heffect rfl, h⟩

theorem Accounts.bufferRead (h : Accounts P C media m₀ a p) :
    Follows P C media m₀ a.store p (.bufferRead C.tunables.maxMessageSize)
      (a.bufferRead C.tunables.maxMessageSize) := by
  unfold Assembly.bufferRead
  have hring := h.ring
  rcases hbuffer : p.buffer with _ | ⟨r, rest⟩
  · rw [hbuffer] at hring
    rw [read_empty hring]
    exact h.stays (.bufferRead _) none (fun _ hr => by cases hr) (.bufferEmpty p _)
  · rw [hbuffer, List.map_cons] at hring
    by_cases hsize : r.bytes.length ≤ C.tunables.maxMessageSize
    · obtain ⟨ring, hread, hholds, -⟩ := read_delivers hring hsize
      rw [hread]
      refine ⟨some r, _, rfl, ?_, .lossless (.bufferRead p _ r rest hbuffer) rfl, ?_⟩
      · rintro _ ⟨⟩
        exact hsize
      · refine ⟨hholds, fun r' hr' => ?_, h.store, h.sender, h.sent, h.written, h.retains⟩
        exact h.fits r' (by rw [hbuffer]; exact List.mem_cons_of_mem _ hr')
    · obtain ⟨ring, hread, hholds, -⟩ := read_too_small hring (Nat.lt_of_not_le hsize)
      rw [hread]
      refine ⟨none, p, rfl, fun _ hr => (by cases hr), .lossless (.bufferEmpty p _) rfl, ?_⟩
      refine ⟨?_, h.fits, h.store, h.sender, h.sent, h.written, h.retains⟩
      rw [hbuffer, List.map_cons]
      exact hholds

/-- The store's policy is to blame for what a write evicts. -/
theorem blames_evicted (r : Item) (result : StoreWriteResult) {before after : BlockStore σ}
    {count : Nat} (hasked : 0 < count →
      decide (oldestAnswers before.world.trace < oldestAnswers after.world.trace) = true) :
    ∀ x ∈ (p.store.take count).map (·, Loss.storeEvicted),
      Blames before after p (.storeWrite r) result x := by
  intro x hx
  obtain ⟨item, hitem, rfl⟩ := List.mem_map.1 hx
  refine .evicted (of_decide_eq_true (hasked ?_))
  rcases Nat.eq_zero_or_pos count with rfl | hpos
  · cases hitem
  · exact hpos

theorem Accounts.storeWrite (hP : Faithful P media) (hdispose : DisposesAlways P media)
    (hpolicy : SealsInPlace P C) (h : Accounts P C media m₀ a p) {r : Item} (hr : FitsSlot C r) :
    Follows P C media m₀ a.store p (.storeWrite r) ((BlockStore.write P C r.bytes a.store).1,
      { a with store := (BlockStore.write P C r.bytes a.store).2 }) := by
  by_cases hpos : 0 < r.bytes.length
  · obtain ⟨q', hallows, hq'⟩ := queues_write hP hdispose hpolicy h.store hpos hr
    generalize BlockStore.write P C r.bytes a.store = outcome at hallows hq'
    obtain ⟨result, store⟩ := outcome
    dsimp only at hallows hq' ⊢
    generalize hasked : decide (oldestAnswers a.store.world.trace <
      oldestAnswers store.world.trace) =
      asked at hallows
    cases hallows with
    | @keeps _ _ count evicts within =>
      have hblames := blames_evicted (p := p) r .kept
        fun hsome => hasked.trans (evicts hsome)
      refine ⟨.kept, _, rfl, trivial, ⟨.storeKeeps p r count h.retains, _, rfl, hblames⟩, ?_⟩
      refine ⟨h.ring, h.fits, ?_, h.sender, h.sent, h.written, h.retains⟩
      simpa [FifoQueue.evicted, Pipeline.evictFromStore, List.map_drop] using hq'
    | @keepsNot _ _ _ count lost evicts within =>
      have hstore : store.Queues P C media m₀
          ⟨(p.store.drop count).map Item.bytes, p.handedOut && count == 0⟩ := by
        simpa [FifoQueue.evicted, List.map_drop] using hq'
      have hblames := blames_evicted (p := p) r result
        fun hsome => hasked.trans (evicts hsome)
      cases result with
      | kept => exact absurd rfl lost
      | notRetained =>
        refine ⟨.notRetained, _, rfl, trivial, ⟨.storeTurnsAway p r count, _, rfl, hblames⟩, ?_⟩
        exact ⟨h.ring, h.fits, hstore, h.sender, h.sent, h.written, h.retains⟩
      | lost =>
        refine ⟨.lost, _, rfl, trivial, ⟨.storeLoses p r count h.retains,
          (p.store.take count).map (·, .storeEvicted) ++ [(r, .storeLost)], ?_, ?_⟩, ?_⟩
        · exact List.append_assoc _ _ _
        · refine List.forall_mem_append.2 ⟨hblames, ?_⟩
          rintro x hx
          obtain rfl := List.mem_singleton.1 hx
          exact .lost r
        · exact ⟨h.ring, h.fits, hstore, h.sender, h.sent, h.written, h.retains⟩
  · have hempty : r.bytes = [] := List.length_eq_zero_iff.1 (by omega)
    rw [hempty, write_empty]
    refine ⟨.notRetained, _, rfl, trivial, .lossless (.storeTurnsAway p r 0) ?_, ?_⟩
    · exact List.append_nil _
    · refine ⟨h.ring, h.fits, ?_, h.sender, h.sent, h.written, h.retains⟩
      simpa [Pipeline.evictFromStore] using h.store

theorem Accounts.storeReadNextUnsent (hP : Faithful P media) (hdispose : DisposesAlways P media)
    (hpolicy : SealsInPlace P C) (h : Accounts P C media m₀ a p) :
    Follows P C media m₀ a.store p (.storeReadNextUnsent C.tunables.maxMessageSize)
      ((BlockStore.readNextUnsent P C (modulus + 1) C.tunables.maxMessageSize a.store).1.join,
        { a with store :=
          (BlockStore.readNextUnsent P C (modulus + 1) C.tunables.maxMessageSize a.store).2 }) := by
  obtain ⟨bytes, store, asked, q', hread, hallows, hq'⟩ :=
    queues_read hP hdispose hpolicy h.store (le_refl _)
  rw [hread]
  have hitems : (⟨p.store.map Item.bytes, p.handedOut⟩ : FifoQueue).items =
      p.store.map Item.bytes := rfl
  cases hallows with
  | @handsOut _ _ head rest items =>
    obtain ⟨r, rest', hstore, rfl, -⟩ := List.map_eq_cons_iff.1 (hitems.symm.trans items)
    refine ⟨some r, _, rfl, ?_, .lossless (.storeHandsOut p _ [] r rest' hstore) ?_, ?_⟩
    · rintro _ ⟨⟩
      exact queues_fit h.store _ (by rw [items]; exact List.mem_cons_self)
    · exact List.append_nil _
    · refine ⟨h.ring, h.fits, ?_, h.sender, h.sent, h.written, h.retains⟩
      rw [← hstore]
      exact hq'
  | hasNothing items =>
    refine ⟨none, p, rfl, fun _ hr => (by cases hr), .lossless (.storeHandsOutNothing p _) rfl, ?_⟩
    exact ⟨h.ring, h.fits, hq', h.sender, h.sent, h.written, h.retains⟩

theorem Accounts.storeMarkSent (hP : Faithful P media) (hdispose : DisposesAlways P media)
    (hpolicy : SealsInPlace P C) (h : Accounts P C media m₀ a p) :
    Follows P C media m₀ a.store p .storeMarkSent ((),
      { a with store := (BlockStore.markSent P C a.store).2 }) := by
  obtain ⟨asked, q', hallows, hq'⟩ := queues_mark hP hdispose hpolicy h.store
  have hqueue : q' = ⟨p.markSent.store.map Item.bytes, p.markSent.handedOut⟩ := by
    generalize hq : (⟨p.store.map Item.bytes, p.handedOut⟩ : FifoQueue) = q at hallows
    cases hallows with
    | drops read items =>
      subst hq
      obtain ⟨r, rest', hstore, -, rfl⟩ := List.map_eq_cons_iff.1 items
      simp [Pipeline.markSent, show p.handedOut = true from read, hstore]
    | dropsNothing unread =>
      subst hq
      simp [Pipeline.markSent, show p.handedOut = false from unread]
  rw [hqueue] at hq'
  have hmarked : p.markSent.buffer = p.buffer ∧ p.markSent.sent = p.sent ∧
      p.markSent.accepted = p.accepted ∧ p.markSent.isTransient = p.isTransient ∧
      p.markSent.lost = p.lost := by
    unfold Pipeline.markSent
    split <;> exact ⟨rfl, rfl, rfl, rfl, rfl⟩
  obtain ⟨hbuffer, hsent, haccepted, htransient, hlost⟩ := hmarked
  refine ⟨(), _, rfl, trivial, .lossless (.storeMarkSent p) hlost, ?_⟩
  exact ⟨hbuffer ▸ h.ring, hbuffer ▸ h.fits, hq', h.sender, hsent ▸ h.sent, haccepted ▸ h.written,
    htransient.trans h.retains⟩

theorem Accounts.senderSend (h : Accounts P C media m₀ a p) {r : Item} (hr : FitsSlot C r)
    (answers : SendAnswers) :
    Follows P C media m₀ a.store p (.senderSend r) ((a.sender.send r.bytes answers).1,
      { a with sender := (a.sender.send r.bytes answers).2 }) := by
  have hcounted : r.bytes.length < 4294967296 :=
    Nat.lt_of_le_of_lt (Nat.le_trans hr C.tunables.maxMessageSize_le) (by decide)
  refine ⟨_, _, rfl, trivial, .lossless (.senderSend p r _) rfl, ?_⟩
  refine ⟨h.ring, h.fits, h.store, h.sender.send hcounted, ?_, h.written, h.retains⟩
  rw [StreamSender.delivered_send h.sender hcounted, h.sent, List.map_append]
  cases (a.sender.send r.bytes answers).1 <;> rfl

/-- Each call a pass makes moves the parts as the account may move. -/
theorem Accounts.call (hP : Faithful P media) (hdispose : DisposesAlways P media)
    (hpolicy : SealsInPlace P C) (h : Accounts P C media m₀ a p) (o : Outside)
    {request : Request Item} (hasks : request.Asks C.tunables.maxMessageSize (FitsSlot C)) :
    Follows P C media m₀ a.store p request (Assembly.call P C o (request.map Item.bytes) a) := by
  cases request with
  | bufferRead maxSize =>
    obtain rfl : maxSize = C.tunables.maxMessageSize := hasks
    exact h.bufferRead
  | bufferIsFull => exact h.stays .bufferIsFull _ trivial (.bufferIsFull p _)
  | storeWrite r => exact h.storeWrite hP hdispose hpolicy hasks
  | storeReadNextUnsent maxSize =>
    obtain rfl : maxSize = C.tunables.maxMessageSize := hasks
    exact h.storeReadNextUnsent hP hdispose hpolicy
  | storeMarkSent => exact h.storeMarkSent hP hdispose hpolicy
  | storeHasUnsent => exact h.stays .storeHasUnsent _ trivial (.storeHasUnsent p _)
  | storeIsTransient =>
    have hsettled : p.settle =
        { p.lose p.turnedAway.toList .storeRefused with turnedAway := none } := by
      rw [Pipeline.settle, h.retains]
      rfl
    have heffect : Effect p .storeIsTransient false p.settle := h.retains ▸ .storeIsTransient p
    rw [hsettled] at heffect
    refine ⟨false, _, queues_not_frozen h.store, trivial, ⟨heffect, _, rfl, fun x hx => ?_⟩, ?_⟩
    · obtain ⟨r, hr, rfl⟩ := List.mem_map.1 hx
      exact .refused (Option.mem_toList.1 hr)
    · exact ⟨h.ring, h.fits, h.store, h.sender, h.sent, h.written, h.retains⟩
  | senderSend r => exact h.senderSend hasks o.stream
  | getDiscardPolicy =>
    refine ⟨o.policy, _, rfl, trivial, .lossless (.getDiscardPolicy p _) rfl, ?_⟩
    exact ⟨h.ring, h.fits, h.store, h.sender, h.sent, h.written, h.retains⟩
  | isEventReportingOn => exact h.stays .isEventReportingOn _ trivial (.isEventReportingOn p _)
  | onHalt => exact h.stays .onHalt () trivial (.onHalt p)
  | errorHandler event => exact h.stays (.errorHandler event) () trivial (.errorHandler p event)
  | formatReport capacity event =>
    obtain rfl : capacity = C.tunables.maxMessageSize := hasks
    refine h.stays (.formatReport _ event) ⟨o.report.take C.tunables.maxMessageSize, none⟩ ?_
      (.formatReport p _ event _ rfl)
    exact List.length_take_le ..

end SolidSyslog.Service
