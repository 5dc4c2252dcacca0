import SolidSyslog.Store.ShelfWrites
import SolidSyslog.Store.ShelfRestart

/-!
# The block store is a queue

What a store is for: records in the order they were kept, of which the first is handed out until it
is marked. On a device that never fails, empty at the start, with a policy that opens what it
sealed, the block store is such a queue for every sequence of calls, whatever its configuration and
whatever the discard policy answers.
-/

namespace SolidSyslog.Store

open Lib BlockStore

variable {σ : Type} {P : Platform σ} {C : Config} {media : σ → Media} {m₀ : Media}

/-! ## The queue -/

/-- The records kept, the oldest first, and whether that one has been handed out since it became the
oldest. -/
structure FifoQueue where
  items : List Bytes
  headRead : Bool
  deriving DecidableEq, Repr

namespace FifoQueue

def empty : FifoQueue :=
  ⟨[], false⟩

/-- Without its oldest records. -/
def evicted (q : FifoQueue) (count : Nat) : FifoQueue :=
  ⟨q.items.drop count, q.headRead && count == 0⟩

/-- What a queue may do at a call. The flag beside the answer says whether the discard policy has
answered, in the course of the call, that the oldest records go. -/
inductive Allows (q : FifoQueue) : Op C → Answer × Bool → FifoQueue → Prop
  | keeps {message : Message C} {asked : Bool} {count : Nat} (evicts : 0 < count → asked = true)
      (within : count ≤ q.items.length) :
      Allows q (.write message) (.wrote .kept, asked)
        { q.evicted count with items := (q.evicted count).items ++ [message.bytes] }
  | keepsNot {message : Message C} {result : StoreWriteResult} {asked : Bool} {count : Nat}
      (lost : result ≠ .kept) (evicts : 0 < count → asked = true)
      (within : count ≤ q.items.length) :
      Allows q (.write message) (.wrote result, asked) (q.evicted count)
  | handsOut {maxSize : Nat} {asked : Bool} {head : Bytes} {rest : List Bytes}
      (items : q.items = head :: rest) :
      Allows q (.readNextUnsent maxSize) (.read (some head), asked) { q with headRead := true }
  | hasNothing {maxSize : Nat} {asked : Bool} (items : q.items = []) :
      Allows q (.readNextUnsent maxSize) (.read none, asked) q
  | drops {asked : Bool} {head : Bytes} {rest : List Bytes} (read : q.headRead = true)
      (items : q.items = head :: rest) : Allows q .markSent (.marked, asked) ⟨rest, false⟩
  | dropsNothing {asked : Bool} (unread : q.headRead = false) :
      Allows q .markSent (.marked, asked) q

end FifoQueue

namespace BlockStore

/-- The calls of the queue: a record of at least one byte, a read that has room for any. -/
def IsQueueCall : Op C → Prop
  | .write message => 0 < message.bytes.length
  | .readNextUnsent maxSize => C.tunables.maxMessageSize ≤ maxSize
  | .markSent => True
  | _ => False

/-- A call that has returned, with whether the discard policy has answered in its course that the
oldest records go. -/
def Returns (P : Platform σ) (s : BlockStore σ) (op : Op C) (observed : Answer × Bool)
    (s' : BlockStore σ) : Prop :=
  Step P s op observed.1 s' ∧ observed.1 ≠ .unfinished ∧
    observed.2 = decide (oldestAnswers s.world.trace < oldestAnswers s'.world.trace)

end BlockStore

namespace StoreView

variable {V V' : StoreView} {S S' : Shelf} {maxSize : Nat} {found : RecordStore.Found}
  {had has : Bool}

/-! ## Reads -/

/-- A policy that opens what it sealed hands the message back. -/
theorem verdict_of_sealed {e : Entry} {verdict : OpenResult} {message : Bytes}
    (hP : SealsInPlace P C) (hsealed : e.Sealed P) (h : Verdict P C e verdict message) :
    verdict = .opened ∧ message = e.data := by
  obtain ⟨env, hseal⟩ := hsealed
  obtain ⟨env', rfl, rfl⟩ := h
  have hopened := hP.opens hseal env'
  have hcontent : fit (Store.header e.data.length ++ e.data).length e.sealedContent = e.content :=
    rfl
  have hlength : (Store.header e.data.length ++ e.data).length = e.content.length := by
    rw [Entry.length_content, List.length_append]
    rfl
  rw [hcontent] at hopened
  rw [hopened, fit_of_length_eq hlength]
  exact ⟨rfl, rfl⟩

/-- A turn that goes on leaves the queue as it was. -/
theorem Turned.queue_eq (hP : SealsInPlace P C) (hsealed : ∀ e ∈ S.queue, e.Sealed P)
    (h : Turned P C maxSize S had found true has S') : S'.queue = S.queue := by
  cases h with
  | left done behind => rw [Shelf.queue_left, Shelf.queue, done, List.nil_append]
  | passed unread verdict =>
    have hverdict := verdict_of_sealed hP (hsealed _ (by rw [Shelf.queue, unread]; simp)) verdict
    cases hverdict.1

/-- The last turn hands the oldest record out, or there is none. -/
theorem Turned.ends (hP : SealsInPlace P C) (hsealed : ∀ e ∈ S.queue, e.Sealed P)
    (h : Turned P C maxSize S had found false has S') : S' = S ∧
      ((S.queue = [] ∧ found.bytes = [] ∧ has = false) ∨
        ∃ e rest, S.queue = e :: rest ∧ found.bytes = e.data.take maxSize ∧ has = true) := by
  cases h with
  | ended done last none => exact ⟨rfl, .inl ⟨by rw [Shelf.queue, done, last]; rfl, none, rfl⟩⟩
  | @handedOut e rest message unread verdict bytes =>
    have hqueue : S.queue = e :: (rest ++ S.later.flatMap Block.entries) := by
      rw [Shelf.queue, unread]
      rfl
    obtain ⟨-, rfl⟩ := verdict_of_sealed hP (hsealed e (by rw [hqueue]; simp)) verdict
    exact ⟨rfl, .inr ⟨e, _, hqueue, bytes, rfl⟩⟩
  | kept unread verdict none =>
    have hverdict := verdict_of_sealed hP (hsealed _ (by rw [Shelf.queue, unread]; simp)) verdict
    cases hverdict.1

/-- Each turn that goes on leaves a block, and the queue as it was. -/
theorem Holds.turns (hP : SealsInPlace P C) {count : Nat} (hturns : Turns P C maxSize count V V')
    (h : V.Holds C S) (hsealed : ∀ e ∈ S.queue, e.Sealed P) :
    ∃ S', V'.Holds C S' ∧ S'.queue = S.queue ∧ count + S'.later.length = S.later.length := by
  induction hturns generalizing S with
  | refl V => exact ⟨S, h, rfl, Nat.zero_add _⟩
  | @head count V V₁ V' found turn rest ih =>
    obtain ⟨S₁, hturned, h₁, -⟩ := h.turn turn
    have hqueue := hturned.queue_eq hP hsealed
    obtain ⟨S', h', hqueue', hcount⟩ := ih h₁ (by rwa [hqueue])
    refine ⟨S', h', hqueue'.trans hqueue, ?_⟩
    generalize V₁.records.hasReadRecord = has at hturned
    cases hturned with
    | left done behind =>
      obtain ⟨b, later, hlater⟩ := List.exists_cons_of_ne_nil behind
      rw [Shelf.left, hlater] at hcount
      rw [hlater, List.length_cons]
      dsimp only at hcount
      omega
    | passed unread verdict =>
      have hverdict := verdict_of_sealed hP (hsealed _ (by rw [Shelf.queue, unread]; simp)) verdict
      cases hverdict.1

/-- A store with nothing unsent has nothing in its queue. -/
theorem Holds.queue_eq_nil (h : V.Holds C S) (hidle : ¬ V.HasUnsent) : S.queue = [] := by
  unfold HasUnsent at hidle
  push Not at hidle
  obtain ⟨hsame, hcursor⟩ := hidle
  have hlast := h.view.later_eq_nil_iff.2 hsame
  have hsize : V.view.writeSize = V.view.readSize := by
    rw [View.writeSize, View.readSize, hsame]
  rw [Shelf.queue, hlast, List.flatMap_nil, List.append_nil]
  rcases hunread : S.unread with _ | ⟨e, rest⟩
  · rfl
  · have hat := h.view.cursor_eq (by rw [hunread]; exact List.cons_ne_nil _ _)
    have hpos := C.recordSize_pos e.data.length
    rw [hsize, h.view.readSize_eq, hat, Block.bytes, Shelf.readBlock, hunread] at hcursor
    simp only [recordsBytes_append, recordsBytes_cons, List.length_append,
      Entry.length_bytes] at hcursor
    omega

/-! ## The queue of a shelf -/

/-- The records from the read position on are the queue, each sealed by the policy. -/
structure Queues (P : Platform σ) (C : Config) (V : StoreView) (q : FifoQueue) : Prop where
  sound : V.Sound
  room : V.view.HasRoom
  shelf : ∃ S, V.Holds C S ∧ (∀ e ∈ S.queue, e.Sealed P) ∧
    q = ⟨S.queue.map Entry.data, V.records.hasReadRecord⟩

/-- Records that go from the front of a shelf go from the front of the queue. -/
theorem evicted_of_readied {S₁ : Shelf} {changed : Bool} {asked : Prop} [Decidable asked]
    (h : V.Holds C S) (hreadied : View.Readied S S₁ changed)
    (hevicts : S₁.queue ≠ S.queue → asked) :
    ∃ count, (0 < count → decide asked = true) ∧ count ≤ (S.queue.map Entry.data).length ∧
      (⟨S.queue.map Entry.data, V.records.hasReadRecord⟩ : FifoQueue).evicted count =
        ⟨S₁.queue.map Entry.data, V.records.hasReadRecord && !changed⟩ := by
  obtain ⟨gone, hqueue, hsame, hdone⟩ := hreadied.dropped
  refine ⟨gone.length, ?_, ?_, ?_⟩
  · intro hpos
    rw [decide_eq_true_iff]
    apply hevicts
    intro heq
    have hlength := congrArg List.length hqueue
    rw [heq, List.length_append] at hlength
    omega
  · rw [hqueue, List.length_map, List.length_append]
    exact Nat.le_add_right _ _
  · have hread : (V.records.hasReadRecord && gone.length == 0) =
        (V.records.hasReadRecord && !changed) := by
      rcases gone with _ | ⟨e, gone⟩
      · cases changed with
        | false => rfl
        | true => rw [h.not_read (hdone rfl rfl)]; rfl
      · cases changed with
        | false => cases hsame rfl
        | true => simp
    rw [FifoQueue.evicted, hread]
    dsimp only
    rw [hqueue, List.map_append, List.drop_left' (List.length_map _)]

theorem sealed_of_readied {S₁ : Shelf} {changed : Bool} (hreadied : View.Readied S S₁ changed)
    (hsealed : ∀ e ∈ S.queue, e.Sealed P) : ∀ e ∈ S₁.queue, e.Sealed P := by
  obtain ⟨gone, hqueue, -, -⟩ := hreadied.dropped
  intro e he
  apply hsealed
  rw [hqueue]
  exact List.mem_append_right _ he

theorem Queues.write (hP : SealsInPlace P C) {q : FifoQueue} (h : V.Queues P C q)
    {message : Message C} {result : StoreWriteResult}
    (hwrote : V.Wrote P C message.bytes result V') :
    ∃ q', q.Allows (.write message) (.wrote result,
      decide (oldestAnswers V.view.trace < oldestAnswers V'.view.trace)) q' ∧ V'.Queues P C q' := by
  obtain ⟨S, hS, hsealed, rfl⟩ := h.shelf
  have hkept : ∀ q', (∃ S', V'.Holds C S' ∧ (∀ e ∈ S'.queue, e.Sealed P) ∧
      q' = ⟨S'.queue.map Entry.data, V'.records.hasReadRecord⟩) → V'.Queues P C q' :=
    fun _ => .mk (h.sound.wrote hwrote) (wrote_hasRoom h.room hwrote)
  obtain ⟨S', hS', -, hwritten⟩ := hS.wrote hP.keepsHeader message.fits hwrote
  generalize hread : V'.records.hasReadRecord = read' at hwritten hkept
  cases hwritten with
  | refused =>
    refine ⟨_, .keepsNot nofun (absurd · (lt_irrefl 0)) (Nat.zero_le _),
      hkept _ ⟨S, hS', hsealed, ?_⟩⟩
    simp [FifoQueue.evicted]
  | lost readied evicts =>
    obtain ⟨count, hasked, hwithin, hevicted⟩ := evicted_of_readied hS readied evicts
    exact ⟨_, .keepsNot nofun hasked hwithin,
      hkept _ ⟨S', hS', sealed_of_readied readied hsealed, hevicted⟩⟩
  | @kept S₁ changed e readied evicts hmessage hnew =>
    obtain ⟨count, hasked, hwithin, hevicted⟩ := evicted_of_readied hS readied evicts
    refine ⟨_, .keeps hasked hwithin, hkept _ ⟨_, hS', ?_, ?_⟩⟩
    · rw [Shelf.queue_stored]
      intro e' he'
      rcases List.mem_append.1 he' with he' | he'
      · exact sealed_of_readied readied hsealed e' he'
      · rw [List.mem_singleton.1 he']
        exact hnew
    · rw [hevicted, Shelf.queue_stored]
      simp [hmessage]

theorem Queues.mark {q : FifoQueue} (h : V.Queues P C q) (hmarked : V.Marked V') (asked : Bool) :
    ∃ q', q.Allows (C := C) .markSent (.marked, asked) q' ∧ V'.Queues P C q' := by
  obtain ⟨S, hS, hsealed, rfl⟩ := h.shelf
  obtain ⟨hsound, hroom⟩ := (stable_hasRoom (P := P) (C := C)).marked ⟨h.sound, h.room⟩ hmarked
  obtain ⟨S', hS', -, hunread, ⟨hread, rfl, rfl⟩ | ⟨hread, e, hqueue⟩⟩ := hS.markedView hmarked
  · exact ⟨_, .dropsNothing hread, h⟩
  · have hitems : S.queue.map Entry.data = e.data :: S'.queue.map Entry.data := by
      rw [hqueue, List.map_cons]
    refine ⟨_, .drops hread hitems, hsound, hroom, S', hS', ?_, ?_⟩
    · intro e' he'
      apply hsealed
      rw [hqueue]
      exact List.mem_cons_of_mem _ he'
    · rw [hunread]

theorem Queues.read (hP : SealsInPlace P C) {q : FifoQueue} (h : V.Queues P C q)
    (hmax : C.tunables.maxMessageSize ≤ maxSize) {bytes : Option Bytes}
    (hread : V.Read P C maxSize bytes V') (asked : Bool) :
    ∃ q', q.Allows (C := C) (.readNextUnsent maxSize) (.read bytes, asked) q' ∧
      V'.Queues P C q' := by
  obtain ⟨S, hS, hsealed, rfl⟩ := h.shelf
  cases hread with
  | nothing done =>
    refine ⟨_, .hasNothing ?_, h⟩
    dsimp only
    rw [hS.queue_eq_nil done]
    rfl
  | @found count V₁ V₂ found unsent turns last =>
    have hstable : Stable P C (fun V => V.Sound ∧ V.view.HasRoom) := stable_hasRoom
    have hturned := hstable.turn (hstable.turns ⟨h.sound, h.room⟩ turns) last
    obtain ⟨hsound, hroom⟩ : (V₂.settledRead found).Sound ∧ (V₂.settledRead found).view.HasRoom :=
      hstable.settledRead hturned
    obtain ⟨S₁, hS₁, hqueue, -⟩ := hS.turns hP turns hsealed
    have hsealed₁ : ∀ e ∈ S₁.queue, e.Sealed P := by rwa [hqueue]
    obtain ⟨S₂, hturned, hS₂, -⟩ := hS₁.turn last
    obtain ⟨hsettled, -, hrecords⟩ := hS₂.settledRead found
    obtain ⟨rfl, hends⟩ := hturned.ends hP hsealed₁
    have hkept : ∀ q', q' = (⟨S₂.queue.map Entry.data, V₂.records.hasReadRecord⟩ : FifoQueue) →
        (V₂.settledRead found).Queues P C q' :=
      fun q' hq' => ⟨hsound, hroom, S₂, hsettled, hsealed₁, by rw [hq', hrecords]⟩
    rcases hends with ⟨hempty, hnone, hnot⟩ | ⟨e, rest, hhead, hbytes, hyes⟩
    · rw [hnone]
      refine ⟨_, .hasNothing ?_, hkept _ ?_⟩
      · dsimp only
        rw [← hqueue, hempty]
        rfl
      · have hunread : S.unread = [] := by
          rw [hqueue, Shelf.queue] at hempty
          exact (List.append_eq_nil_iff.1 hempty).1
        rw [hnot, hS.not_read hunread, hqueue]
    · have hfits : e.data.length ≤ maxSize ∧ 0 < e.data.length := by
        have hwf := hS₁.view.queue_wellFormed e (by rw [hhead]; exact List.mem_cons_self)
        exact ⟨hwf.le.trans hmax, hwf.pos⟩
      rw [hbytes, List.take_of_length_le hfits.1, if_pos hfits.2]
      have hitems : S.queue.map Entry.data = e.data :: rest.map Entry.data := by
        rw [← hqueue, hhead, List.map_cons]
      exact ⟨_, .handsOut hitems, hkept _ (by rw [hyes, hqueue])⟩

end StoreView

/-! ## Runs -/

namespace BlockStore

variable {s s' : BlockStore σ} {op : Op C}

/-- The store sees a view whose records from the read position on are the queue. -/
def Queues (P : Platform σ) (C : Config) (media : σ → Media) (m₀ : Media) (s : BlockStore σ)
    (q : FifoQueue) : Prop :=
  ∃ V, s.Sees media m₀ V ∧ V.Queues P C q

theorem Sees.oldestAnswers_eq {V : StoreView} (h : s.Sees media m₀ V) :
    oldestAnswers V.view.trace = oldestAnswers s.world.trace := by
  rw [← h.world.main_eq, oldestAnswers_main]

/-- A call that returns answers as the queue may. -/
theorem Queues.returns (hP : Faithful P media) (hdispose : DisposesAlways P media)
    (hpolicy : SealsInPlace P C) {q : FifoQueue} (h : s.Queues P C media m₀ q)
    (hop : IsQueueCall op) {observed : Answer × Bool} (hreturns : Returns P s op observed s') :
    ∃ q', q.Allows op observed q' ∧ s'.Queues P C media m₀ q' := by
  obtain ⟨V, hs, hV⟩ := h
  obtain ⟨answer, asked⟩ := observed
  obtain ⟨hstep, hfinished, hasked⟩ := hreturns
  rcases step_sees hP hs hV.sound (fun _ _ _ _ _ => hV.room)
    hstep with ⟨V', hperformed, hs'⟩ | hjammed
  swap
  · exact absurd hjammed (not_jammed hdispose)
  dsimp only at hasked hfinished hperformed
  rw [← hs.oldestAnswers_eq, ← hs'.oldestAnswers_eq] at hasked
  cases hperformed with
  | write wrote =>
    obtain ⟨q', hallows, hV'⟩ := hV.write hpolicy wrote
    rw [← hasked] at hallows
    exact ⟨q', hallows, V', hs', hV'⟩
  | read read =>
    obtain ⟨q', hallows, hV'⟩ := hV.read hpolicy hop read asked
    exact ⟨q', hallows, V', hs', hV'⟩
  | unfinished turns => exact absurd rfl hfinished
  | markSent marked =>
    obtain ⟨q', hallows, hV'⟩ := hV.mark marked asked
    exact ⟨q', hallows, V', hs', hV'⟩
  | hasUnsent unsent => exact absurd hop id
  | isTransient => exact absurd hop id

/-- Every call returns: a read leaves a block with each turn that goes on. -/
theorem Queues.exists_returns (hP : Faithful P media) (hdispose : DisposesAlways P media)
    (hpolicy : SealsInPlace P C) {q : FifoQueue} (h : s.Queues P C media m₀ q)
    (hop : IsQueueCall op) : ∃ observed s', Returns P s op observed s' := by
  have hanswered : ∀ fuel, (perform P fuel op s).1 ≠ .unfinished →
      ∃ observed s', Returns P s op observed s' :=
    fun fuel hfinished => ⟨(_, _), _, ⟨fuel, rfl⟩, hfinished, rfl⟩
  cases op with
  | write message => exact hanswered 0 (by rintro ⟨⟩)
  | markSent => exact hanswered 0 (by rintro ⟨⟩)
  | hasUnsent => exact absurd hop id
  | isTransient => exact absurd hop id
  | readNextUnsent maxSize =>
    obtain ⟨V, hs, hV⟩ := h
    obtain ⟨S, hS, hsealed, -⟩ := hV.shelf
    apply hanswered (S.later.length + 1)
    have hfinished : Ensures (perform P (S.later.length + 1) (.readNextUnsent (C := C) maxSize))
        (fun answer _ => answer ≠ .unfinished) s := by
      unfold perform
      apply (readNextUnsent_sees hP hs).bind
      rintro outcome s' (⟨rfl, V', -, hturns, -⟩ | ⟨bytes, V', rfl, -, -⟩ | ⟨-, hjammed⟩)
      · obtain ⟨S', -, -, hcount⟩ := hS.turns hpolicy hturns hsealed
        omega
      · rintro ⟨⟩
      · exact absurd hjammed (not_jammed hdispose)
    exact hfinished

/-- A call given turns, and whether the discard policy has answered in its course that the oldest
records go. -/
def observe (P : Platform σ) (turns : Nat) (op : Op C) (s : BlockStore σ) :
    (Answer × Bool) × BlockStore σ :=
  let done := perform P turns op s
  ((done.1, decide (oldestAnswers s.world.trace < oldestAnswers done.2.world.trace)), done.2)

instance : DecidablePred (IsQueueCall : Op C → Prop)
  | .write message => inferInstanceAs (Decidable (0 < message.bytes.length))
  | .readNextUnsent maxSize =>
    inferInstanceAs (Decidable (C.tunables.maxMessageSize ≤ maxSize))
  | .markSent => .isTrue trivial
  | .hasUnsent | .isTransient => .isFalse id

end BlockStore

end SolidSyslog.Store
