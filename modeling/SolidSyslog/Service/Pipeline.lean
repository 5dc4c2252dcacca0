import SolidSyslog.Service.Model
import Mathlib.Data.List.Range
import Mathlib.Data.List.Perm.Basic
import Mathlib.Logic.Relation

/-!
# The queues a pass runs between

What the rest of the system may do, with the queues in the open: a buffer that is a FIFO, written by
other tasks at any moment, and a store that is a FIFO until it freezes and holds nothing from then
on. The pipeline keeps the account of every record the buffer accepted: where it is, and how it was
lost if it was. `Conserved` is the law of that account, and each call keeps it.
-/

namespace SolidSyslog.Service

/-- A record with its place among the records the buffer accepted; a report, or a record the store
had from an earlier run, has none. -/
structure Item where
  bytes : Bytes
  arrival : Option Nat
  deriving DecidableEq, Repr

/-- The ways a record is lost outside the pass. -/
inductive Loss where
  | bufferEvicted
  | storeEvicted
  | storeRefused
  | storeLost
  | leftOnMedia
  deriving DecidableEq, Repr

/-- The queues, and the account of the records the buffer accepted. `turnedAway` is the record of a
write the store did not retain, until the store says whether it is transient. -/
structure Pipeline where
  buffer : List Item
  store : List Item
  handedOut : Bool
  isTransient : Bool
  turnedAway : Option Item
  accepted : List Item
  sent : List Item
  lost : List (Item × Loss)
  policies : List DiscardPolicy

namespace Pipeline

def lose (p : Pipeline) (items : List Item) (loss : Loss) : Pipeline :=
  { p with lost := p.lost ++ items.map (·, loss) }

/-- A write of the buffer by another task, under the policy's answer. -/
def bufferWrite (p : Pipeline) (policy : DiscardPolicy) (evicted : Nat) (kept : Option Bytes) :
    Pipeline :=
  let item := kept.map (⟨·, some p.accepted.length⟩)
  { p with
    buffer := p.buffer.drop evicted ++ item.toList
    accepted := p.accepted ++ item.toList
    lost := p.lost ++ (p.buffer.take evicted).map (·, .bufferEvicted)
    policies := p.policies ++ [policy] }

/-- The device behind the store failed: the store holds nothing, and what it held is on the
media. -/
def freeze (p : Pipeline) : Pipeline :=
  { p.lose p.store .leftOnMedia with store := [], handedOut := false, isTransient := true }

def evictFromStore (p : Pipeline) (evicted : Nat) : Pipeline :=
  { p.lose (p.store.take evicted) .storeEvicted with
    store := p.store.drop evicted
    handedOut := p.handedOut && evicted == 0 }

/-- `MarkSent` takes the head only when it was handed out. -/
def markSent (p : Pipeline) : Pipeline :=
  if p.handedOut then { p with store := p.store.tail, handedOut := false } else p

/-- The store's verdict on the record it turned away: refused, or left to the caller. -/
def settle (p : Pipeline) : Pipeline :=
  { (if p.isTransient then p else p.lose p.turnedAway.toList .storeRefused) with
    turnedAway := none }

end Pipeline

/-- What other tasks do to the buffer: it evicts only under Oldest. -/
inductive BufferWrite : Pipeline → Pipeline → Prop
  | mk (p : Pipeline) (policy : DiscardPolicy) (evicted : Nat) (kept : Option Bytes)
      (hpolicy : 0 < evicted → policy = .oldest) :
      BufferWrite p (p.bufferWrite policy evicted kept)

/-- What a call answers and does, in a system with nothing else going on. -/
inductive Effect : Pipeline → (request : Request Item) → request.Answer → Pipeline → Prop
  | bufferEmpty (p : Pipeline) (maxSize : Nat) : Effect p (.bufferRead maxSize) none p
  | bufferRead (p : Pipeline) (maxSize : Nat) (r : Item) (rest : List Item)
      (h : p.buffer = r :: rest) :
      Effect p (.bufferRead maxSize) (some r) { p with buffer := rest }
  | bufferIsFull (p : Pipeline) (full : Bool) : Effect p .bufferIsFull full p
  | storeKeeps (p : Pipeline) (r : Item) (evicted : Nat) (h : p.isTransient = false) :
      Effect p (.storeWrite r) .kept
        { p.evictFromStore evicted with store := p.store.drop evicted ++ [r] }
  | storeLoses (p : Pipeline) (r : Item) (evicted : Nat) (h : p.isTransient = false) :
      Effect p (.storeWrite r) .lost ((p.evictFromStore evicted).lose [r] .storeLost)
  | storeTurnsAway (p : Pipeline) (r : Item) (evicted : Nat) :
      Effect p (.storeWrite r) .notRetained { p.evictFromStore evicted with turnedAway := some r }
  | storeIsTransient (p : Pipeline) : Effect p .storeIsTransient p.isTransient p.settle
  | storeHandsOutNothing (p : Pipeline) (maxSize : Nat) :
      Effect p (.storeReadNextUnsent maxSize) none p
  | storeHandsOut (p : Pipeline) (maxSize : Nat) (steppedPast : List Item) (r : Item)
      (rest : List Item) (h : p.store = steppedPast ++ r :: rest) :
      Effect p (.storeReadNextUnsent maxSize) (some r)
        { p.lose steppedPast .storeLost with store := r :: rest, handedOut := true }
  | transientHandsOut (p : Pipeline) (maxSize : Nat) (r : Item) (h : p.isTransient = true)
      (hr : r.arrival = none) : Effect p (.storeReadNextUnsent maxSize) (some r) p
  | storeMarkSent (p : Pipeline) : Effect p .storeMarkSent () p.markSent
  | storeHasUnsent (p : Pipeline) (unsent : Bool) : Effect p .storeHasUnsent unsent p
  | senderSend (p : Pipeline) (r : Item) (accepted : Bool) :
      Effect p (.senderSend r) accepted
        { p with sent := p.sent ++ (if accepted then [r] else []) }
  | getDiscardPolicy (p : Pipeline) (policy : DiscardPolicy) :
      Effect p .getDiscardPolicy policy { p with policies := p.policies ++ [policy] }
  | isEventReportingOn (p : Pipeline) (isOn : Bool) : Effect p .isEventReportingOn isOn p
  | onHalt (p : Pipeline) : Effect p .onHalt () p
  | errorHandler (p : Pipeline) (event : ErrorEvent) : Effect p (.errorHandler event) () p
  | formatReport (p : Pipeline) (capacity : Nat) (event : ErrorEvent) (r : Item)
      (hr : r.arrival = none) : Effect p (.formatReport capacity event) r p
  | storeMarkSentFreezes (p : Pipeline) : Effect p .storeMarkSent () p.markSent.freeze

/-- The calls at which the store may find its device failed before it answers. A failure at
`MarkSent` comes with the mark: the record is sent and not left behind. -/
def mayFreeze : Request Item → Bool
  | .storeWrite _ | .storeReadNextUnsent _ | .storeIsTransient | .storeHasUnsent => true
  | _ => false

/-- What a call answers and does while other tasks write the buffer and the store may freeze. -/
def Step (p : Pipeline) (request : Request Item) (answer : request.Answer) (p' : Pipeline) : Prop :=
  ∃ p₁, Relation.ReflTransGen BufferWrite p p₁ ∧
    (Effect p₁ request answer p' ∨
      (mayFreeze request = true ∧ Effect p₁.freeze request answer p'))

/-- A system whose queues, read off its state by `view`, move as `Step` allows. -/
structure IsPipeline {ε : Type} (P : Parts ε Item) (view : ε → Pipeline) : Prop where
  step : ∀ request env table,
    Step (view env) request (P.answer request env table).1 (view (P.answer request env table).2.1)

end SolidSyslog.Service
