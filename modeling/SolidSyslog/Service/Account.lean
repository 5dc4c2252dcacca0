import SolidSyslog.Service.Conservation
import SolidSyslog.Lib.Latch
import SolidSyslog.Lib.Trace

/-!
# The account kept over the calls of a pass

`Accounted` joins the law of the queues with what the trace must show: a record of the buffer goes
to the sender only from the store's hand or past a store that says it is transient, a mark follows
the send it is for, a held record is dropped only from behind a full buffer under Oldest, and over
a store that is transient throughout each run of such drops is reported once. There is one lemma
for each call.
-/

namespace SolidSyslog.Service

open Lib

/-- The records dropped from the slot. -/
def droppedIn (trace : List (Entry Item)) : List Item :=
  trace.filterMap fun
    | .dropped r => some r
    | .call _ _ => none

/-- The event of a run of drops. -/
def heldRecordDroppedEvent : ErrorEvent :=
  ⟨.warning, .bufferRecordsLost, false, "SolidSyslog", LoggerError.heldRecordDropped.code, 0⟩

/-- The runs of drops: a drop is a fault, and the sender taking a record of the buffer ends the
run. -/
def observe : Entry Item → Option Observation
  | .dropped _ => some .fault
  | .call (.errorHandler event) _ => if event = heldRecordDroppedEvent then some .report else none
  | .call (.senderSend r) accepted =>
    if accepted = true ∧ r.arrival.isSome = true then some .clear else none
  | .call _ _ => none

/-- What may come after what in the calls of a pass. -/
def Allowed (before : List (Entry Item)) : Entry Item → Prop
  | .call (.senderSend r) _ => r.arrival.isSome = true →
      (∃ earlier maxSize, before = earlier ++ [.call (.storeReadNextUnsent maxSize) (some r)]) ∨
      (∃ earlier, before = earlier ++
        [.call (.storeWrite r) .notRetained, .call .storeIsTransient true])
  | .call .storeMarkSent _ => ∃ earlier maxSize r, before = earlier ++
      [.call (.storeReadNextUnsent maxSize) (some r), .call (.senderSend r) true]
  | .dropped _ => ∃ earlier, before = earlier ++
      [.call .bufferIsFull true, .call .getDiscardPolicy .oldest]
  | .call _ _ => True

/-- A store that is transient throughout has cost no record; only the buffer has. -/
def LosesNothing (p : Pipeline) : Prop :=
  p.isTransient = true ∧ ∀ x ∈ p.lost, x.2 = Loss.bufferEvicted

/-- The account with `held` in the slot; `latched` while a run of drops is under way. The first
argument says whether the store is transient throughout. -/
structure Accounted (throughout : Bool) (p : Pipeline) (trace : List (Entry Item))
    (held : List Item) (latched : Bool) : Prop where
  conserved : Conserved p held (droppedIn trace)
  allowed : Always Allowed trace
  transient : throughout = true → LosesNothing p
  runs : throughout = true → RunsReported false (trace.filterMap observe) ∧
    inRun false (trace.filterMap observe) = latched

/-! ## What the calls do to a transient store -/

theorem LosesNothing.bufferWrite {p p' : Pipeline} (h : LosesNothing p) (hstep : BufferWrite p p') :
    LosesNothing p' := by
  obtain ⟨policy, evicted, kept, -⟩ := hstep
  refine ⟨h.1, fun x hx => ?_⟩
  rcases List.mem_append.1 hx with hx | hx
  · exact h.2 x hx
  · obtain ⟨item, -, rfl⟩ := List.mem_map.1 hx
    rfl

theorem LosesNothing.freeze {p : Pipeline} (h : LosesNothing p) (hstore : p.store = []) :
    LosesNothing p.freeze := by
  refine ⟨rfl, fun x hx => h.2 x ?_⟩
  simpa [Pipeline.freeze, Pipeline.lose, hstore] using hx

theorem LosesNothing.evictFromStore {p : Pipeline} (h : LosesNothing p) (hstore : p.store = [])
    (evicted : Nat) : LosesNothing (p.evictFromStore evicted) := by
  refine ⟨h.1, fun x hx => h.2 x ?_⟩
  simpa [Pipeline.evictFromStore, Pipeline.lose, hstore] using hx

theorem markSent_isTransient (p : Pipeline) : p.markSent.isTransient = p.isTransient := by
  unfold Pipeline.markSent
  split <;> rfl

theorem markSent_lost (p : Pipeline) : p.markSent.lost = p.lost := by
  unfold Pipeline.markSent
  split <;> rfl

namespace Accounted

variable {throughout latched : Bool} {p p' : Pipeline} {trace : List (Entry Item)}
  {held : List Item} {r : Item}

theorem bufferWrite (h : Accounted throughout p trace held latched) (hstep : BufferWrite p p') :
    Accounted throughout p' trace held latched :=
  ⟨h.conserved.bufferWrite hstep, h.allowed, fun ht => (h.transient ht).bufferWrite hstep, h.runs⟩

theorem bufferWrites (h : Accounted throughout p trace held latched)
    (hsteps : Relation.ReflTransGen BufferWrite p p') :
    Accounted throughout p' trace held latched := by
  induction hsteps with
  | refl => exact h
  | tail _ hstep ih => exact ih.bufferWrite hstep

theorem freeze (h : Accounted throughout p trace held latched) :
    Accounted throughout p.freeze trace held latched where
  conserved := h.conserved.freeze
  allowed := h.allowed
  transient ht := (h.transient ht).freeze (h.conserved.transient (h.transient ht).1).1
  runs := h.runs

theorem evictFromStore (h : Accounted throughout p trace held latched) (evicted : Nat) :
    Accounted throughout (p.evictFromStore evicted) trace held latched where
  conserved := h.conserved.evictFromStore evicted
  allowed := h.allowed
  transient ht :=
    (h.transient ht).evictFromStore (h.conserved.transient (h.transient ht).1).1 evicted
  runs := h.runs

/-- A call that is no fault, no report and no end of a run adds nothing to the runs. -/
theorem note (h : Accounted throughout p trace held latched) (request : Request Item)
    (answer : request.Answer) (hallowed : Allowed trace (.call request answer))
    (hobserve : observe (.call request answer) = none) :
    Accounted throughout p (trace ++ [.call request answer]) held latched where
  conserved := by simpa [droppedIn] using h.conserved
  allowed := h.allowed.concat hallowed
  transient := h.transient
  runs ht := by simpa [List.filterMap_append, hobserve] using h.runs ht

theorem not_throughout (h : Accounted throughout p trace held latched)
    (ht : p.isTransient = false) : throughout = false := by
  cases throughout with
  | false => rfl
  | true =>
    have := (h.transient rfl).1
    simp [ht] at this

/-- Where the store is not transient throughout, runs of drops are not followed. -/
theorem relatch (h : Accounted throughout p trace held latched) (ht : throughout = false)
    (latched' : Bool) : Accounted throughout p trace held latched' :=
  ⟨h.conserved, h.allowed, h.transient, fun ht' => by simp [ht] at ht'⟩

/-! ## One lemma for each call -/

/-- Before a call takes effect the buffer may be written and the store may freeze. -/
theorem settled (h : Accounted throughout p trace held latched) {request : Request Item}
    {answer : request.Answer} (hstep : Step p request answer p') :
    ∃ q, Accounted throughout q trace held latched ∧ Effect q request answer p' ∧
      (p.isTransient = true → q.isTransient = true) ∧ q.turnedAway = p.turnedAway ∧
      p.policies ⊆ q.policies := by
  obtain ⟨p₁, hwrites, heffect⟩ := hstep
  have hkeep : p₁.isTransient = p.isTransient ∧ p₁.turnedAway = p.turnedAway ∧
      p.policies ⊆ p₁.policies := by
    clear heffect
    induction hwrites with
    | refl => exact ⟨rfl, rfl, List.Subset.refl _⟩
    | tail _ hwrite ih =>
      obtain ⟨policy, evicted, kept, -⟩ := hwrite
      exact ⟨ih.1, ih.2.1, List.subset_append_of_subset_left _ ih.2.2⟩
  have h₁ := h.bufferWrites hwrites
  rcases heffect with heffect | ⟨-, heffect⟩
  · exact ⟨p₁, h₁, heffect, fun ht => by rw [hkeep.1, ht], hkeep.2⟩
  · exact ⟨p₁.freeze, h₁.freeze, heffect, fun _ => rfl, hkeep.2⟩

theorem settle_isTransient (p : Pipeline) : p.settle.isTransient = p.isTransient := by
  unfold Pipeline.settle
  split <;> rfl

theorem bufferWrites_isTransient (hwrites : Relation.ReflTransGen BufferWrite p p') :
    p'.isTransient = p.isTransient := by
  induction hwrites with
  | refl => rfl
  | tail _ hwrite ih =>
    obtain ⟨policy, evicted, kept, -⟩ := hwrite
    exact ih

/-- A store that froze stays frozen. -/
theorem stays_transient {request : Request Item} {answer : request.Answer}
    (hstep : Step p request answer p') (ht : p.isTransient = true) : p'.isTransient = true := by
  obtain ⟨p₁, hwrites, heffect⟩ := hstep
  have ht₁ : p₁.isTransient = true := by rw [bufferWrites_isTransient hwrites, ht]
  have hkeeps : ∀ {q : Pipeline}, q.isTransient = true → Effect q request answer p' →
      p'.isTransient = true := by
    intro q hq heffect
    cases heffect <;>
      simp_all [Pipeline.evictFromStore, Pipeline.lose, markSent_isTransient, settle_isTransient,
        Pipeline.freeze]
  rcases heffect with heffect | ⟨-, heffect⟩
  · exact hkeeps ht₁ heffect
  · exact hkeeps rfl heffect

/-- A call that moves no record. -/
def quiet : Request Item → Prop
  | .bufferIsFull | .storeHasUnsent | .getDiscardPolicy | .isEventReportingOn | .onHalt
  | .formatReport _ _ => True
  | .errorHandler event => event ≠ heldRecordDroppedEvent
  | _ => False

theorem ofQuiet (h : Accounted throughout p trace held latched) {request : Request Item}
    {answer : request.Answer} (hquiet : quiet request) (hstep : Step p request answer p') :
    Accounted throughout p' (trace ++ [.call request answer]) held latched := by
  obtain ⟨q, hq, heffect, -⟩ := h.settled hstep
  cases heffect with
  | bufferIsFull => exact hq.note _ _ trivial rfl
  | storeHasUnsent => exact hq.note _ _ trivial rfl
  | getDiscardPolicy =>
    next policy =>
    have hnote := hq.note .getDiscardPolicy policy trivial rfl
    exact ⟨hnote.conserved.answerPolicy policy, hnote.allowed, hnote.transient, hnote.runs⟩
  | isEventReportingOn => exact hq.note _ _ trivial rfl
  | onHalt => exact hq.note _ _ trivial rfl
  | errorHandler => exact hq.note _ _ trivial (if_neg hquiet)
  | formatReport => exact hq.note _ _ trivial rfl
  | _ => exact hquiet.elim

theorem bufferRead (h : Accounted throughout p trace [] latched) {maxSize : Nat}
    {next : Option Item} (hstep : Step p (.bufferRead maxSize) next p') :
    Accounted throughout p' (trace ++ [.call (.bufferRead maxSize) next]) next.toList latched ∧
      ∀ r, next = some r → r.arrival.isSome = true := by
  obtain ⟨q, hq, heffect, -⟩ := h.settled hstep
  have hnote := hq.note (.bufferRead maxSize) next trivial rfl
  cases heffect with
  | bufferEmpty => exact ⟨hnote, fun r hr => by cases hr⟩
  | bufferRead =>
    next r rest hbuffer =>
    refine ⟨⟨hnote.conserved.hold hbuffer, hnote.allowed, hnote.transient, hnote.runs⟩, ?_⟩
    intro x hx
    cases hx
    exact hq.conserved.fromBuffer r (by rw [hbuffer]; exact List.mem_cons_self)

/-- A store that answers anything but `notRetained` is not transient, and has the record. -/
theorem storeWrite (h : Accounted throughout p trace [r] latched) {result : StoreWriteResult}
    (hstep : Step p (.storeWrite r) result p') :
    (result = .notRetained → p'.turnedAway = some r ∧
      Accounted throughout p' (trace ++ [.call (.storeWrite r) result]) [r] latched) ∧
    (result ≠ .notRetained → throughout = false ∧
      Accounted throughout p' (trace ++ [.call (.storeWrite r) result]) [] latched) := by
  obtain ⟨q, hq, heffect, -⟩ := h.settled hstep
  cases heffect with
  | storeKeeps =>
    next evicted ht =>
    have hnote := (hq.evictFromStore evicted).note (.storeWrite r) .kept trivial rfl
    refine ⟨fun hr => (by cases hr), fun _ => ⟨hq.not_throughout ht, ?_⟩⟩
    exact ⟨hnote.conserved.keep ht, hnote.allowed, hnote.transient, hnote.runs⟩
  | storeLoses =>
    next evicted ht =>
    have hnote := (hq.evictFromStore evicted).note (.storeWrite r) .lost trivial rfl
    refine ⟨fun hr => (by cases hr), fun _ => ⟨hq.not_throughout ht, ?_⟩⟩
    refine ⟨hnote.conserved.lose (by decide) (by decide), hnote.allowed,
      fun hthroughout => ?_, hnote.runs⟩
    simp [hq.not_throughout ht] at hthroughout
  | storeTurnsAway =>
    next evicted =>
    have hnote := (hq.evictFromStore evicted).note (.storeWrite r) .notRetained trivial rfl
    refine ⟨fun _ => ⟨rfl, ?_⟩, fun hr => absurd rfl hr⟩
    exact ⟨hnote.conserved.turnAway _, hnote.allowed, hnote.transient, hnote.runs⟩

/-- A store that is not transient has refused the record it turned away. -/
theorem storeIsTransient (h : Accounted throughout p trace [r] latched)
    (haway : p.turnedAway = some r) {answer : Bool} (hstep : Step p .storeIsTransient answer p') :
    (answer = true → p'.isTransient = true ∧
      Accounted throughout p' (trace ++ [.call .storeIsTransient answer]) [r] latched) ∧
    (answer = false → throughout = false ∧
      Accounted throughout p' (trace ++ [.call .storeIsTransient answer]) [] latched) := by
  obtain ⟨q, hq, heffect, -, hqaway, -⟩ := h.settled hstep
  cases heffect with
  | storeIsTransient =>
    have hnote := hq.note .storeIsTransient q.isTransient trivial rfl
    refine ⟨fun ht => ?_, fun ht => ⟨hq.not_throughout ht, ?_⟩⟩
    · have hsettle : q.settle = { q with turnedAway := none } := by simp [Pipeline.settle, ht]
      rw [hsettle]
      exact ⟨ht, hnote.conserved.turnAway _, hnote.allowed, hnote.transient, hnote.runs⟩
    · have hsettle : q.settle = { q.lose [r] .storeRefused with turnedAway := none } := by
        simp [Pipeline.settle, ht, hqaway, haway]
      rw [hsettle]
      refine ⟨(hnote.conserved.lose (by decide) (by decide)).turnAway _, hnote.allowed,
        fun h => ?_, hnote.runs⟩
      simp [hq.not_throughout ht] at h

/-- The sender takes the record in the slot, or leaves it there. -/
theorem senderSend (h : Accounted throughout p trace [r] latched)
    (hdirect : p.isTransient = true ∨ r.arrival = none) {accepted : Bool}
    (hallowed : Allowed trace (.call (.senderSend r) accepted))
    (hstep : Step p (.senderSend r) accepted p') :
    Accounted throughout p' (trace ++ [.call (.senderSend r) accepted])
      (if accepted then [] else [r]) (latched && !(accepted && r.arrival.isSome)) := by
  obtain ⟨q, hq, heffect, ht, -⟩ := h.settled hstep
  cases heffect with
  | senderSend =>
    cases accepted with
    | false => simpa using hq.note (.senderSend r) false hallowed rfl
    | true =>
      refine ⟨?_, hq.allowed.concat hallowed, hq.transient, fun hthroughout => ?_⟩
      · have := hq.conserved.send (hdirect.imp_left ht)
        simpa [droppedIn] using this
      · obtain ⟨hruns, hin⟩ := hq.runs hthroughout
        cases hr : r.arrival.isSome with
        | false => simpa [List.filterMap_append, observe, hr] using ⟨hruns, hin⟩
        | true =>
          have hobs : (trace ++ [Entry.call (.senderSend r) true]).filterMap observe =
              trace.filterMap observe ++ [.clear] := by
            simp [List.filterMap_append, observe, hr]
          rw [hobs]
          refine ⟨hruns.append ?_, ?_⟩
          · cases inRun false (trace.filterMap observe) <;> exact trivial
          · rw [inRun_append]
            simp [inRun]

theorem storeReadNextUnsent (h : Accounted throughout p trace [] latched) {maxSize : Nat}
    {next : Option Item} (hstep : Step p (.storeReadNextUnsent maxSize) next p') :
    Accounted throughout p' (trace ++ [.call (.storeReadNextUnsent maxSize) next]) [] latched ∧
      ∀ r, next = some r → Conserved.Staged p' r ∧ (throughout = true → r.arrival = none) := by
  obtain ⟨q, hq, heffect, -⟩ := h.settled hstep
  have hnote := hq.note (.storeReadNextUnsent maxSize) next trivial rfl
  cases heffect with
  | storeHandsOutNothing => exact ⟨hnote, fun r hr => by cases hr⟩
  | storeHandsOut =>
    next steppedPast r rest hstore =>
    have hretains : throughout = false := by
      refine hq.not_throughout (Bool.eq_false_iff.2 fun ht => ?_)
      have := (hq.conserved.transient ht).1
      simp [hstore] at this
    refine ⟨⟨hnote.conserved.stepPast hstore, hnote.allowed, fun h => ?_, hnote.runs⟩, ?_⟩
    · simp [hretains] at h
    · intro x hx
      cases hx
      exact ⟨.inl ⟨rfl, rest, rfl⟩, fun h => by simp [hretains] at h⟩
  | transientHandsOut =>
    next r hr ht =>
    refine ⟨hnote, fun x hx => ?_⟩
    cases hx
    exact ⟨.inr ⟨(hq.conserved.transient ht).2, hr⟩, fun _ => hr⟩

/-- The sender's answer to a record the store handed out; one it took is still to be marked. -/
theorem sendStaged (h : Accounted throughout p trace [] latched) (hstaged : Conserved.Staged p r)
    (hr : throughout = true → r.arrival = none) {accepted : Bool}
    (hallowed : Allowed trace (.call (.senderSend r) accepted))
    (hstep : Step p (.senderSend r) accepted p') :
    Accounted throughout (if accepted then p'.markSent else p')
      (trace ++ [.call (.senderSend r) accepted]) [] latched := by
  obtain ⟨p₁, hwrites, heffect⟩ := hstep
  have hq : Accounted throughout p₁ trace [] latched ∧ Conserved.Staged p₁ r := by
    clear heffect
    induction hwrites with
    | refl => exact ⟨h, hstaged⟩
    | tail _ hwrite ih => exact ⟨ih.1.bufferWrite hwrite, ih.2.bufferWrite hwrite⟩
  have hobserve : throughout = true → observe (.call (.senderSend r) accepted) = none := by
    intro hthroughout
    simp [observe, hr hthroughout]
  have hruns : throughout = true →
      RunsReported false ((trace ++ [Entry.call (.senderSend r) accepted]).filterMap observe) ∧
      inRun false
        ((trace ++ [Entry.call (.senderSend r) accepted]).filterMap observe) = latched := by
    intro hthroughout
    simpa [List.filterMap_append, hobserve hthroughout] using h.runs hthroughout
  rcases heffect with heffect | ⟨hfreeze, -⟩
  · cases heffect with
    | senderSend =>
      cases accepted with
      | false =>
        refine ⟨?_, hq.1.allowed.concat hallowed, hq.1.transient, hruns⟩
        simpa [droppedIn] using hq.1.conserved
      | true =>
        refine ⟨?_, hq.1.allowed.concat hallowed, fun hthroughout => ?_, hruns⟩
        · simpa [droppedIn] using hq.1.conserved.sendStaged hq.2
        · exact ⟨(markSent_isTransient _).trans (hq.1.transient hthroughout).1, by
            simpa [markSent_lost] using (hq.1.transient hthroughout).2⟩
  · cases hfreeze

theorem storeMarkSent (h : Accounted throughout p.markSent trace [] latched)
    (hallowed : Allowed trace (.call .storeMarkSent ())) (hstep : Step p .storeMarkSent () p') :
    Accounted throughout p' (trace ++ [.call .storeMarkSent ()]) [] latched := by
  obtain ⟨p₁, hwrites, heffect⟩ := hstep
  have hq : Accounted throughout p₁.markSent trace [] latched := by
    clear heffect
    induction hwrites with
    | refl => exact h
    | tail _ hwrite ih => exact ih.bufferWrite (Conserved.markSent_bufferWrite hwrite)
  rcases heffect with heffect | ⟨hfreeze, -⟩
  · cases heffect with
    | storeMarkSent => exact hq.note _ _ hallowed rfl
    | storeMarkSentFreezes => exact hq.freeze.note _ _ hallowed rfl
  · cases hfreeze

theorem getDiscardPolicy_mem {policy : DiscardPolicy} (hstep : Step p .getDiscardPolicy policy p') :
    policy ∈ p'.policies := by
  obtain ⟨p₁, -, heffect | ⟨hfreeze, -⟩⟩ := hstep
  · cases heffect with
    | getDiscardPolicy => simp
  · cases hfreeze

/-- A drop in a run already reported. -/
theorem dropInRun (h : Accounted throughout p trace [r] true) (hpolicy : .oldest ∈ p.policies)
    (ht : p.isTransient = true) (hallowed : Allowed trace (.dropped r)) :
    Accounted throughout p (trace ++ [.dropped r]) [] true where
  conserved := by simpa [droppedIn] using h.conserved.drop hpolicy ht
  allowed := h.allowed.concat hallowed
  transient := h.transient
  runs hthroughout := by
    obtain ⟨hruns, hin⟩ := h.runs hthroughout
    have hobs : (trace ++ [Entry.dropped r]).filterMap observe =
        trace.filterMap observe ++ faultObservations true := by
      simp [List.filterMap_append, observe, faultObservations]
    rw [hobs]
    refine ⟨hruns.append ?_, ?_⟩
    · rw [hin]
      exact runsReported_fault true
    · rw [inRun_append, hin, inRun_fault]

/-- A drop that starts a run, with its report. -/
theorem dropStartsRun (h : Accounted throughout p trace [r] false) (hpolicy : .oldest ∈ p.policies)
    (ht : p.isTransient = true) (hallowed : Allowed trace (.dropped r))
    (hstep : Step p (.errorHandler heldRecordDroppedEvent) () p') :
    Accounted throughout p'
      (trace ++ [.dropped r] ++ [.call (.errorHandler heldRecordDroppedEvent) ()]) [] true := by
  obtain ⟨q, hq, heffect, hqt, -, hpolicies⟩ := h.settled hstep
  cases heffect with
  | errorHandler =>
    refine ⟨?_, (hq.allowed.concat hallowed).concat trivial, hq.transient, fun ht => ?_⟩
    · simpa [droppedIn] using hq.conserved.drop (hpolicies hpolicy) (hqt ht)
    · obtain ⟨hruns, hin⟩ := hq.runs ht
      have hobs : (trace ++ [Entry.dropped r] ++
          [Entry.call (.errorHandler heldRecordDroppedEvent) ()]).filterMap observe =
          trace.filterMap observe ++ faultObservations false := by
        simp [List.filterMap_append, observe, faultObservations]
      rw [hobs]
      refine ⟨hruns.append ?_, ?_⟩
      · rw [hin]
        exact runsReported_fault false
      · rw [inRun_append, hin, inRun_fault]

end Accounted

end SolidSyslog.Service
