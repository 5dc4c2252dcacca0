import SolidSyslog.Service.Pipeline
import Mathlib.Data.List.Count

/-!
# The account of the records the buffer accepted

`Conserved` is the law the pipeline lives under, whatever the slot holds and whatever was dropped
from it: the records still kept stand in the order the buffer accepted them in, and each accepted
record is either kept or in the account of what was lost, once. The lemmas here say that each
movement of records keeps the law; which movement a pass makes is the next module's business.
-/

namespace SolidSyslog.Service

/-- The records of a list that came from the buffer. -/
def arrivals (items : List Item) : List Item :=
  items.filter fun r => r.arrival.isSome

@[simp] theorem arrivals_nil : arrivals [] = [] := rfl

@[simp] theorem arrivals_append (xs ys : List Item) :
    arrivals (xs ++ ys) = arrivals xs ++ arrivals ys :=
  List.filter_append xs ys

theorem arrivals_of_none {r : Item} (h : r.arrival = none) : arrivals [r] = [] := by
  simp [arrivals, h]

theorem arrivals_sublist {xs ys : List Item} (h : xs.Sublist ys) :
    (arrivals xs).Sublist (arrivals ys) :=
  h.filter _

theorem count_take_drop (r : Item) (n : Nat) (xs : List Item) :
    (arrivals (xs.take n)).count r + (arrivals (xs.drop n)).count r = (arrivals xs).count r := by
  rw [← List.count_append, ← arrivals_append, List.take_append_drop]

namespace Pipeline

/-- Where a record of the buffer can be, oldest first. -/
def kept (p : Pipeline) (held : List Item) : List Item :=
  arrivals (p.sent ++ p.store ++ held ++ p.buffer)

/-- The records of the buffer that are in none of these places. -/
def missing (p : Pipeline) (dropped : List Item) : List Item :=
  arrivals (p.lost.map Prod.fst ++ dropped)

end Pipeline

/-- The law of the account, with `held` in the slot and `dropped` gone from it. -/
structure Conserved (p : Pipeline) (held dropped : List Item) : Prop where
  order : (p.kept held).Sublist p.accepted
  account : ∀ r, p.accepted.count r = (p.kept held).count r + (p.missing dropped).count r
  numbered : p.accepted.map Item.arrival = (List.range p.accepted.length).map some
  fromBuffer : ∀ r ∈ p.buffer, r.arrival.isSome = true
  transient : p.isTransient = true → p.store = [] ∧ p.handedOut = false
  blame : (∃ x ∈ p.lost, x.2 = Loss.bufferEvicted) ∨ dropped ≠ [] → .oldest ∈ p.policies
  frozen : (∃ x ∈ p.lost, x.2 = Loss.leftOnMedia) ∨ dropped ≠ [] → p.isTransient = true

namespace Conserved

variable {p p' : Pipeline} {held held' dropped dropped' : List Item} {r : Item}

/-- Records may move to the account of the missing, and nothing else may change. -/
theorem rebalance (h : Conserved p held dropped) (haccepted : p'.accepted = p.accepted)
    (hkept : (p'.kept held').Sublist (p.kept held))
    (hcount : ∀ r, (p'.kept held').count r + (p'.missing dropped').count r =
      (p.kept held).count r + (p.missing dropped).count r)
    (hbuffer : ∀ r ∈ p'.buffer, r ∈ p.buffer)
    (htransient : p'.isTransient = true → p'.store = [] ∧ p'.handedOut = false)
    (hblame : (∃ x ∈ p'.lost, x.2 = Loss.bufferEvicted) ∨ dropped' ≠ [] →
      .oldest ∈ p'.policies)
    (hfrozen : (∃ x ∈ p'.lost, x.2 = Loss.leftOnMedia) ∨ dropped' ≠ [] →
      p'.isTransient = true) : Conserved p' held' dropped' where
  order := by
    rw [haccepted]
    exact hkept.trans h.order
  account r := by rw [haccepted, h.account, hcount]
  numbered := by rw [haccepted, h.numbered]
  fromBuffer r hr := h.fromBuffer r (hbuffer r hr)
  transient := htransient
  blame := hblame
  frozen := hfrozen

theorem nodup_accepted (h : Conserved p held dropped) : p.accepted.Nodup := by
  have hmap : (p.accepted.map Item.arrival).Nodup := by
    rw [h.numbered]
    exact List.nodup_range.map (Option.some_injective _)
  exact hmap.of_map _

/-- A loss for one reason is no loss for another. -/
theorem reason_of_lose {items : List Item} {loss reason : Loss} (hloss : loss ≠ reason)
    (h : (∃ x ∈ (p.lose items loss).lost, x.2 = reason) ∨ dropped ≠ []) :
    (∃ x ∈ p.lost, x.2 = reason) ∨ dropped ≠ [] := by
  refine h.imp_left ?_
  rintro ⟨x, hx, hreason⟩
  rcases List.mem_append.1 hx with hx | hx
  · exact ⟨x, hx, hreason⟩
  · obtain ⟨item, -, rfl⟩ := List.mem_map.1 hx
    exact absurd hreason hloss

/-! ## Movements outside the pass -/

/-- A write of the buffer takes only its oldest records, and puts the new one behind the rest. -/
theorem bufferWrite (h : Conserved p held dropped) (hstep : BufferWrite p p') :
    Conserved p' held dropped := by
  obtain ⟨policy, evicted, kept, hpolicy⟩ := hstep
  have hnew : arrivals (kept.map fun bytes => (⟨bytes, some p.accepted.length⟩ : Item)).toList =
      (kept.map fun bytes => (⟨bytes, some p.accepted.length⟩ : Item)).toList := by
    cases kept <;> simp [arrivals]
  refine ⟨?_, fun r => ?_, ?_, ?_, h.transient, ?_, ?_⟩
  · have hold : (arrivals (p.sent ++ p.store ++ held ++ p.buffer.drop evicted)).Sublist
        p.accepted := by
      refine (arrivals_sublist ?_).trans h.order
      exact (List.Sublist.refl _).append (List.drop_sublist _ _)
    have := hold.append (List.Sublist.refl
      (kept.map fun bytes => (⟨bytes, some p.accepted.length⟩ : Item)).toList)
    simpa [Pipeline.kept, Pipeline.bufferWrite, hnew] using this
  · have hbalance := h.account r
    have hsplit := count_take_drop r evicted p.buffer
    have hfst : (p.buffer.take evicted).map (Prod.fst ∘ fun x => (x, Loss.bufferEvicted)) =
        p.buffer.take evicted := List.map_id'' (fun _ => rfl) _
    simp only [Pipeline.kept, Pipeline.missing, Pipeline.bufferWrite, arrivals_append, hnew,
      List.count_append, List.map_append, List.map_map, hfst] at hbalance ⊢
    omega
  · cases kept with
    | none => simpa [Pipeline.bufferWrite] using h.numbered
    | some bytes =>
      simp [Pipeline.bufferWrite, List.range_succ, h.numbered]
  · intro r hr
    rcases List.mem_append.1 hr with hr | hr
    · exact h.fromBuffer r (List.mem_of_mem_drop hr)
    · cases kept with
      | none => cases hr
      | some bytes =>
        obtain rfl : r = ⟨bytes, some p.accepted.length⟩ := by simpa using hr
        rfl
  · rintro (⟨x, hx, hreason⟩ | hdropped)
    · rcases List.mem_append.1 hx with hx | hx
      · exact List.mem_append_left _ (h.blame (.inl ⟨x, hx, hreason⟩))
      · have hpos : 0 < evicted := by
          rcases Nat.eq_zero_or_pos evicted with rfl | hpos
          · simp at hx
          · exact hpos
        exact List.mem_append_right _ (by simp [hpolicy hpos])
    · exact List.mem_append_left _ (h.blame (.inr hdropped))
  · exact fun hf => h.frozen (reason_of_lose (by decide) hf)

theorem freeze (h : Conserved p held dropped) : Conserved p.freeze held dropped := by
  refine h.rebalance rfl ?_ (fun r => ?_) (fun _ hr => hr) (fun _ => ⟨rfl, rfl⟩)
    (fun hb => h.blame (reason_of_lose (by decide) hb)) (fun _ => rfl)
  · refine arrivals_sublist (List.Sublist.append (List.Sublist.append ?_ (.refl _)) (.refl _))
    exact List.Sublist.append (.refl _) (List.nil_sublist _)
  · have hfst : p.store.map (Prod.fst ∘ fun x => (x, Loss.leftOnMedia)) = p.store :=
      List.map_id'' (fun _ => rfl) _
    simp only [Pipeline.kept, Pipeline.missing, Pipeline.freeze, Pipeline.lose, arrivals_append,
      arrivals_nil, List.count_append, List.map_append, List.map_map, hfst, List.count_nil]
    omega

theorem evictFromStore (h : Conserved p held dropped) (evicted : Nat) :
    Conserved (p.evictFromStore evicted) held dropped := by
  refine h.rebalance rfl ?_ (fun r => ?_) (fun _ hr => hr) (fun ht => ?_)
    (fun hb => h.blame (reason_of_lose (by decide) hb))
    (fun hf => h.frozen (reason_of_lose (by decide) hf))
  · refine arrivals_sublist (List.Sublist.append (List.Sublist.append ?_ (.refl _)) (.refl _))
    exact List.Sublist.append (.refl _) (List.drop_sublist _ _)
  · have hsplit := count_take_drop r evicted p.store
    have hfst : (p.store.take evicted).map (Prod.fst ∘ fun x => (x, Loss.storeEvicted)) =
        p.store.take evicted := List.map_id'' (fun _ => rfl) _
    simp only [Pipeline.kept, Pipeline.missing, Pipeline.evictFromStore, Pipeline.lose,
      arrivals_append, List.count_append, List.map_append, List.map_map, hfst]
    omega
  · obtain ⟨hstore, hhanded⟩ := h.transient ht
    simp [Pipeline.evictFromStore, hstore, hhanded]

/-- The store steps past records it cannot hand out. -/
theorem stepPast (h : Conserved p held dropped) {steppedPast rest : List Item}
    (hstore : p.store = steppedPast ++ r :: rest) :
    Conserved { p.lose steppedPast .storeLost with store := r :: rest, handedOut := true } held
      dropped := by
  refine h.rebalance rfl ?_ (fun x => ?_) (fun _ hr => hr) (fun ht => ?_)
    (fun hb => h.blame (reason_of_lose (by decide) hb))
    (fun hf => h.frozen (reason_of_lose (by decide) hf))
  · refine arrivals_sublist (List.Sublist.append (List.Sublist.append ?_ (.refl _)) (.refl _))
    rw [hstore]
    exact List.Sublist.append (.refl _) (List.sublist_append_right _ _)
  · have hfst : steppedPast.map (Prod.fst ∘ fun x => (x, Loss.storeLost)) = steppedPast :=
      List.map_id'' (fun _ => rfl) _
    simp only [Pipeline.kept, Pipeline.missing, Pipeline.lose, arrivals_append, hstore,
      List.count_append, List.map_append, List.map_map, hfst]
    omega
  · have := (h.transient ht).1
    simp [hstore] at this

theorem answerPolicy (h : Conserved p held dropped) (policy : DiscardPolicy) :
    Conserved { p with policies := p.policies ++ [policy] } held dropped :=
  h.rebalance rfl (.refl _) (fun _ => rfl) (fun _ hr => hr) h.transient
    (fun hb => List.mem_append_left _ (h.blame hb)) h.frozen

/-! ## Movements through the slot -/

theorem turnAway (h : Conserved p held dropped) (away : Option Item) :
    Conserved { p with turnedAway := away } held dropped :=
  h.rebalance rfl (.refl _) (fun _ => rfl) (fun _ hr => hr) h.transient h.blame h.frozen

/-- The head of the buffer moves into the free slot. -/
theorem hold (h : Conserved p [] dropped) {rest : List Item} (hbuffer : p.buffer = r :: rest) :
    Conserved { p with buffer := rest } [r] dropped := by
  have hkept : ({ p with buffer := rest } : Pipeline).kept [r] = p.kept [] := by
    simp only [Pipeline.kept, hbuffer, List.append_nil, List.append_assoc, List.singleton_append]
  refine h.rebalance rfl ?_ (fun x => ?_) (fun x hx => ?_) h.transient h.blame h.frozen
  · rw [hkept]
  · rw [hkept]
    rfl
  · rw [hbuffer]
    exact List.mem_cons_of_mem _ hx

/-- A report takes the free slot, or leaves it. -/
theorem report (hr : r.arrival = none) :
    Conserved p [r] dropped ↔ Conserved p [] dropped := by
  have hkept : p.kept [r] = p.kept [] := by
    simp only [Pipeline.kept, arrivals_append, arrivals_of_none hr, arrivals_nil]
  constructor <;> intro h
  · exact h.rebalance rfl (by rw [hkept]) (fun x => by rw [hkept]) (fun _ hr => hr) h.transient
      h.blame h.frozen
  · exact h.rebalance rfl (by rw [hkept]) (fun x => by rw [hkept]) (fun _ hr => hr) h.transient
      h.blame h.frozen

theorem keep (h : Conserved p [r] dropped) (hstore : p.isTransient = false) :
    Conserved { p with store := p.store ++ [r] } [] dropped := by
  have hkept : ({ p with store := p.store ++ [r] } : Pipeline).kept [] = p.kept [r] := by
    simp only [Pipeline.kept, List.append_nil, List.append_assoc]
  refine h.rebalance rfl ?_ (fun x => ?_) (fun _ hr => hr) (fun ht => ?_) h.blame h.frozen
  · rw [hkept]
  · rw [hkept]
    rfl
  · rw [hstore] at ht
    cases ht

theorem kept_nil_sublist (p : Pipeline) (r : Item) : (p.kept []).Sublist (p.kept [r]) :=
  arrivals_sublist (((List.Sublist.refl _).append (List.nil_sublist _)).append (.refl _))

theorem lose (h : Conserved p [r] dropped) {loss : Loss} (hbuffer : loss ≠ .bufferEvicted)
    (hmedia : loss ≠ .leftOnMedia) : Conserved (p.lose [r] loss) [] dropped := by
  refine h.rebalance rfl (kept_nil_sublist p r) (fun x => ?_) (fun _ hr => hr) h.transient
    (fun hb => h.blame (reason_of_lose hbuffer hb)) (fun hf => h.frozen (reason_of_lose hmedia hf))
  simp only [Pipeline.kept, Pipeline.missing, Pipeline.lose, arrivals_append, List.count_append,
    List.map_append, List.map_cons, List.map_nil, arrivals_nil, List.count_nil]
  omega

theorem drop (h : Conserved p [r] dropped) (hpolicy : .oldest ∈ p.policies)
    (ht : p.isTransient = true) : Conserved p [] (dropped ++ [r]) := by
  refine h.rebalance rfl (kept_nil_sublist p r) (fun x => ?_) (fun _ hr => hr) h.transient
    (fun _ => hpolicy) (fun _ => ht)
  simp only [Pipeline.kept, Pipeline.missing, arrivals_append, List.count_append, arrivals_nil,
    List.count_nil]
  omega

/-- The sender takes the record in the slot, with nothing of the buffer's in the store. -/
theorem send (h : Conserved p [r] dropped) (hstore : p.isTransient = true ∨ r.arrival = none) :
    Conserved { p with sent := p.sent ++ [r] } [] dropped := by
  have hkept : ({ p with sent := p.sent ++ [r] } : Pipeline).kept [] = p.kept [r] := by
    rcases hstore with ht | hr
    · simp only [Pipeline.kept, (h.transient ht).1, List.append_nil]
    · simp only [Pipeline.kept, arrivals_append, arrivals_of_none hr, List.append_nil]
  refine h.rebalance rfl ?_ (fun x => ?_) (fun _ hr => hr) h.transient h.blame h.frozen
  · rw [hkept]
  · rw [hkept]
    rfl

/-! ## A record sent from the store -/

/-- The record in the slot is the one the store handed out and waits to have marked, or one that
did not come from the buffer. -/
def Staged (p : Pipeline) (r : Item) : Prop :=
  (p.handedOut = true ∧ ∃ rest, p.store = r :: rest) ∨ (p.handedOut = false ∧ r.arrival = none)

theorem sendStaged (h : Conserved p [] dropped) (hstaged : Staged p r) :
    Conserved ({ p with sent := p.sent ++ [r] } : Pipeline).markSent [] dropped := by
  rcases hstaged with ⟨hhanded, rest, hstore⟩ | ⟨hhanded, hr⟩
  · have hkept : ({ p with sent := p.sent ++ [r], store := rest, handedOut := false } :
        Pipeline).kept [] = p.kept [] := by
      simp only [Pipeline.kept, hstore, List.append_assoc, List.singleton_append]
    have hmark : ({ p with sent := p.sent ++ [r] } : Pipeline).markSent =
        { p with sent := p.sent ++ [r], store := rest, handedOut := false } := by
      simp [Pipeline.markSent, hhanded, hstore]
    rw [hmark]
    refine h.rebalance rfl ?_ (fun x => ?_) (fun _ hx => hx) (fun ht => ?_) h.blame h.frozen
    · rw [hkept]
    · rw [hkept]
      rfl
    · have := (h.transient ht).1
      rw [hstore] at this
      cases this
  · have hmark : ({ p with sent := p.sent ++ [r] } : Pipeline).markSent =
        { p with sent := p.sent ++ [r] } := by
      simp [Pipeline.markSent, hhanded]
    rw [hmark]
    exact ((report hr).2 h).send (.inr hr)

theorem markSent_bufferWrite (hstep : BufferWrite p p') :
    BufferWrite p.markSent p'.markSent := by
  obtain ⟨policy, evicted, kept, hpolicy⟩ := hstep
  have hcomm : (p.bufferWrite policy evicted kept).markSent =
      p.markSent.bufferWrite policy evicted kept := by
    unfold Pipeline.markSent
    split
    · next hh => rw [if_pos (by exact hh)]; rfl
    · next hh => rw [if_neg (by exact hh)]
  rw [hcomm]
  exact .mk _ policy evicted kept hpolicy

theorem Staged.bufferWrite (h : Staged p r) (hstep : BufferWrite p p') : Staged p' r := by
  obtain ⟨policy, evicted, kept, -⟩ := hstep
  exact h

end Conserved

end SolidSyslog.Service
