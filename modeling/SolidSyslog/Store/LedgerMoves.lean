import SolidSyslog.Store.Ledger

/-!
# The ledger and the shelf

Each move keeps the ledger of the trace and the shelf in step: the records whose block is still
there are those of the shelf.
-/

namespace SolidSyslog.Store

open Lib

variable {C : Config}

namespace Ledger

variable {L : Ledger}

theorem present_map {f : Kept → Kept} (hf : ∀ r, (f r).gone = r.gone) :
    present { L with records := L.records.map f } = L.present.map f := by
  unfold present
  rw [List.filter_map]
  congr 2
  funext r
  rw [Function.comp_apply, hf]

theorem gone_dispose (block : Sequence) (r : Kept) :
    (!(r.dispose block).gone) = (!r.gone && decide (r.block ≠ block)) := by
  unfold Kept.dispose
  by_cases hblock : r.block = block
  · simp [hblock]
  · simp [hblock]

/-- The records of a block go with it. -/
theorem present_dispose (block : Sequence) :
    present { L with records := L.records.map (.dispose block) } =
      L.present.filter fun r => decide (r.block ≠ block) := by
  unfold present
  dsimp only
  induction L.records with
  | nil => rfl
  | cons r records ih =>
    rw [List.map_cons, List.filter_cons, List.filter_cons, gone_dispose]
    by_cases hgone : r.gone = true
    · rw [hgone, ih]
      rfl
    · have hthere : (!r.gone) = true := by simpa using hgone
      rw [hthere, Bool.true_and, if_pos rfl, List.filter_cons, ih]
      by_cases hblock : r.block = block
      · simp [hblock]
      · simp [hblock, Kept.dispose]

theorem gone_mark (block : Sequence) (offset : Nat) (r : Kept) :
    (r.mark C block offset).gone = r.gone := by
  unfold Kept.mark
  split <;> rfl

theorem gone_pass (block : Sequence) (start : Nat) (r : Kept) :
    (r.pass block start).gone = r.gone := by
  unfold Kept.pass
  split <;> rfl

end Ledger

/-! ## What becomes of the records of a shelf -/

namespace Shelf

variable {S : Shelf} {e : Entry} {rest : List Entry} {oldest : Sequence}

theorem kept_left (hlater : S.later ≠ []) :
    S.left.kept C (nextSequence oldest) = keptAfter C (nextSequence oldest) S.later := by
  obtain ⟨behind, unread, torn, _ | ⟨b, later⟩⟩ := S
  · exact absurd rfl hlater
  · rfl

theorem keptAfter_fresh (oldest : Sequence) (blocks : List Block) :
    keptAfter C oldest (blocks ++ [.fresh]) = keptAfter C oldest blocks := by
  induction blocks generalizing oldest with
  | nil => rfl
  | cons b later ih =>
    rw [List.cons_append, keptAfter, keptAfter, ih]

theorem kept_extended (S : Shelf) (oldest : Sequence) :
    S.extended.kept C oldest = S.kept C oldest := by
  rw [kept, kept]
  change _ ++ (_ ++ keptAfter C _ (S.later ++ [.fresh])) = _
  rw [keptAfter_fresh]
  rfl

theorem kept_stored {front : List Block} {b : Block} {write : Sequence}
    (hblocks : S.blocks = front ++ [b]) (hwrite : ahead oldest write = front.length)
    (hwhole : b.torn = []) (e : Entry) :
    (S.stored e).kept C oldest = S.kept C oldest ++
      [⟨write, (b.bytes C).length, e.data, flagMarksSentOrDiscarded e.flag, false, false⟩] := by
  by_cases hlast : S.later = []
  · have hsingle : front = [] ∧ b = S.readBlock := by
      rw [blocks, hlast] at hblocks
      rcases front with _ | ⟨b', front⟩
      · exact ⟨rfl, by simpa using hblocks.symm⟩
      · simp at hblocks
    obtain ⟨rfl, rfl⟩ := hsingle
    have hsame : write = oldest := ahead_eq_zero.1 hwrite
    have htorn : S.torn = [] := hwhole
    rw [stored, if_pos hlast, kept, kept, hlast, hsame]
    dsimp only
    rw [keptIn_concat]
    simp [Block.bytes, readBlock, htorn, keptAfter]
  · obtain ⟨later, b', hlater⟩ := (List.eq_nil_or_concat S.later).resolve_left hlast
    rw [List.concat_eq_append] at hlater
    have hsplit : S.readBlock :: later = front ∧ b' = b := by
      rw [blocks, hlater, ← List.cons_append] at hblocks
      obtain ⟨hfront, hb⟩ := List.append_inj' hblocks rfl
      exact ⟨hfront, by simpa using hb⟩
    obtain ⟨rfl, rfl⟩ := hsplit
    have hne : write ≠ oldest := by
      rintro rfl
      rw [ahead_self] at hwrite
      cases hwrite
    have hstep := ahead_from_next hne
    have hahead : ahead (nextSequence oldest) write = later.length := by
      rw [List.length_cons] at hwrite
      rw [nextSequence]
      omega
    rw [stored, if_neg hlast, kept, kept]
    dsimp only
    rw [hlater, List.modifyLast_concat, keptAfter_concat hahead, keptAfter_concat hahead]
    simp [Block.stored, keptIn_concat, Block.bytes, hwhole]

/-- Every record of a shelf but the one at the read position is in another block, before it or
after it. -/
theorem mem_kept {r : Kept} (hunread : S.unread = e :: rest) (hlength : S.later.length < modulus)
    (hr : r ∈ S.kept C oldest) :
    r = ⟨oldest, (recordsBytes C S.behind).length, e.data, flagMarksSentOrDiscarded e.flag, false,
      false⟩ ∨ r.block ≠ oldest ∨
      r.start + C.recordSize r.message.length ≤ (recordsBytes C S.behind).length ∨
      (recordsBytes C S.behind).length + C.recordSize e.data.length ≤ r.start := by
  rw [kept, hunread] at hr
  rcases List.mem_append.1 hr with hr | hr
  · obtain ⟨-, -, -, hend⟩ := mem_keptIn hr
    exact .inr (.inr (.inl (by omega)))
  · rcases List.mem_append.1 hr with hr | hr
    · rcases List.mem_cons.1 hr with rfl | hr
      · exact .inl rfl
      · obtain ⟨-, -, hstart, -⟩ := mem_keptIn hr
        exact .inr (.inr (.inr hstart))
    · exact .inr (.inl (not_oldest_of_mem_keptAfter hlength hr))

/-- What changes only the record at the read position. -/
theorem map_kept {f : Kept → Kept} (hunread : S.unread = e :: rest)
    (hlength : S.later.length < modulus)
    (hother : ∀ r : Kept, (r.block ≠ oldest ∨
      r.start + C.recordSize r.message.length ≤ (recordsBytes C S.behind).length ∨
      (recordsBytes C S.behind).length + C.recordSize e.data.length ≤ r.start) → f r = r) :
    (S.kept C oldest).map f = keptIn C oldest 0 true S.behind ++
      (f ⟨oldest, (recordsBytes C S.behind).length, e.data, flagMarksSentOrDiscarded e.flag, false,
        false⟩ :: (keptIn C oldest (recordsBytes C (S.behind ++ [e])).length false rest ++
          keptAfter C (nextSequence oldest) S.later)) := by
  have hsame : ∀ records : List Kept, (∀ r ∈ records, f r = r) → records.map f = records :=
    fun records h => (List.map_congr_left h).trans (List.map_id _)
  have hbehind : ∀ r ∈ keptIn C oldest 0 true S.behind, f r = r := by
    intro r hr
    obtain ⟨-, -, -, hend⟩ := mem_keptIn hr
    exact hother r (.inr (.inl (by omega)))
  have hrest : ∀ r ∈ keptIn C oldest (recordsBytes C (S.behind ++ [e])).length false rest,
      f r = r := by
    intro r hr
    obtain ⟨-, -, hstart, -⟩ := mem_keptIn hr
    rw [recordsBytes_concat, List.length_append, Entry.length_bytes] at hstart
    exact hother r (.inr (.inr hstart))
  have hlater : ∀ r ∈ keptAfter C (nextSequence oldest) S.later, f r = r :=
    fun r hr => hother r (.inl (not_oldest_of_mem_keptAfter hlength hr))
  have hnext : (recordsBytes C S.behind).length + C.recordSize e.data.length =
      (recordsBytes C (S.behind ++ [e])).length := by
    rw [recordsBytes_concat, List.length_append, Entry.length_bytes]
  rw [kept, hunread, keptIn, hnext, List.map_append, List.map_append, List.map_cons,
    hsame _ hbehind, hsame _ hrest, hsame _ hlater]
  rfl

end Shelf

/-! ## Moves -/

namespace View

/-- The records of the trace whose block is still there are those of the shelf, the sizes it tells
are those of the blocks, and none of its records is both marked and stepped past. -/
structure Told (C : Config) (v : View) (S : Shelf) : Prop where
  present : (ledger C v.trace).present = S.kept C v.oldest
  size : ∀ {x content}, v.media x = some content → (ledger C v.trace).size x = content.length
  once : ∀ r ∈ (ledger C v.trace).records, r.marked = true → r.passed = false

variable {v v' : View} {S S' : Shelf} {n : Sequence} {e : Entry} {rest : List Entry}

namespace Told

theorem noted (h : v.Told C S) {event : Event} (haside : isAside event = true) :
    (v.traced event).Told C S := by
  have hsame : ledger C (v.traced event).trace = ledger C v.trace := by
    rw [traced, ledger_concat, Ledger.after_aside haside]
  exact ⟨hsame ▸ h.present, hsame ▸ h.size, hsame ▸ h.once⟩

theorem flags (h : v.Told C S) (atCapacity evicted : Bool) :
    Told C { v with atCapacity := atCapacity, evicted := evicted } S :=
  ⟨h.present, h.size, h.once⟩

theorem dropped (h : v.Told C S) (hS : v.Holds C S) (hn : v.Next n) :
    (v.dropped n).Told C S.left := by
  have hledger : ledger C (v.dropped n).trace =
      (ledger C v.trace).after C (.call (.dispose v.oldest) true) := by
    rw [View.dropped, ledger_append]
    rfl
  have hnext := hS.next_eq hn
  have hlater : S.later ≠ [] := fun hlast => hn.write_ne (hS.later_eq_nil_iff.1 hlast).symm
  have hlength : S.later.length < modulus := Nat.lt_of_succ_le hS.length_le
  constructor
  · rw [hledger, Ledger.after, Ledger.present_dispose, h.present, Shelf.kept, List.filter_append,
      List.filter_append]
    have hgone : ∀ start behind entries, (keptIn C v.oldest start behind entries).filter
        (fun r => decide (r.block ≠ v.oldest)) = [] := by
      intro start behind entries
      rw [List.filter_eq_nil_iff]
      intro r hr
      simp [(mem_keptIn hr).1]
    have hkept : (keptAfter C (nextSequence v.oldest) S.later).filter
        (fun r => decide (r.block ≠ v.oldest)) = keptAfter C (nextSequence v.oldest) S.later := by
      rw [List.filter_eq_self]
      intro r hr
      simpa using not_oldest_of_mem_keptAfter hlength hr
    rw [hgone, hgone, hkept]
    change _ = S.left.kept C n
    rw [hnext, Shelf.kept_left hlater]
    rfl
  · intro x content hx
    change Function.update v.media v.oldest none x = some content at hx
    rw [hledger]
    by_cases hold : x = v.oldest
    · rw [hold, Function.update_self] at hx
      cases hx
    · rw [Function.update_of_ne hold] at hx
      exact h.size hx
  · rw [hledger]
    intro r hr
    obtain ⟨r', hr', rfl⟩ := List.mem_map.1 hr
    have honce := h.once r' hr'
    unfold Kept.dispose
    split <;> exact honce

theorem extended (h : v.Told C S) : v.extended.Told C S.extended := by
  have hledger : ledger C v.extended.trace =
      (ledger C v.trace).after C (.call (.acquire (nextSequence v.write)) true) := by
    rw [View.extended, ledger_append]
    rfl
  constructor
  · rw [hledger]
    exact h.present.trans (Shelf.kept_extended S v.oldest).symm
  · intro x content hx
    change Function.update v.media (nextSequence v.write) (some []) x = some content at hx
    rw [hledger]
    change Function.update (ledger C v.trace).size (nextSequence v.write) 0 x = _
    by_cases hnew : x = nextSequence v.write
    · rw [hnew, Function.update_self] at hx ⊢
      cases hx
      rfl
    · rw [Function.update_of_ne hnew] at hx ⊢
      exact h.size hx
  · rw [hledger]
    exact h.once

theorem stored (h : v.Told C S) (hS : v.Holds C S) (hflag : e.flag = sentFlagUnsent)
    (hclean : v.corrupt = false) :
    Told C ((v.traced (.call (.sealRecord (Store.header e.data.length ++ e.data))
      (some (e.sealedContent, e.trailer)))).appended (e.bytes C)) (S.stored e) := by
  obtain ⟨front, b, hblocks⟩ := (List.eq_nil_or_concat S.blocks).resolve_left (List.cons_ne_nil _ _)
  rw [List.concat_eq_append] at hblocks
  have hwhole : b.torn = [] := hS.whole hclean b (by rw [hblocks]; simp)
  have hwrite := hS.write_media hblocks
  have hsize := h.size hwrite
  have hunmarked : flagMarksSentOrDiscarded e.flag = false := by rw [hflag]; rfl
  have hledger : ledger C ((v.traced (.call (.sealRecord (Store.header e.data.length ++ e.data))
      (some (e.sealedContent, e.trailer)))).appended (e.bytes C)).trace =
      ({ ledger C v.trace with sealing := e.data }).after C
        (.call (.append v.write (e.bytes C)) true) := by
    rw [View.appended, View.traced, ledger_concat, ledger_concat]
    rfl
  constructor
  · rw [hledger]
    change ((ledger C v.trace).records ++ [_]).filter _ = (S.stored e).kept C v.oldest
    rw [List.filter_append, Shelf.kept_stored hblocks (hS.write_ahead hblocks) hwhole
      e, ← h.present, ← hsize, hunmarked]
    rfl
  · intro x content hx
    change Function.update v.media v.write ((v.media v.write).map (· ++ e.bytes C)) x =
      some content at hx
    rw [hledger]
    change Function.update (ledger C v.trace).size v.write _ x = _
    by_cases hnew : x = v.write
    · rw [hnew, Function.update_self] at hx ⊢
      rw [hwrite, Option.map_some] at hx
      cases hx
      change (ledger C v.trace).size v.write + _ = _
      rw [hsize, List.length_append]
    · rw [Function.update_of_ne hnew] at hx ⊢
      exact h.size hx
  · rw [hledger]
    intro r hr
    rcases List.mem_append.1 hr with hr | hr
    · exact h.once r hr
    · rw [List.mem_singleton.1 hr]
      rintro ⟨⟩

theorem passed (h : v.Told C S) (hS : v.Holds C S) (hunread : S.unread = e :: rest) :
    Told C { v.traced (.steppedPast v.oldest v.cursor e.data.length) with
      cursor := v.cursor + C.recordSize e.data.length } S.passed := by
  have hcursor := hS.cursor_eq (by rw [hunread]; exact List.cons_ne_nil _ _)
  have hlength : S.later.length < modulus := Nat.lt_of_succ_le hS.length_le
  have hunmarked : flagMarksSentOrDiscarded e.flag = false := by
    apply hS.unsent
    rw [Shelf.queue, hunread]
    exact List.mem_cons_self
  have hledger : ledger C (v.traced (.steppedPast v.oldest v.cursor e.data.length)).trace =
      (ledger C v.trace).after C (.steppedPast v.oldest v.cursor e.data.length) :=
    ledger_concat ..
  have hsize := C.recordSize_pos
  refine ⟨?_, ?_, ?_⟩
  · dsimp only
    rw [hledger, Ledger.after, Ledger.present_map (Ledger.gone_pass _ _), h.present,
      Shelf.map_kept hunread hlength, Shelf.kept, Shelf.passed, hunread]
    · simp [Kept.pass, keptIn_concat, hcursor, hunmarked, View.traced]
    · intro r hr
      unfold Kept.pass
      rw [if_neg]
      rintro ⟨-, hblock, hstart⟩
      have hpos := hsize r.message.length
      have hpos' := hsize e.data.length
      rcases hr with hr | hr | hr
      · exact hr hblock
      · omega
      · omega
  · intro x content hx
    dsimp only
    rw [hledger]
    exact h.size hx
  · dsimp only
    rw [hledger]
    intro r hr
    obtain ⟨r', hr', rfl⟩ := List.mem_map.1 hr
    unfold Kept.pass
    split
    · next hat =>
      intro hmarked
      have hthere : r' ∈ S.kept C v.oldest := by
        rw [← h.present]
        exact List.mem_filter.2 ⟨hr', by simp [hat.1]⟩
      have hpos := hsize r'.message.length
      have hpos' := hsize e.data.length
      rcases Shelf.mem_kept hunread hlength hthere with rfl | hother | hother | hother
      · change flagMarksSentOrDiscarded e.flag = true at hmarked
        rw [hunmarked] at hmarked
        cases hmarked
      · exact absurd hat.2.1 hother
      · omega
      · omega
    · exact h.once r' hr'

theorem marked (h : v.Told C S) (hS : v.Holds C S) (hunread : S.unread = e :: rest) :
    Told C { v with
      cursor := v.cursor + C.recordSize e.data.length
      media := v.media.after
        (.writeAt v.oldest (C.sentFlagOffset v.cursor e.data.length) [sentFlagSent])
      trace := v.trace ++ [.call
        (.writeAt v.oldest (C.sentFlagOffset v.cursor e.data.length) [sentFlagSent]) true] }
      S.marked := by
  have hcursor := hS.cursor_eq (by rw [hunread]; exact List.cons_ne_nil _ _)
  have hlength : S.later.length < modulus := Nat.lt_of_succ_le hS.length_le
  have hledger : ledger C (v.trace ++ [.call
      (.writeAt v.oldest (C.sentFlagOffset v.cursor e.data.length) [sentFlagSent]) true]) =
      (ledger C v.trace).after C
        (.call (.writeAt v.oldest (C.sentFlagOffset v.cursor e.data.length) [sentFlagSent]) true) :=
    ledger_concat ..
  have hsize := C.recordSize_pos
  have hend := C.sentFlagOffset_succ
  refine ⟨?_, ?_, ?_⟩
  · dsimp only
    rw [hledger, Ledger.after, Ledger.present_map (Ledger.gone_mark _ _), h.present,
      Shelf.map_kept hunread hlength, Shelf.kept, Shelf.marked, hunread]
    · simp [Kept.mark, keptIn_concat, hcursor, flagMarksSentOrDiscarded, Entry.length_bytes]
    · intro r hr
      unfold Kept.mark
      rw [if_neg]
      rintro ⟨-, hblock, hoffset⟩
      have hpos := hsize r.message.length
      have hend₁ := hend r.start r.message.length
      have hend₂ := hend v.cursor e.data.length
      rcases hr with hr | hr | hr
      · exact hr hblock
      · have hpos' := hsize e.data.length
        omega
      · omega
  · intro x content hx
    rw [hledger]
    have hlengths : ∀ content', v.media x = some content' → content'.length = content.length := by
      intro content' hold
      change Function.update v.media v.oldest ((v.media v.oldest).map (overwrite · _ _)) x =
        some content at hx
      by_cases holdest : x = v.oldest
      · rw [holdest, Function.update_self, hS.read_media, Option.map_some] at hx
        rw [holdest, hS.read_media] at hold
        cases hx
        cases hold
        rw [length_overwrite]
        have hend₂ := hend v.cursor e.data.length
        rw [Block.bytes, Shelf.readBlock, hunread, List.length_singleton, hend₂, hcursor]
        simp only [recordsBytes_append, recordsBytes_cons, List.length_append, Entry.length_bytes]
        omega
      · rw [Function.update_of_ne holdest, hold] at hx
        cases hx
        rfl
    have hthere : (v.media x).isSome = true := by
      rw [← View.isSome_after_writeAt v.media v.oldest]
      exact Option.isSome_iff_exists.2 ⟨content, hx⟩
    obtain ⟨content', hold⟩ := Option.isSome_iff_exists.1 hthere
    exact (h.size hold).trans (hlengths content' hold)
  · dsimp only
    rw [hledger]
    intro r hr
    obtain ⟨r', hr', rfl⟩ := List.mem_map.1 hr
    unfold Kept.mark
    split
    · next hat =>
      intro _
      have hthere : r' ∈ S.kept C v.oldest := by
        rw [← h.present]
        exact List.mem_filter.2 ⟨hr', by simp [hat.1]⟩
      have hpos := hsize r'.message.length
      have hpos' := hsize e.data.length
      have hend₁ := hend r'.start r'.message.length
      have hend₂ := hend v.cursor e.data.length
      rcases Shelf.mem_kept hunread hlength hthere with rfl | hother | hother | hother
      · rfl
      · exact absurd hat.2.1 hother
      · omega
      · omega
    · exact h.once r' hr'

/-- Every move keeps the ledger and the shelf in step. -/
theorem move (h : v.Told C S) (hS : v.Holds C S) (hmove : Move C (v, S) (v', S')) :
    v'.Told C S' := by
  cases hmove with
  | noted aside => exact h.noted aside
  | filled => exact ⟨h.present, h.size, h.once⟩
  | spoiled done => exact ⟨h.present, h.size, h.once⟩
  | drained next done => exact (h.dropped hS next).flags _ _
  | discarded next => exact (h.dropped hS next).flags _ _
  | extended room => exact h.extended
  | stored wellFormed unsent clean => exact h.stored hS unsent clean
  | passed unread => exact h.passed hS unread
  | marked unread => exact h.marked hS unread

end Told

end View

end SolidSyslog.Store
