import SolidSyslog.Store.LedgerMoves

/-!
# What becomes of a record

A record that was kept is still ahead of the read position, marked as sent, stepped past or evicted
with its block, and only one of these. Where all blocks end in whole records a block that is evicted
has something unread, and every other block that goes has nothing.
-/

namespace SolidSyslog.Store

open Lib

variable {σ : Type} {P : Platform σ} {C : Config}

/-- The records evicted so far. -/
def Ledger.evictions (L : Ledger) : Nat :=
  L.records.countP Kept.evicted

/-- The messages kept, in order. -/
def Ledger.messages (L : Ledger) : List Bytes :=
  L.records.map Kept.message

/-- Ahead of the read position of a sequence. -/
def Kept.isAhead (b : BlockSequence) (r : Kept) : Bool :=
  !r.gone && (r.block != b.readSequence || b.readCursor ≤ r.start)

/-- What may have become of a record: nothing yet, marked, evicted, stepped past. -/
def Kept.fates (b : BlockSequence) (r : Kept) : List Bool :=
  [r.isAhead b, r.marked, r.evicted, r.passed]

/-! ## Messages -/

/-- An append that worked. -/
def Event.isAppend : Event → Bool
  | .call (.append _ _) ok => ok
  | _ => false

theorem messages_map {records : List Kept} {f : Kept → Kept} (hf : ∀ r, (f r).message = r.message) :
    (records.map f).map Kept.message = records.map Kept.message := by
  rw [List.map_map]
  congr 1
  funext r
  exact hf r

theorem message_mark (block : Sequence) (offset : Nat) (r : Kept) :
    (r.mark C block offset).message = r.message := by
  unfold Kept.mark
  split <;> rfl

theorem message_pass (block : Sequence) (start : Nat) (r : Kept) :
    (r.pass block start).message = r.message := by
  unfold Kept.pass
  split <;> rfl

theorem message_dispose (block : Sequence) (r : Kept) : (r.dispose block).message = r.message := by
  unfold Kept.dispose
  split <;> rfl

/-- Only an append adds a message. -/
theorem Ledger.messages_after {L : Ledger} {event : Event} (h : event.isAppend = false) :
    (L.after C event).messages = L.messages := by
  rcases event with ⟨request, answer⟩ | _ | _ | _ | _
  · cases request with
    | append block bytes =>
      cases answer with
      | false => rfl
      | true => cases h
    | acquire block => cases answer <;> rfl
    | dispose block =>
      cases answer with
      | false => rfl
      | true => exact messages_map (message_dispose block)
    | writeAt block offset bytes =>
      cases answer with
      | false => rfl
      | true => exact messages_map (message_mark block offset)
    | sealRecord content => cases answer <;> rfl
    | _ => rfl
  · rfl
  · rfl
  · exact messages_map (message_pass _ _)
  · rfl

theorem messages_extends {t t' : List Event} (h : Extends (fun e => e.isAppend = false) t t') :
    (ledger C t').messages = (ledger C t).messages := by
  obtain ⟨new, rfl, hnew⟩ := h
  induction new using List.reverseRecOn with
  | nil => rw [List.append_nil]
  | append_singleton new event ih =>
    rw [← List.append_assoc, ledger_concat, Ledger.messages_after (hnew event (by simp))]
    exact ih fun e he => hnew e (List.mem_append_left _ he)

/-! ## Evictions -/

theorem evicted_mark (block : Sequence) (offset : Nat) (r : Kept) :
    (r.mark C block offset).evicted = r.evicted := by
  unfold Kept.mark
  split
  · next h => simp [Kept.evicted, h.1]
  · rfl

theorem evicted_pass (block : Sequence) (start : Nat) (r : Kept) :
    (r.pass block start).evicted = r.evicted := by
  unfold Kept.pass
  split
  · next h => simp [Kept.evicted, h.1]
  · rfl

/-- Marking a record or stepping past it evicts nothing, nor takes a message away. -/
theorem Ledger.map_records {L : Ledger} {f : Kept → Kept}
    (hmessage : ∀ r, (f r).message = r.message)
    (hevicted : ∀ r, (f r).evicted = r.evicted) :
    messages { L with records := L.records.map f } = L.messages ∧
      evictions { L with records := L.records.map f } = L.evictions := by
  refine ⟨messages_map hmessage, ?_⟩
  unfold evictions
  rw [List.countP_map]
  congr 1
  funext r
  exact hevicted r

theorem length_keptIn (block : Sequence) (start : Nat) (behind : Bool) (entries : List Entry) :
    (keptIn C block start behind entries).length = entries.length := by
  induction entries generalizing start with
  | nil => rfl
  | cons e entries ih => rw [keptIn, List.length_cons, List.length_cons, ih]

/-- What a dispose evicts: the records of the block that are neither marked nor stepped past. -/
theorem evictions_dispose (L : Ledger) (block : Sequence) :
    (L.after C (.call (.dispose block) true)).evictions = L.evictions +
      L.present.countP fun r => decide (r.block = block) && !r.marked && !r.passed := by
  unfold Ledger.after Ledger.evictions Ledger.present
  dsimp only
  rw [List.countP_map, List.countP_filter]
  induction L.records with
  | nil => rfl
  | cons r records ih =>
    rw [List.countP_cons, List.countP_cons, List.countP_cons, ih]
    have hone : (if (Kept.evicted ∘ Kept.dispose block) r = true then 1 else 0) =
        (if r.evicted = true then 1 else 0) +
          if ((decide (r.block = block) && !r.marked && !r.passed) && !r.gone) = true then 1
            else 0 := by
      unfold Kept.evicted Kept.dispose
      rw [Function.comp_apply]
      by_cases hblock : r.block = block
      · rw [if_pos hblock]
        cases r.gone <;> cases r.marked <;> cases r.passed <;> simp [hblock]
      · rw [if_neg hblock]
        simp [hblock]
    rw [hone]
    omega

/-- What the records of a shelf say of themselves: whether their entry is marked, and whether they
have been stepped past. -/
theorem flags_of_mem_keptIn {block : Sequence} {start : Nat} {behind : Bool} {entries : List Entry}
    {r : Kept} (h : r ∈ keptIn C block start behind entries) :
    (∃ e ∈ entries, r.marked = flagMarksSentOrDiscarded e.flag) ∧
      r.passed = (behind && !r.marked) := by
  induction entries generalizing start with
  | nil => cases h
  | cons e entries ih =>
    rcases List.mem_cons.1 h with rfl | h
    · exact ⟨⟨e, List.mem_cons_self, rfl⟩, rfl⟩
    · obtain ⟨⟨e', he', hmarked⟩, hpassed⟩ := ih h
      exact ⟨⟨e', List.mem_cons_of_mem _ he', hmarked⟩, hpassed⟩

theorem unmarked_of_mem_keptAfter {oldest : Sequence} {blocks : List Block} {r : Kept}
    (hunsent : ∀ e ∈ blocks.flatMap Block.entries, flagMarksSentOrDiscarded e.flag = false)
    (h : r ∈ keptAfter C oldest blocks) : r.marked = false ∧ r.passed = false := by
  induction blocks generalizing oldest with
  | nil => cases h
  | cons b later ih =>
    rw [List.flatMap_cons] at hunsent
    rcases List.mem_append.1 h with h | h
    · obtain ⟨⟨e, he, hmarked⟩, hpassed⟩ := flags_of_mem_keptIn h
      refine ⟨hmarked.trans (hunsent e (List.mem_append_left _ he)), ?_⟩
      rw [hpassed, Bool.false_and]
    · exact ih (fun e he => hunsent e (List.mem_append_right _ he)) h

/-- What a dispose of the read block evicts is what is unread in it. -/
theorem countP_kept {S : Shelf} {oldest : Sequence} (hlength : S.later.length < modulus)
    (hunsent : ∀ e ∈ S.queue, flagMarksSentOrDiscarded e.flag = false) :
    (S.kept C oldest).countP (fun r => decide (r.block = oldest) && !r.marked && !r.passed) =
      S.unread.length := by
  have hlater : (keptAfter C (nextSequence oldest) S.later).countP
      (fun r => decide (r.block = oldest) && !r.marked && !r.passed) = 0 := by
    rw [List.countP_eq_zero]
    intro r hr
    simp [not_oldest_of_mem_keptAfter hlength hr]
  have hbehind : (keptIn C oldest 0 true S.behind).countP
      (fun r => decide (r.block = oldest) && !r.marked && !r.passed) = 0 := by
    rw [List.countP_eq_zero]
    intro r hr
    simp [(flags_of_mem_keptIn hr).2]
  have hunread : (keptIn C oldest (recordsBytes C S.behind).length false S.unread).countP
      (fun r => decide (r.block = oldest) && !r.marked && !r.passed) = S.unread.length := by
    have hall : ∀ r ∈ keptIn C oldest (recordsBytes C S.behind).length false S.unread,
        (decide (r.block = oldest) && !r.marked && !r.passed) = true := by
      intro r hr
      obtain ⟨⟨e, he, hmarked⟩, hpassed⟩ := flags_of_mem_keptIn hr
      rw [hunsent e (List.mem_append_left _ he)] at hmarked
      simp [(mem_keptIn hr).1, hmarked, hpassed]
    rw [List.countP_eq_length.2 hall, length_keptIn]
  rw [Shelf.kept, List.countP_append, List.countP_append, hbehind, hunread, hlater]
  omega

namespace View

variable {v v' : View} {S S' : Shelf} {n : Sequence}

theorem Told.evictions_dropped (h : v.Told C S) (hS : v.Holds C S) (n : Sequence) :
    (ledger C (v.dropped n).trace).evictions = (ledger C v.trace).evictions + S.unread.length := by
  have hledger : ledger C (v.dropped n).trace =
      (ledger C v.trace).after C (.call (.dispose v.oldest) true) := by
    rw [View.dropped, ledger_append]
    rfl
  rw [hledger, evictions_dispose, h.present,
    countP_kept (Nat.lt_of_succ_le hS.length_le) hS.unsent]

/-! ## Whole records only -/

/-- The view holds the shelf, its trace tells of the records on it, and every block ends in a whole
record. -/
structure Accounts (C : Config) (v : View) (S : Shelf) : Prop where
  holds : v.Holds C S
  told : v.Told C S
  whole : ∀ b ∈ S.blocks, b.torn = []

namespace Accounts

/-- A move keeps the blocks whole. -/
theorem whole_move (h : ∀ b ∈ S.blocks, b.torn = []) (hmove : Move C (v, S) (v', S')) :
    ∀ b ∈ S'.blocks, b.torn = [] := by
  have hleft : ∀ b ∈ S.left.blocks, b.torn = [] := by
    obtain ⟨behind, unread, torn, _ | ⟨b, later⟩⟩ := S
    · intro b hb
      rw [List.mem_singleton.1 hb]
      rfl
    · exact fun b' hb' => h b' (List.mem_cons_of_mem _ hb')
  cases hmove with
  | noted aside => exact h
  | filled => exact h
  | spoiled done => exact h
  | drained next done => exact hleft
  | discarded next => exact hleft
  | extended room =>
    rw [Shelf.blocks_extended]
    intro b hb
    rcases List.mem_append.1 hb with hb | hb
    · exact h b hb
    · rw [List.mem_singleton.1 hb]
      rfl
  | stored wellFormed unsent clean =>
    obtain ⟨front, b, hblocks⟩ :=
      (List.eq_nil_or_concat S.blocks).resolve_left (List.cons_ne_nil _ _)
    rw [List.concat_eq_append] at hblocks
    rw [Shelf.blocks_stored, hblocks, List.modifyLast_concat]
    rw [hblocks] at h
    intro b' hb'
    rcases List.mem_append.1 hb' with hb' | hb'
    · exact h b' (List.mem_append_left _ hb')
    · rw [List.mem_singleton.1 hb']
      exact h b (by simp)
  | passed unread => rwa [Shelf.blocks_passed]
  | marked unread =>
    rw [Shelf.blocks_marked unread]
    intro b hb
    rcases List.mem_cons.1 hb with rfl | hb
    · exact h S.readBlock List.mem_cons_self
    · exact h b (List.mem_cons_of_mem _ hb)

theorem move (h : v.Accounts C S) (hmove : Move C (v, S) (v', S')) : v'.Accounts C S' :=
  ⟨h.holds.move hmove, h.told.move h.holds hmove, whole_move h.whole hmove⟩

theorem moves {p q : View × Shelf} (hmoves : Moves C p q) (h : p.1.Accounts C p.2) :
    q.1.Accounts C q.2 := by
  induction hmoves with
  | refl => exact h
  | tail _ hmove ih => exact ih.move hmove

/-- The bytes of a read block with nothing unread are behind the cursor. -/
theorem cursor_le (h : v.Accounts C S) : (recordsBytes C S.behind).length ≤ v.cursor := by
  rcases h.holds.cursor with hcursor | ⟨hdone, hcursor⟩
  · exact hcursor.ge
  · rw [hcursor, Block.bytes, Shelf.readBlock, hdone]
    simp

/-- A block that is not drained has something unread. -/
theorem unread_ne_nil (h : v.Accounts C S) (hbehind : v.cursor < v.readSize) : S.unread ≠ [] := by
  intro hdone
  have hcursor := h.cursor_le
  have htorn : S.torn = [] := h.whole S.readBlock List.mem_cons_self
  rw [h.holds.readSize_eq, Block.bytes, Shelf.readBlock, hdone, htorn] at hbehind
  simp at hbehind
  omega

/-- Every record is ahead of the read position, marked, evicted or stepped past, and only one of
these. -/
theorem one_fate (h : v.Accounts C S) {b : BlockSequence} (hblock : b.readSequence = v.oldest)
    (hcursor : b.readCursor = v.cursor) {r : Kept} (hr : r ∈ (ledger C v.trace).records) :
    (r.fates b).count true = 1 := by
  by_cases hgone : r.gone = true
  · have honce := h.told.once r hr
    cases hmarked : r.marked with
    | true => simp [Kept.fates, Kept.isAhead, Kept.evicted, hgone, hmarked, honce hmarked]
    | false => cases hpassed : r.passed <;>
        simp [Kept.fates, Kept.isAhead, Kept.evicted, hgone, hmarked, hpassed]
  · have hthere : r ∈ S.kept C v.oldest := by
      rw [← h.told.present]
      exact List.mem_filter.2 ⟨hr, by simpa using hgone⟩
    have hpresent : r.gone = false := by simpa using hgone
    have hlength : S.later.length < modulus := Nat.lt_of_succ_le h.holds.length_le
    have hahead : r.isAhead b = true → r.marked = false → r.passed = false →
        (r.fates b).count true = 1 := by
      intro hyes hmarked hpassed
      simp [Kept.fates, Kept.evicted, hpresent, hyes, hmarked, hpassed]
    rcases List.mem_append.1 hthere with hr | hr
    · -- behind the read position: marked or stepped past
      obtain ⟨hin, -, -, hend⟩ := mem_keptIn hr
      have hpassed := (flags_of_mem_keptIn hr).2
      have hpos := C.recordSize_pos r.message.length
      have hle := h.cursor_le
      have hnot : r.isAhead b = false := by
        rw [Kept.isAhead, hpresent, hin, hblock, hcursor]
        simp
        omega
      cases hmarked : r.marked <;>
        simp [Kept.fates, Kept.evicted, hpresent, hnot, hpassed, hmarked]
    · rcases List.mem_append.1 hr with hr | hr
      · obtain ⟨hin, -, hstart, -⟩ := mem_keptIn hr
        obtain ⟨⟨e, he, hmarked⟩, hpassed⟩ := flags_of_mem_keptIn hr
        rw [h.holds.unsent e (List.mem_append_left _ he)] at hmarked
        have hat := h.holds.cursor_eq (List.ne_nil_of_mem he)
        apply hahead _ hmarked (by rw [hpassed, Bool.false_and])
        rw [Kept.isAhead, hpresent, hcursor, hat]
        simp [hstart]
      · have hother := not_oldest_of_mem_keptAfter hlength hr
        obtain ⟨hmarked, hpassed⟩ := unmarked_of_mem_keptAfter
          (fun e he => h.holds.unsent e (List.mem_append_right _ he)) hr
        apply hahead _ hmarked hpassed
        rw [Kept.isAhead, hpresent, hblock]
        simp [hother]

end Accounts

end View

end SolidSyslog.Store
