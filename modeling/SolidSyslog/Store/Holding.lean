import SolidSyslog.Store.RunInvariant
import SolidSyslog.Store.Shelf

/-!
# A view that holds a shelf

The blocks of the view's run are the blocks of the shelf, and the cursor is at its read position.
Whatever an operation does to a view is a chain of a few moves, and each move of a view that holds a
shelf makes of it one that holds the shelf with the same move made.
-/

namespace SolidSyslog.Store

open Lib

variable {σ : Type} {P : Platform σ} {C : Config}

namespace View

variable {v v' : View} {S S' : Shelf} {n : Sequence} {e : Entry} {rest : List Entry}

/-- The blocks are those of the shelf. The cursor is behind the records behind it, or at the end of
a block whose rest was given up; from there on every record is unsent. A write block that is not
known to be corrupt ends in a whole record. -/
structure Holds (C : Config) (v : View) (S : Shelf) : Prop where
  media : v.media = fun x => (laidOut v.oldest S.blocks x).map (Block.bytes C)
  count : v.count = S.blocks.length
  cursor : v.cursor = (recordsBytes C S.behind).length ∨
    (S.unread = [] ∧ v.cursor = (S.readBlock.bytes C).length)
  wellFormed : ∀ b ∈ S.blocks, b.WellFormed C
  unsent : ∀ e ∈ S.queue, flagMarksSentOrDiscarded e.flag = false
  whole : v.corrupt = false → ∀ b ∈ S.blocks.getLast?, b.torn = []

/-- An event that says nothing of the records. -/
def isAside : Event → Bool
  | .call (.report _ _ _) _ | .call .getDiscardPolicy _ | .call (.sealRecord _) none
  | .handedOut _ _ _ => true
  | _ => false

/-- What an operation does to a view, one move at a time. -/
inductive Move (C : Config) : View × Shelf → View × Shelf → Prop
  | noted {v : View} {S : Shelf} {event : Event} (aside : isAside event = true) :
      Move C (v, S) (v.traced event, S)
  | filled {v : View} {S : Shelf} : Move C (v, S) ({ v with atCapacity := true }, S)
  | spoiled {v : View} {S : Shelf} (done : S.unread = []) :
      Move C (v, S) ({ v with cursor := v.readSize, corrupt := true }, S)
  | drained {v : View} {S : Shelf} {n : Sequence} (next : v.Next n) (done : S.unread = []) :
      Move C (v, S) (v.drained n, S.left)
  | discarded {v : View} {S : Shelf} {n : Sequence} (next : v.Next n) :
      Move C (v, S) (v.discarded n, S.left)
  | extended {v : View} {S : Shelf} (room : v.HasRoom) : Move C (v, S) (v.extended, S.extended)
  | stored {v : View} {S : Shelf} {e : Entry} (wellFormed : e.WellFormed C)
      (unsent : e.flag = sentFlagUnsent) (clean : v.corrupt = false) :
      Move C (v, S) ((v.traced (.call (.sealRecord (Store.header e.data.length ++ e.data))
        (some (e.sealedContent, e.trailer)))).appended (e.bytes C), S.stored e)
  | passed {v : View} {S : Shelf} {e : Entry} {rest : List Entry} (unread : S.unread = e :: rest) :
      Move C (v, S) ({ v.traced (.steppedPast v.oldest v.cursor e.data.length) with
        cursor := v.cursor + C.recordSize e.data.length }, S.passed)
  | marked {v : View} {S : Shelf} {e : Entry} {rest : List Entry} (unread : S.unread = e :: rest) :
      Move C (v, S) ({ v with
        cursor := v.cursor + C.recordSize e.data.length
        media := v.media.after
          (.writeAt v.oldest (C.sentFlagOffset v.cursor e.data.length) [sentFlagSent])
        trace := v.trace ++ [.call
          (.writeAt v.oldest (C.sentFlagOffset v.cursor e.data.length) [sentFlagSent]) true] },
        S.marked)

/-- A chain of moves. -/
abbrev Moves (C : Config) : View × Shelf → View × Shelf → Prop :=
  Relation.ReflTransGen (Move C)

namespace Holds

/-! ## The ends of the run -/

theorem later_eq_nil_iff (h : v.Holds C S) : S.later = [] ↔ v.oldest = v.write := by
  have hcount : ahead v.oldest v.write + 1 = S.later.length + 1 := h.count
  rw [← List.length_eq_zero_iff]
  constructor
  · intro hlast
    rw [hlast] at hcount
    exact (ahead_eq_zero.1 (Nat.succ_injective hcount)).symm
  · intro hsame
    rw [hsame, ahead_self] at hcount
    exact (Nat.succ_injective hcount).symm

theorem length_le (h : v.Holds C S) : S.blocks.length ≤ modulus := by
  have hcount : ahead v.oldest v.write + 1 = S.blocks.length := h.count
  have hlt := ahead_lt v.oldest v.write
  omega

theorem isSome_iff (h : v.Holds C S) {x : Sequence} :
    (v.media x).isSome = true ↔ ahead v.oldest x < S.blocks.length := by
  rw [h.media, ← isSome_laidOut]
  simp

/-- The blocks lie without a hole, so the next is one further. -/
theorem next_eq (h : v.Holds C S) (hn : v.Next n) : n = nextSequence v.oldest := by
  have hpresent := h.isSome_iff.1 hn.present
  have hstep : ahead v.oldest n ≠ 0 := fun hzero => hn.ne (ahead_eq_zero.1 hzero)
  have hne : nextSequence v.oldest ≠ v.oldest := by
    unfold nextSequence
    simp
  have hone : ahead v.oldest (nextSequence v.oldest) = 1 := by
    rw [nextSequence, ahead_next hne, ahead_self]
  by_contra hother
  have hlater : ahead v.oldest (nextSequence v.oldest) < ahead v.oldest n := by
    have hdiffers : ahead v.oldest n ≠ ahead v.oldest (nextSequence v.oldest) :=
      fun heq => hother (ahead_inj.1 heq)
    omega
  have habsent := hn.first _ hne hlater
  have hthere : (v.media (nextSequence v.oldest)).isSome = true := h.isSome_iff.2 (by omega)
  rw [habsent] at hthere
  cases hthere

theorem read_media (h : v.Holds C S) : v.media v.oldest = some (S.readBlock.bytes C) := by
  rw [h.media]
  dsimp only
  rw [Shelf.blocks, laidOut_start]
  rfl

theorem readSize_eq (h : v.Holds C S) : v.readSize = (S.readBlock.bytes C).length := by
  rw [readSize, h.read_media]
  rfl

/-- The last block is the write block. -/
theorem write_ahead (h : v.Holds C S) {front : List Block} {b : Block}
    (hblocks : S.blocks = front ++ [b]) : ahead v.oldest v.write = front.length := by
  have hcount : ahead v.oldest v.write + 1 = S.blocks.length := h.count
  rw [hblocks, List.length_append, List.length_singleton] at hcount
  exact Nat.succ_injective hcount

theorem write_media (h : v.Holds C S) {front : List Block} {b : Block}
    (hblocks : S.blocks = front ++ [b]) : v.media v.write = some (b.bytes C) := by
  rw [h.media]
  dsimp only
  rw [hblocks, laidOut_end (h.write_ahead hblocks)]
  rfl

/-- The cursor of a block with something unread is before it. -/
theorem cursor_eq (h : v.Holds C S) (hunread : S.unread ≠ []) :
    v.cursor = (recordsBytes C S.behind).length := by
  rcases h.cursor with hcursor | ⟨hdone, -⟩
  · exact hcursor
  · exact absurd hdone hunread

theorem queue_wellFormed (h : v.Holds C S) : ∀ e ∈ S.queue, e.WellFormed C := by
  intro e he
  rcases List.mem_append.1 he with he | he
  · exact (h.wellFormed S.readBlock List.mem_cons_self).entries e (List.mem_append_right _ he)
  · obtain ⟨b, hb, he⟩ := List.mem_flatMap.1 he
    exact (h.wellFormed b (List.mem_cons_of_mem _ hb)).entries e he

/-! ## Moves -/

theorem traced (h : v.Holds C S) (event : Event) : (v.traced event).Holds C S :=
  ⟨h.media, h.count, h.cursor, h.wellFormed, h.unsent, h.whole⟩

theorem filled (h : v.Holds C S) : Holds C { v with atCapacity := true } S :=
  ⟨h.media, h.count, h.cursor, h.wellFormed, h.unsent, h.whole⟩

theorem spoiled (h : v.Holds C S) (hdone : S.unread = []) :
    Holds C { v with cursor := v.readSize, corrupt := true } S :=
  ⟨h.media, h.count, .inr ⟨hdone, h.readSize_eq⟩, h.wellFormed, h.unsent, nofun⟩

/-- The oldest block goes. -/
theorem dropped (h : v.Holds C S) (hn : v.Next n) : (v.dropped n).Holds C S.left := by
  have hnext := h.next_eq hn
  have hlater : S.later ≠ [] := fun hlast =>
    hn.write_ne (h.later_eq_nil_iff.1 hlast).symm
  have hblocks := Shelf.blocks_left hlater
  constructor
  · rw [hblocks, hnext]
    change Function.update v.media v.oldest none = _
    funext x
    have htail := congrFun (laidOut_tail (o := v.oldest) h.length_le) x
    change _ = (laidOut (v.oldest + 1) S.later x).map (Block.bytes C)
    rw [htail, h.media]
    by_cases hx : x = v.oldest
    · rw [hx, Function.update_self, Function.update_self]
      rfl
    · rw [Function.update_of_ne hx, Function.update_of_ne hx]
      rfl
  · have hcount : ahead v.oldest v.write + 1 = S.later.length + 1 := h.count
    have hstep := ahead_from_next hn.write_ne
    rw [hblocks, hnext]
    change ahead (v.oldest + 1) v.write + 1 = S.later.length
    omega
  · refine .inl ?_
    obtain ⟨behind, unread, torn, _ | ⟨b, later⟩⟩ := S
    · exact absurd rfl hlater
    · rfl
  · rw [hblocks]
    exact fun b hb => h.wellFormed b (List.mem_cons_of_mem _ hb)
  · rw [Shelf.queue_left]
    exact fun e he => h.unsent e (List.mem_append_right _ he)
  · rw [hblocks]
    intro hclean b hb
    apply h.whole hclean b
    rwa [Shelf.blocks, List.getLast?_cons_of_ne_nil hlater]

theorem flags (h : v.Holds C S) (atCapacity evicted : Bool) :
    Holds C { v with atCapacity := atCapacity, evicted := evicted } S :=
  ⟨h.media, h.count, h.cursor, h.wellFormed, h.unsent, h.whole⟩

/-- A new block is after the last. -/
theorem extended (h : v.Holds C S) (hroom : v.HasRoom) : v.extended.Holds C S.extended := by
  have hahead : ahead v.oldest (v.write + 1) = S.blocks.length := by
    rw [ahead_next hroom]
    exact h.count
  have hlast : ∀ b ∈ (S.blocks ++ [Block.fresh]).getLast?, b = Block.fresh := by simp
  constructor
  · change Function.update v.media (v.write + 1) (some []) = fun x =>
      (laidOut v.oldest S.extended.blocks x).map (Block.bytes C)
    rw [Shelf.blocks_extended, laidOut_concat hahead, h.media]
    funext x
    by_cases hx : x = v.write + 1
    · rw [hx, Function.update_self, Function.update_self]
      rfl
    · rw [Function.update_of_ne hx, Function.update_of_ne hx]
  · change ahead v.oldest (v.write + 1) + 1 = _
    rw [hahead, Shelf.blocks_extended]
    simp
  · exact h.cursor
  · rw [Shelf.blocks_extended]
    intro b hb
    rcases List.mem_append.1 hb with hb | hb
    · exact h.wellFormed b hb
    · rw [List.mem_singleton.1 hb]
      exact Block.wellFormed_fresh
  · rw [Shelf.queue_extended]
    exact h.unsent
  · rw [Shelf.blocks_extended]
    intro _ b hb
    rw [hlast b hb]
    rfl

theorem stored (h : v.Holds C S) (he : e.WellFormed C) (hflag : e.flag = sentFlagUnsent)
    (hclean : v.corrupt = false) : (v.appended (e.bytes C)).Holds C (S.stored e) := by
  obtain ⟨front, b, hblocks⟩ := (List.eq_nil_or_concat S.blocks).resolve_left (List.cons_ne_nil _ _)
  rw [List.concat_eq_append] at hblocks
  have hahead := h.write_ahead hblocks
  have hwhole : b.torn = [] := h.whole hclean b (by rw [hblocks]; simp)
  have hblocks' : (S.stored e).blocks = front ++ [b.stored e] := by
    rw [Shelf.blocks_stored, hblocks, List.modifyLast_concat]
  have hqueue : ∀ e' ∈ (S.stored e).queue, flagMarksSentOrDiscarded e'.flag = false := by
    rw [Shelf.queue_stored]
    intro e' he'
    rcases List.mem_append.1 he' with he' | he'
    · exact h.unsent e' he'
    · rw [List.mem_singleton.1 he', hflag]
      rfl
  constructor
  · rw [hblocks']
    change Function.update v.media v.write ((v.media v.write).map (· ++ e.bytes C)) = _
    rw [h.write_media hblocks, Option.map_some, ← Block.bytes_stored e hwhole]
    funext x
    change _ = (laidOut v.oldest (front ++ [b.stored e]) x).map (Block.bytes C)
    rw [laidOut_concat_update hahead b, ← hblocks, h.media]
    by_cases hx : x = v.write
    · rw [hx, Function.update_self, Function.update_self]
      rfl
    · rw [Function.update_of_ne hx, Function.update_of_ne hx]
  · change v.count = _
    rw [h.count, hblocks, hblocks']
    simp
  · by_cases hlast : S.later = []
    · -- the read block is the one written
      have hcursor : v.cursor = (recordsBytes C S.behind).length := by
        rcases h.cursor with hcursor | ⟨hdone, hcursor⟩
        · exact hcursor
        · have htorn : S.torn = [] := by
            apply h.whole hclean S.readBlock
            rw [Shelf.blocks, hlast]
            rfl
          rw [hcursor, Block.bytes, Shelf.readBlock, hdone, htorn]
          simp
      rw [Shelf.stored, if_pos hlast]
      exact .inl hcursor
    · rw [Shelf.stored, if_neg hlast]
      exact h.cursor
  · rw [hblocks']
    intro b' hb'
    rcases List.mem_append.1 hb' with hb' | hb'
    · exact h.wellFormed b' (by rw [hblocks]; exact List.mem_append_left _ hb')
    · rw [List.mem_singleton.1 hb']
      exact (h.wellFormed b (by rw [hblocks]; simp)).stored he
  · exact hqueue
  · rw [hblocks']
    intro _ b' hb'
    have heq : b' = b.stored e := by simpa using hb'.symm
    rw [heq]
    exact hwhole

theorem passed (h : v.Holds C S) (hunread : S.unread = e :: rest) :
    Holds C { v with cursor := v.cursor + C.recordSize e.data.length } S.passed := by
  have hcursor := h.cursor_eq (by rw [hunread]; exact List.cons_ne_nil _ _)
  constructor
  · rw [Shelf.blocks_passed]
    exact h.media
  · rw [Shelf.blocks_passed]
    exact h.count
  · refine .inl ?_
    dsimp only
    rw [hcursor, Shelf.passed, hunread]
    simp [Entry.length_bytes]
  · rw [Shelf.blocks_passed]
    exact h.wellFormed
  · intro e' he'
    apply h.unsent e'
    rw [Shelf.queue_passed hunread]
    exact List.mem_cons_of_mem _ he'
  · rw [Shelf.blocks_passed]
    exact h.whole

/-- The flag of the record at the cursor is written. -/
theorem marked (h : v.Holds C S) (hunread : S.unread = e :: rest) : Holds C { v with
    cursor := v.cursor + C.recordSize e.data.length
    media := v.media.after
      (.writeAt v.oldest (C.sentFlagOffset v.cursor e.data.length) [sentFlagSent]) } S.marked := by
  have hcursor := h.cursor_eq (by rw [hunread]; exact List.cons_ne_nil _ _)
  have hblocks := Shelf.blocks_marked hunread
  have hread : S.readBlock.bytes C =
      recordsBytes C S.behind ++ e.bytes C ++ (recordsBytes C rest ++ S.torn) := by
    simp [Block.bytes, Shelf.readBlock, hunread]
  have hwritten : overwrite (S.readBlock.bytes C) (C.sentFlagOffset v.cursor e.data.length)
      [sentFlagSent] =
      Block.bytes C ⟨S.behind ++ { e with flag := sentFlagSent } :: rest, S.torn⟩ := by
    rw [hread, hcursor, Entry.overwrite_flag]
    simp [Block.bytes]
  constructor
  · rw [hblocks, laidOut_cons_update v.oldest S.readBlock]
    change Function.update v.media v.oldest ((v.media v.oldest).map (overwrite · _ _)) = _
    rw [h.read_media, Option.map_some, hwritten, h.media]
    funext x
    by_cases hx : x = v.oldest
    · rw [hx, Function.update_self, Function.update_self]
      rfl
    · rw [Function.update_of_ne hx, Function.update_of_ne hx]
      rfl
  · rw [hblocks]
    exact h.count
  · refine .inl ?_
    dsimp only
    rw [hcursor, Shelf.marked, hunread]
    simp [Entry.length_bytes]
  · rw [hblocks]
    intro b hb
    rcases List.mem_cons.1 hb with rfl | hb
    · have hold := h.wellFormed S.readBlock List.mem_cons_self
      refine ⟨?_, hold.torn⟩
      intro e' he'
      have hmem : ∀ e'', e'' ∈ S.behind ∨ e'' = e ∨ e'' ∈ rest → e''.WellFormed C := by
        intro e'' he''
        apply hold.entries
        simp only [Shelf.readBlock, hunread, List.mem_append, List.mem_cons]
        exact he''
      rcases List.mem_append.1 he' with he' | he'
      · exact hmem e' (.inl he')
      · rcases List.mem_cons.1 he' with rfl | he'
        · exact (hmem e (.inr (.inl rfl))).reflagged _
        · exact hmem e' (.inr (.inr he'))
    · exact h.wellFormed b (List.mem_cons_of_mem _ hb)
  · intro e' he'
    apply h.unsent e'
    rw [Shelf.queue_marked hunread]
    exact List.mem_cons_of_mem _ he'
  · rw [hblocks]
    intro hclean b hb
    have hold := h.whole hclean
    rw [Shelf.blocks] at hold
    by_cases hlast : S.later = []
    · rw [hlast] at hb hold
      have heq : b = ⟨S.behind ++ { e with flag := sentFlagSent } :: rest, S.torn⟩ := by
        simpa using hb.symm
      rw [heq]
      exact hold S.readBlock rfl
    · rw [List.getLast?_cons_of_ne_nil hlast] at hb hold
      exact hold b hb

/-- Every move keeps the shelf. -/
theorem move (h : v.Holds C S) (hmove : Move C (v, S) (v', S')) : v'.Holds C S' := by
  cases hmove with
  | noted aside => exact h.traced _
  | filled => exact h.filled
  | spoiled done => exact h.spoiled done
  | drained next done => exact (h.dropped next).flags _ _
  | discarded next => exact (h.dropped next).flags _ _
  | extended room => exact h.extended room
  | stored wellFormed unsent clean => exact (h.traced _).stored wellFormed unsent clean
  | passed unread => exact (h.traced _).passed unread
  | marked unread => exact (h.marked unread).traced _

theorem moves {p q : View × Shelf} (hmoves : Moves C p q) (h : p.1.Holds C p.2) :
    q.1.Holds C q.2 := by
  induction hmoves with
  | refl => exact h
  | tail _ hmove ih => exact ih.move hmove

end Holds

end View

end SolidSyslog.Store
