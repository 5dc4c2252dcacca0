import SolidSyslog.Store.Holding

/-!
# The records of a trace

The trace of a store tells of every record that was kept where it lies and what became of it:
marked as sent, stepped past, or disposed of with its block. On a device that works, the records
whose block is still there are those of the shelf, in the same order.
-/

namespace SolidSyslog.Store

open Lib

variable {C : Config}

/-! ## The ledger -/

/-- A record that was kept: its place, its message, and whether it has been marked, stepped past or
disposed of with its block. -/
structure Kept where
  block : Sequence
  start : Nat
  message : Bytes
  marked : Bool
  passed : Bool
  gone : Bool
  deriving DecidableEq, Repr

namespace Kept

/-- Its flag is written. -/
def mark (C : Config) (block : Sequence) (offset : Nat) (r : Kept) : Kept :=
  if r.gone = false ∧ r.block = block ∧ C.sentFlagOffset r.start r.message.length = offset then
    { r with marked := true }
  else r

/-- It is stepped past. -/
def pass (block : Sequence) (start : Nat) (r : Kept) : Kept :=
  if r.gone = false ∧ r.block = block ∧ r.start = start then { r with passed := true } else r

/-- Its block is disposed of. -/
def dispose (block : Sequence) (r : Kept) : Kept :=
  if r.block = block then { r with gone := true } else r

/-- Disposed of with its block, neither marked nor stepped past before. -/
def evicted (r : Kept) : Bool :=
  r.gone && !r.marked && !r.passed

end Kept

/-- The message sealed last, the size of each block and every record that was kept. -/
structure Ledger where
  sealing : Bytes
  size : Sequence → Nat
  records : List Kept

namespace Ledger

def empty : Ledger :=
  ⟨[], fun _ => 0, []⟩

/-- The records whose block is still there. -/
def present (L : Ledger) : List Kept :=
  L.records.filter fun r => !r.gone

/-- The ledger after an event. -/
def after (C : Config) (L : Ledger) : Event → Ledger
  | .call (.sealRecord content) (some _) => { L with sealing := content.drop contentHeaderSize }
  | .call (.acquire block) true => { L with size := Function.update L.size block 0 }
  | .call (.append block bytes) true =>
    { L with
      size := Function.update L.size block (L.size block + bytes.length)
      records := L.records ++ [⟨block, L.size block, L.sealing, false, false, false⟩] }
  | .call (.writeAt block offset _) true =>
    { L with records := L.records.map (.mark C block offset) }
  | .call (.dispose block) true => { L with records := L.records.map (.dispose block) }
  | .steppedPast block start _ => { L with records := L.records.map (.pass block start) }
  | _ => L

end Ledger

/-- The ledger of a trace. -/
def ledger (C : Config) (trace : List Event) : Ledger :=
  trace.foldl (Ledger.after C) .empty

@[simp] theorem ledger_nil : ledger C [] = .empty :=
  rfl

theorem ledger_concat (trace : List Event) (event : Event) :
    ledger C (trace ++ [event]) = (ledger C trace).after C event := by
  rw [ledger, List.foldl_append]
  rfl

theorem ledger_append (trace more : List Event) :
    ledger C (trace ++ more) = more.foldl (Ledger.after C) (ledger C trace) :=
  List.foldl_append

/-- An event outside the main trace says nothing of records. -/
theorem Ledger.after_of_not_main {L : Ledger} {event : Event} (h : event.isMain = false) :
    L.after C event = L := by
  rcases event with ⟨request, answer⟩ | _ | _ | _ | _
  · cases request <;> first | rfl | cases h
  all_goals cases h

/-- The main trace is enough to tell the records. -/
theorem ledger_main (trace : List Event) : ledger C (main trace) = ledger C trace := by
  induction trace using List.reverseRecOn with
  | nil => rfl
  | append_singleton trace event ih =>
    rw [main_append, main_cons, ledger_concat]
    by_cases hmain : event.isMain = true
    · rw [if_pos hmain, main_nil, ledger_concat, ih]
    · rw [if_neg hmain, main_nil, List.append_nil, ih,
        Ledger.after_of_not_main (by simpa using hmain)]

theorem Ledger.after_aside {L : Ledger} {event : Event} (h : View.isAside event = true) :
    L.after C event = L := by
  rcases event with ⟨request, answer⟩ | _ | _ | _ | _
  · cases request with
    | sealRecord content =>
      cases answer with
      | none => rfl
      | some outcome => cases h
    | report severity category error => rfl
    | getDiscardPolicy => rfl
    | _ => cases h
  · cases h
  · rfl
  · cases h
  · cases h

/-! ## The records of a shelf -/

/-- Records of a block from an offset on; of those behind the read position, the ones that are not
marked have been stepped past. -/
def keptIn (C : Config) (block : Sequence) (start : Nat) (behind : Bool) : List Entry → List Kept
  | [] => []
  | e :: rest =>
    ⟨block, start, e.data, flagMarksSentOrDiscarded e.flag,
      behind && !flagMarksSentOrDiscarded e.flag, false⟩ ::
      keptIn C block (start + C.recordSize e.data.length) behind rest

/-- Records of blocks nothing has been read of. -/
def keptAfter (C : Config) (oldest : Sequence) : List Block → List Kept
  | [] => []
  | b :: later => keptIn C oldest 0 false b.entries ++ keptAfter C (nextSequence oldest) later

/-- The records of a shelf that lies from a number on. -/
def Shelf.kept (C : Config) (oldest : Sequence) (S : Shelf) : List Kept :=
  keptIn C oldest 0 true S.behind ++
    (keptIn C oldest (recordsBytes C S.behind).length false S.unread ++
      keptAfter C (nextSequence oldest) S.later)

variable {block : Sequence} {start : Nat} {behind : Bool} {e : Entry} {r : Kept}

theorem keptIn_append (entries entries' : List Entry) :
    keptIn C block start behind (entries ++ entries') =
    keptIn C block start behind entries ++
      keptIn C block (start + (recordsBytes C entries).length) behind entries' := by
  induction entries generalizing start with
  | nil => rfl
  | cons e entries ih =>
    rw [List.cons_append, keptIn, keptIn, ih, recordsBytes_cons, List.length_append,
      Entry.length_bytes, Nat.add_assoc]
    rfl

theorem keptIn_concat (entries : List Entry) (e : Entry) :
    keptIn C block start behind (entries ++ [e]) =
    keptIn C block start behind entries ++
      [⟨block, start + (recordsBytes C entries).length, e.data, flagMarksSentOrDiscarded e.flag,
        behind && !flagMarksSentOrDiscarded e.flag, false⟩] :=
  keptIn_append entries [e]

/-- Where the records of a block lie. -/
theorem mem_keptIn {entries : List Entry} (h : r ∈ keptIn C block start behind entries) :
    r.block = block ∧ r.gone = false ∧ start ≤ r.start ∧
      r.start + C.recordSize r.message.length ≤ start + (recordsBytes C entries).length := by
  induction entries generalizing start with
  | nil => cases h
  | cons e entries ih =>
    rw [recordsBytes_cons, List.length_append, Entry.length_bytes]
    rcases List.mem_cons.1 h with rfl | h
    · refine ⟨rfl, rfl, le_refl _, ?_⟩
      dsimp only
      omega
    · obtain ⟨hblock, hgone, hstart, hend⟩ := ih h
      exact ⟨hblock, hgone, by omega, by omega⟩

/-- The records of a shelf lie in the blocks from the number on. -/
theorem mem_keptAfter {oldest : Sequence} {blocks : List Block} (hlength : blocks.length < modulus)
    (h : r ∈ keptAfter C oldest blocks) :
      ahead oldest r.block < blocks.length ∧ r.gone = false := by
  induction blocks generalizing oldest with
  | nil => cases h
  | cons b later ih =>
    rw [List.length_cons] at hlength ⊢
    rcases List.mem_append.1 h with h | h
    · obtain ⟨hblock, hgone, -, -⟩ := mem_keptIn h
      rw [hblock, ahead_self]
      exact ⟨Nat.succ_pos _, hgone⟩
    · obtain ⟨hahead, hgone⟩ := ih (by omega) h
      refine ⟨?_, hgone⟩
      by_cases hsame : r.block = oldest
      · rw [hsame, ahead_self]
        exact Nat.succ_pos _
      · have hstep := ahead_from_next hsame
        rw [nextSequence] at hahead
        omega

theorem not_oldest_of_mem_keptAfter {oldest : Sequence} {blocks : List Block}
    (hlength : blocks.length < modulus) (h : r ∈ keptAfter C (nextSequence oldest) blocks) :
    r.block ≠ oldest := by
  rintro rfl
  obtain ⟨hahead, -⟩ := mem_keptAfter hlength h
  have hround := ahead_next_start r.block
  rw [nextSequence] at hahead
  omega

theorem keptAfter_concat {oldest write : Sequence} {blocks : List Block}
    (hwrite : ahead oldest write = blocks.length) (b : Block) :
    keptAfter C oldest (blocks ++ [b]) =
      keptAfter C oldest blocks ++ keptIn C write 0 false b.entries := by
  induction blocks generalizing oldest with
  | nil =>
    have hsame : write = oldest := ahead_eq_zero.1 hwrite
    rw [hsame]
    simp [keptAfter]
  | cons b' later ih =>
    have hne : write ≠ oldest := by
      rintro rfl
      rw [ahead_self] at hwrite
      cases hwrite
    have hstep := ahead_from_next hne
    have hrest : ahead (nextSequence oldest) write = later.length := by
      rw [List.length_cons] at hwrite
      rw [nextSequence]
      omega
    rw [List.cons_append, keptAfter, keptAfter, ih hrest, List.append_assoc]

end SolidSyslog.Store
