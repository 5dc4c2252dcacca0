import SolidSyslog.Store.Holding

/-!
# Reading and marking, on a shelf

A turn of the read loop leaves a read block with nothing unread, steps past the record at the read
position or hands it out; a mark puts that record behind. Each is a chain of moves.
-/

namespace SolidSyslog.Store

open Lib

variable {σ : Type} {P : Platform σ} {C : Config}

namespace StoreView

variable {V V' : StoreView} {S : Shelf} {found : RecordStore.Found} {maxSize : Nat} {goesOn : Bool}

/-- The view holds the shelf, and a record remembered is the one at the cursor. -/
structure Holds (C : Config) (V : StoreView) (S : Shelf) : Prop where
  view : V.view.Holds C S
  read : V.records.hasReadRecord = true → ∃ e rest, S.unread = e :: rest ∧
    V.records.lastReadBlockIndex = V.view.oldest ∧
    V.records.lastSentFlagOffset = C.sentFlagOffset V.view.cursor e.data.length

/-- The security policy's verdict on a record. -/
def Verdict (P : Platform σ) (C : Config) (e : Entry) (verdict : OpenResult) (message : Bytes) :
    Prop :=
  ∃ env, (P.answer (.openRecord e.content (fit C.trailerSize e.trailer)) env).1.1 = verdict ∧
    message = (fit e.content.length
      (P.answer (.openRecord e.content (fit C.trailerSize e.trailer)) env).1.2).drop
        contentHeaderSize

/-- What a turn of the read loop does to a shelf: what was found, whether to go on, and whether the
record at the read position is remembered. -/
inductive Turned (P : Platform σ) (C : Config) (maxSize : Nat) (S : Shelf) (remembered : Bool) :
    RecordStore.Found → Bool → Bool → Shelf → Prop
  | left {found : RecordStore.Found} (done : S.unread = []) (behind : S.later ≠ []) :
      Turned P C maxSize S remembered found true false S.left
  | ended {found : RecordStore.Found} (done : S.unread = []) (last : S.later = [])
      (none : found.bytes = []) : Turned P C maxSize S remembered found false false S
  | passed {found : RecordStore.Found} {e : Entry} {rest : List Entry} {message : Bytes}
      (unread : S.unread = e :: rest) (verdict : Verdict P C e .rejected message) :
      Turned P C maxSize S remembered found true false S.passed
  | handedOut {found : RecordStore.Found} {e : Entry} {rest : List Entry} {message : Bytes}
      (unread : S.unread = e :: rest) (verdict : Verdict P C e .opened message)
      (bytes : found.bytes = message.take maxSize) :
      Turned P C maxSize S remembered found false true S
  | kept {found : RecordStore.Found} {e : Entry} {rest : List Entry} {message : Bytes}
      (unread : S.unread = e :: rest) (verdict : Verdict P C e .couldNotRun message)
      (none : found.bytes = []) : Turned P C maxSize S remembered found false remembered S

theorem Holds.readContent (h : V.Holds C S) :
    V.readContent = recordsBytes C S.behind ++ (recordsBytes C S.unread ++ S.torn) := by
  rw [StoreView.readContent, h.view.read_media, Option.getD_some, Block.bytes, Shelf.readBlock]
  simp

/-- Where nothing is unread, there is the end, or a torn record. -/
theorem Holds.extentAt_done (h : V.Holds C S) (hdone : S.unread = []) :
    C.extentAt V.readContent V.view.cursor = .error .endOfData ∨
      (S.torn ≠ [] ∧ C.extentAt V.readContent V.view.cursor = .error .corrupt) := by
  rcases h.view.cursor with hcursor | ⟨-, hcursor⟩
  · have htorn := (h.view.wellFormed S.readBlock List.mem_cons_self).torn
    rw [h.readContent, hcursor, hdone, recordsBytes_nil, List.nil_append]
    by_cases hwhole : S.torn = []
    · refine .inl ?_
      rw [hwhole, List.append_nil, Config.extentAt, if_neg (lt_irrefl _)]
    · exact .inr ⟨hwhole, htorn.resolve_left hwhole _⟩
  · have hcontent : V.readContent = S.readBlock.bytes C := by
      rw [StoreView.readContent, h.view.read_media]
      rfl
    refine .inl ?_
    rw [Config.extentAt, hcontent, hcursor, if_neg (lt_irrefl _)]

/-- Where nothing is unread, a read finds the end or a torn record. -/
theorem Holds.readAt_done (h : V.Holds C S) (hdone : S.unread = [])
    (hread : ReadAt P C V.readContent V.view.cursor maxSize found) :
    (found.result = .endOfData ∨ (S.torn ≠ [] ∧ found.result = .corrupt)) ∧ found.bytes = [] := by
  have hextent := h.extentAt_done hdone
  cases hread with
  | endOfData extent => exact ⟨.inl rfl, rfl⟩
  | corrupt extent =>
    rcases hextent with hextent | ⟨htorn, -⟩
    · rw [hextent] at extent
      cases extent
    · exact ⟨.inr ⟨htorn, rfl⟩, rfl⟩
  | finishedWith extent flag => rcases hextent with hextent | hextent <;> simp [hextent] at extent
  | opened extent flag verdict => rcases hextent with hextent | hextent <;> simp [hextent] at extent
  | rejected extent flag verdict =>
    rcases hextent with hextent | hextent <;> simp [hextent] at extent
  | couldNotOpen extent flag verdict =>
    rcases hextent with hextent | hextent <;> simp [hextent] at extent

/-- Where there is a record unread, a read finds it with the policy's verdict. -/
theorem Holds.readAt_unread (h : V.Holds C S) {e : Entry} {rest : List Entry}
    (hunread : S.unread = e :: rest)
    (hread : ReadAt P C V.readContent V.view.cursor maxSize found) :
    found.length = e.data.length ∧ ∃ message,
      (found.result = .succeeded ∧ Verdict P C e .opened message ∧
        found.bytes = message.take maxSize) ∨
      (found.result = .rejected ∧ Verdict P C e .rejected message) ∨
      (found.result = .couldNotOpen ∧ Verdict P C e .couldNotRun message ∧ found.bytes = []) := by
  have hcontent : V.readContent =
      recordsBytes C S.behind ++ e.bytes C ++ (recordsBytes C rest ++ S.torn) := by
    rw [h.readContent, hunread]
    simp
  have hcursor := h.view.cursor_eq (by rw [hunread]; exact List.cons_ne_nil _ _)
  have hwf : e.WellFormed C := by
    apply (h.view.wellFormed S.readBlock List.mem_cons_self).entries
    rw [Shelf.readBlock, hunread]
    simp
  have hunsent : flagMarksSentOrDiscarded e.flag = false := by
    apply h.view.unsent
    rw [Shelf.queue, hunread]
    simp
  rw [hcontent, hcursor] at hread
  rcases Entry.readAt_bytes _ _ hwf hread with ⟨hflag, -⟩ | ⟨-, env, hopened, rfl⟩ |
    ⟨-, ⟨env, hrejected⟩, rfl⟩ | ⟨-, ⟨env, hfailed⟩, rfl⟩
  · rw [hunsent] at hflag
    cases hflag
  · exact ⟨rfl, _, .inl ⟨rfl, ⟨env, hopened, rfl⟩, rfl⟩⟩
  · exact ⟨rfl, _, .inr (.inl ⟨rfl, ⟨env, hrejected, rfl⟩⟩)⟩
  · exact ⟨rfl, _, .inr (.inr ⟨rfl, ⟨env, hfailed, rfl⟩, rfl⟩)⟩

/-! ## Moves of the parts -/

theorem moves_reportLoss (V : StoreView) (S : Shelf) (fault : BlockStoreError) :
    View.Moves C (V.view, S) ((V.reportLoss fault).view, S) := by
  unfold reportLoss
  split
  · exact .refl
  · exact .single (.noted rfl)

theorem Holds.reportLoss (h : V.Holds C S) (fault : BlockStoreError) :
    (V.reportLoss fault).Holds C S := by
  unfold StoreView.reportLoss
  split
  · exact h
  · exact ⟨h.view.traced _, h.read⟩

/-- Where nothing is unread, nothing is remembered. -/
theorem Holds.not_read (h : V.Holds C S) (hdone : S.unread = []) :
    V.records.hasReadRecord = false := by
  by_contra hread
  obtain ⟨e, rest, hunread, -⟩ := h.read (by simpa using hread)
  rw [hdone] at hunread
  cases hunread

theorem Holds.left {n : Sequence} (h : V.Holds C S) (hn : V.view.Next n) :
    (V.left n).Holds C S.left :=
  ⟨(h.view.dropped hn).flags _ _, nofun⟩

theorem Holds.later_ne_nil {n : Sequence} (h : V.Holds C S) (hn : V.view.Next n) : S.later ≠ [] :=
  fun hlast => hn.write_ne (h.view.later_eq_nil_iff.1 hlast).symm

theorem Holds.spoiled (h : V.Holds C S) (hdone : S.unread = [])
    (hlast : V.view.oldest = V.view.write) :
    V.spoiled.Holds C S ∧ View.Moves C (V.view, S) (V.spoiled.view, S) := by
  have hreported := h.reportLoss .recordCorrupt
  have hsize : V.view.writeSize = (V.reportLoss .recordCorrupt).view.readSize := by
    rw [(view_reportLoss_size ..).2.1, View.writeSize, View.readSize, hlast]
  have hview : V.spoiled.view = { (V.reportLoss .recordCorrupt).view with
      cursor := (V.reportLoss .recordCorrupt).view.readSize, corrupt := true } := by
    rw [StoreView.spoiled, hsize]
  refine ⟨⟨?_, ?_⟩, ?_⟩
  · rw [hview]
    exact hreported.view.spoiled hdone
  · intro hread
    have hnot := hreported.not_read hdone
    rw [show V.spoiled.records = (V.reportLoss .recordCorrupt).records from rfl, hnot] at hread
    cases hread
  · rw [hview]
    exact (moves_reportLoss V S .recordCorrupt).tail (.spoiled hdone)

/-- A turn of the read loop. -/
theorem Holds.turn (h : V.Holds C S) (hturn : V.Turn P C maxSize found goesOn V') :
    ∃ S', Turned P C maxSize S V.records.hasReadRecord found goesOn V'.records.hasReadRecord S' ∧
      V'.Holds C S' ∧ View.Moves C (V.view, S) (V'.view, S') := by
  rcases hunread : S.unread with _ | ⟨e, rest⟩
  · obtain ⟨hresult, hbytes⟩ := h.readAt_done hunread hturn.read
    cases hturn with
    | moved read result next =>
      exact ⟨S.left, .left hunread (h.later_ne_nil next), h.left next,
        .single (.drained next hunread)⟩
    | exhausted read result last =>
      rw [h.not_read hunread]
      exact ⟨S, .ended hunread (h.view.later_eq_nil_iff.2 last) hbytes, h, .refl⟩
    | @abandoned n read result next =>
      have hleft : (V.left n).records.hasReadRecord = false := rfl
      rw [(view_reportLoss_size ..).2.2, hleft]
      exact ⟨S.left, .left hunread (h.later_ne_nil next), (h.left next).reportLoss _,
        (Relation.ReflTransGen.single (.drained next hunread)).trans (moves_reportLoss _ _ _)⟩
    | spoiled read result last =>
      obtain ⟨hspoiled, hmoves⟩ := h.spoiled hunread last
      rw [hspoiled.not_read hunread]
      exact ⟨S, .ended hunread (h.view.later_eq_nil_iff.2 last) hbytes, hspoiled, hmoves⟩
    | finishedWith read result => simp [result] at hresult
    | rejected read result => simp [result] at hresult
    | succeeded read result => simp [result] at hresult
    | couldNotOpen read result => simp [result] at hresult
  · obtain ⟨hlength, message, hfound⟩ := h.readAt_unread hunread hturn.read
    cases hturn with
    | moved read result next => simp [result] at hfound
    | exhausted read result last => simp [result] at hfound
    | abandoned read result next => simp [result] at hfound
    | spoiled read result last => simp [result] at hfound
    | finishedWith read result => simp [result] at hfound
    | rejected read result =>
      have hverdict : Verdict P C e .rejected message := by simpa [result] using hfound
      refine ⟨S.passed, .passed hunread hverdict, ?_, ?_⟩
      · rw [hlength]
        refine ⟨?_, nofun⟩
        have htraced : StoreView.Holds C
            (V.traced (.steppedPast V.view.oldest V.view.cursor e.data.length)) S :=
          ⟨h.view.traced _, h.read⟩
        have hreported := htraced.reportLoss .recordRejected
        exact hreported.view.passed hunread
      · rw [hlength]
        have hpassed : View.Moves C (V.view, S) _ := .single (.passed hunread)
        unfold StoreView.reportLoss
        split
        · exact hpassed
        · exact hpassed.tail (.noted rfl)
    | succeeded read result =>
      obtain ⟨hverdict, hbytes⟩ : Verdict P C e .opened message ∧
        found.bytes = message.take maxSize := by simpa [result] using hfound
      refine ⟨S, .handedOut hunread hverdict hbytes, ⟨h.view, fun _ => ⟨e, rest, hunread, rfl, ?_⟩⟩,
        .refl⟩
      rw [← hlength]
      rfl
    | couldNotOpen read result =>
      obtain ⟨hverdict, hbytes⟩ : Verdict P C e .couldNotRun message ∧
        found.bytes = [] := by simpa [result] using hfound
      exact ⟨S, .kept hunread hverdict hbytes, h, .refl⟩

/-- A record handed out. -/
theorem Holds.settledRead (h : V.Holds C S) (found : RecordStore.Found) :
    (V.settledRead found).Holds C S ∧ View.Moves C (V.view, S) ((V.settledRead found).view, S) ∧
      (V.settledRead found).records = V.records := by
  unfold StoreView.settledRead
  split
  · exact ⟨⟨h.view.traced _, h.read⟩, .single (.noted rfl), rfl⟩
  · exact ⟨h, .refl, rfl⟩

/-! ## Marking -/

/-- The read block is left where all of it is behind. -/
theorem Holds.swept {v v' : View} {changed : Bool} (h : v.Holds C S) (hswept : v.Swept changed v') :
    ∃ S', v'.Holds C S' ∧ View.Moves C (v, S) (v', S') ∧ S'.queue = S.queue ∧
      (changed = false → S' = S ∧ v' = v) ∧ (changed = true → S.unread = []) := by
  cases hswept with
  | left drained next =>
    have hdone : S.unread = [] := by
      rcases hunread : S.unread with _ | ⟨e, rest⟩
      · rfl
      · have hcursor := h.cursor_eq (by rw [hunread]; exact List.cons_ne_nil _ _)
        have hsize := drained.2
        rw [h.readSize_eq, hcursor, Block.bytes, Shelf.readBlock, hunread] at hsize
        have hpos := C.recordSize_pos e.data.length
        simp only [recordsBytes_append, recordsBytes_cons, List.length_append,
          Entry.length_bytes] at hsize
        omega
    refine ⟨S.left, (h.dropped next).flags _ _, .single (.drained next hdone), ?_, (by rintro ⟨⟩),
      fun _ => hdone⟩
    rw [Shelf.queue_left, Shelf.queue, hdone, List.nil_append]
  | stayed undrained => exact ⟨S, h, .refl, rfl, fun _ => ⟨rfl, rfl⟩, (by rintro ⟨⟩)⟩

/-- A mark takes the record at the read position off the queue, where it is remembered. -/
theorem Holds.markedView (h : V.Holds C S) (hmarked : V.Marked V') :
    ∃ S', V'.Holds C S' ∧ View.Moves C (V.view, S) (V'.view, S') ∧
      V'.records.hasReadRecord = false ∧
      ((V.records.hasReadRecord = false ∧ V' = V ∧ S' = S) ∨
        (V.records.hasReadRecord = true ∧ ∃ e, S.queue = e :: S'.queue)) := by
  cases hmarked with
  | nothing unread => exact ⟨S, h, .refl, unread, .inl ⟨unread, rfl, rfl⟩⟩
  | @marked changed v' read swept =>
    obtain ⟨e, rest, hunread, hblock, hoffset⟩ := h.read read
    have hnext : V.records.lastSentFlagOffset + 1 =
        V.view.cursor + C.recordSize e.data.length := by
      rw [hoffset]
      exact C.sentFlagOffset_succ ..
    have hview : V.marked.view = { V.view with
        cursor := V.view.cursor + C.recordSize e.data.length
        media := V.view.media.after (.writeAt V.view.oldest
          (C.sentFlagOffset V.view.cursor e.data.length) [sentFlagSent])
        trace := V.view.trace ++ [.call (.writeAt V.view.oldest
          (C.sentFlagOffset V.view.cursor e.data.length) [sentFlagSent]) true] } := by
      rw [StoreView.marked, hnext, hblock, hoffset]
    have hmove : View.Move C (V.view, S) (V.marked.view, S.marked) := by
      rw [hview]
      exact .marked hunread
    obtain ⟨S', hholds, hmoves, hqueue, -, -⟩ := Holds.swept (h.view.move hmove) swept
    refine ⟨S', ⟨hholds, (by rintro ⟨⟩)⟩, .head hmove hmoves, rfl, .inr ⟨read, e, ?_⟩⟩
    rw [hqueue]
    exact Shelf.queue_marked hunread

end StoreView

end SolidSyslog.Store
