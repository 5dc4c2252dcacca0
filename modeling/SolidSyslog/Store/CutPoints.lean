import SolidSyslog.Store.ShelfRestart
import SolidSyslog.Store.NoSilentLoss
import SolidSyslog.Store.Queue
import SolidSyslog.Store.Ceiling

/-!
# Where the power may be cut

At every moment of a run on a device that never fails, the blocks on the media are those of some
shelf, and the records of the trace whose block is still there are the records of that shelf. An
append that is cut short leaves the shelf with a torn record behind its last block.
-/

namespace SolidSyslog.Store

open Lib

variable {σ : Type} {P : Platform σ} {C : Config} {media : σ → Media} {m₀ : Media}

/-! ## An append cut short -/

/-- A part of a record is no record. -/
theorem Entry.WellFormed.isTorn_take {e : Entry} (h : e.WellFormed C) {count : Nat}
    (hcount : count < (e.bytes C).length) : C.IsTorn ((e.bytes C).take count) := by
  rcases Nat.eq_zero_or_pos count with rfl | hpos
  · exact .inl rfl
  · refine .inr fun front => ?_
    have hlength : (front ++ (e.bytes C).take count).length = front.length + count := by
      rw [List.length_append, List.length_take, Nat.min_eq_left hcount.le]
    rw [e.length_bytes] at hcount
    unfold Config.extentAt
    rw [hlength, if_pos (Nat.lt_add_of_pos_right hpos)]
    by_cases hheader : contentHeaderSize ≤ count
    · have hspan : span (front ++ (e.bytes C).take count) front.length contentHeaderSize =
          Store.header e.data.length := by
        have hbytes : (e.bytes C).take contentHeaderSize = Store.header e.data.length := by
          rw [Entry.bytes, List.append_assoc, List.take_append_of_le_length, h.header]
          rw [e.length_content]
          exact Nat.le_add_right _ _
        rw [span, List.drop_left, List.take_take, Nat.min_eq_left hheader, hbytes]
      rw [if_pos (Nat.add_le_add_left hheader _), hspan, Entry.validateHeader_header h.pos h.le]
      dsimp only
      rw [if_neg (Nat.not_le.2 (Nat.add_lt_add_left hcount _))]
    · rw [if_neg fun hle => hheader (Nat.le_of_add_le_add_left hle)]

/-- A shelf with the rest of a record behind its last block. -/
theorem Shelf.exists_cutShort {S : Shelf} {front : List Block} {b : Block}
    (hblocks : S.blocks = front ++ [b]) (bytes : Bytes) : ∃ S' : Shelf,
      S'.blocks = front ++ [{ b with torn := bytes }] ∧ S'.queue = S.queue ∧
      S'.behind = S.behind := by
  rcases List.eq_nil_or_concat S.later with hlast | ⟨later, b', hlater⟩
  · rw [blocks, hlast] at hblocks
    obtain ⟨rfl, hb⟩ := List.append_inj' (show [] ++ [S.readBlock] = front ++ [b] from hblocks) rfl
    obtain rfl : S.readBlock = b := List.singleton_inj.1 hb
    exact ⟨{ S with torn := bytes }, by rw [blocks, hlast]; rfl, rfl, rfl⟩
  · rw [List.concat_eq_append] at hlater
    rw [blocks, hlater, ← List.cons_append] at hblocks
    obtain ⟨rfl, hb⟩ := List.append_inj' hblocks rfl
    obtain rfl : b' = b := List.singleton_inj.1 hb
    refine ⟨{ S with later := later ++ [{ b' with torn := bytes }] }, rfl, ?_, rfl⟩
    rw [queue, queue, hlater]
    simp

/-- The media after an append of which only a part was made. -/
theorem View.Lies.cutShort {v : View} {S : Shelf} {bytes : Bytes} (h : v.Lies C S)
    (hwhole : ∀ b ∈ S.blocks, b.torn = []) (htorn : C.IsTorn bytes) : ∃ S',
      Lies C { v with media := v.media.after (.append v.write bytes) } S' ∧ S'.queue = S.queue := by
  obtain ⟨front, b, hblocks⟩ := (List.eq_nil_or_concat S.blocks).resolve_left (List.cons_ne_nil _ _)
  rw [List.concat_eq_append] at hblocks
  have hahead := h.held.write_ahead hblocks
  have hend : b.torn = [] := hwhole b (by rw [hblocks]; simp)
  obtain ⟨S', hblocks', hqueue, hbehind⟩ := Shelf.exists_cutShort hblocks bytes
  refine ⟨S', ⟨?_, ?_, ?_, ?_, ?_⟩, hqueue⟩
  · have hbytes : b.bytes C ++ bytes = Block.bytes C { b with torn := bytes } := by
      rw [Block.bytes, Block.bytes, hend, List.append_nil]
    rw [hblocks']
    change Function.update v.media v.write ((v.media v.write).map (· ++ bytes)) = _
    rw [h.held.write_media hblocks, Option.map_some, hbytes]
    funext x
    change _ = (laidOut v.oldest (front ++ [{ b with torn := bytes }]) x).map (Block.bytes C)
    rw [laidOut_concat_update hahead b, ← hblocks, h.media]
    by_cases hx : x = v.write
    · rw [hx, Function.update_self, Function.update_self]
      rfl
    · rw [Function.update_of_ne hx, Function.update_of_ne hx]
  · change v.count = _
    rw [h.count, hblocks, hblocks']
    simp
  · rw [hblocks']
    intro b' hb'
    rcases List.mem_append.1 hb' with hb' | hb'
    · exact h.wellFormed b' (by rw [hblocks]; exact List.mem_append_left _ hb')
    · rw [List.mem_singleton.1 hb']
      exact ⟨(h.wellFormed b (by rw [hblocks]; simp)).entries, htorn⟩
  · rw [hbehind]
    exact h.marked
  · rw [hqueue]
    exact h.unsent

/-! ## Genuine events -/

/-- An event of a store whose policy opens what it sealed: a seal is the policy's, and no record is
stepped past. -/
def Event.IsGenuine (P : Platform σ) : Event → Prop
  | .call (.sealRecord content) (some outcome) =>
    ∃ env, (P.answer (.sealRecord content) env).1 = some outcome
  | .steppedPast _ _ _ => False
  | _ => True

namespace View

variable {v v' : View} {changed : Bool}

theorem genuine_dropped (v : View) (n : Sequence) :
    Extends (Event.IsGenuine P) v.trace (v.dropped n).trace :=
  ⟨_, rfl, by simp [Event.IsGenuine]⟩

theorem Swept.genuine (h : v.Swept changed v') : Extends (Event.IsGenuine P) v.trace v'.trace := by
  cases h with
  | left drained next => exact genuine_dropped v _
  | stayed undrained => exact .refl _

theorem Rotated.genuine (h : v.Rotated C changed v') :
    Extends (Event.IsGenuine P) v.trace v'.trace := by
  have hextended : Extends (Event.IsGenuine P) v.trace v.extended.trace :=
    ⟨_, rfl, by simp [Event.IsGenuine]⟩
  cases h with
  | evicted sweep exceeds next => exact (hextended.trans sweep.genuine).trans (genuine_dropped _ _)
  | grown sweep within => exact hextended.trans sweep.genuine

theorem Prepared.genuine {recordSize : Nat} {outcome : Bool × Bool}
    (h : v.Prepared C recordSize outcome v') : Extends (Event.IsGenuine P) v.trace v'.trace := by
  have hasked : ∀ policy, Extends (Event.IsGenuine P) v.trace
      (v.traced (.call .getDiscardPolicy policy)).trace :=
    fun policy => (Extends.refl _).concat trivial
  cases h with
  | fits room => exact .refl _
  | refused full most newest => exact hasked _
  | grown full fewer rotated => exact rotated.genuine
  | replaced full most room rotated => exact (hasked _).trans rotated.genuine

end View

namespace StoreView

variable {V V' : StoreView} {S : Shelf} {maxSize : Nat} {found : RecordStore.Found} {goesOn : Bool}

theorem genuine_reportLoss (V : StoreView) (fault : BlockStoreError) :
    Extends (Event.IsGenuine P) V.view.trace (V.reportLoss fault).view.trace := by
  unfold reportLoss
  split
  · exact .refl _
  · exact (Extends.refl _).concat trivial

theorem genuine_reportRefusal (V : StoreView) :
    Extends (Event.IsGenuine P) V.view.trace V.reportRefusal.view.trace := by
  unfold reportRefusal
  split
  · exact .refl _
  · exact (Extends.refl _).concat trivial

theorem genuine_reportSealFailed (V : StoreView) :
    Extends (Event.IsGenuine P) V.view.trace V.reportSealFailed.view.trace := by
  unfold reportSealFailed
  split
  · exact .refl _
  · exact (Extends.refl _).concat trivial

theorem genuine_readied (V : StoreView) (v' : View) (changed : Bool) :
    Extends (Event.IsGenuine P) v'.trace (V.readied v' changed).view.trace := by
  have hreport : Extends (Event.IsGenuine P) v'.trace
      ({ V with view := v' } : StoreView).reportEviction.view.trace := by
    unfold reportEviction
    split
    · split
      · exact .refl _
      · exact (Extends.refl _).concat trivial
    · exact .refl _
  unfold readied
  split <;> exact hreport

theorem genuine_wrote {data : Bytes} {result : StoreWriteResult}
    (h : V.Wrote P C data result V') :
    Extends (Event.IsGenuine P) V.view.trace V'.view.trace := by
  cases h with
  | empty none => exact .refl _
  | @refused v' changed some prepared =>
    exact prepared.genuine.trans (genuine_reportRefusal { V with view := v' })
  | @lost v' changed some prepared =>
    have hready := prepared.genuine.trans (genuine_readied (P := P) V v' changed)
    have hfailed : Event.IsGenuine P
        (.call (.sealRecord (header (toUint16 data.length) ++ data)) Option.none) := trivial
    exact (hready.concat hfailed).trans (genuine_reportSealFailed ((V.readied v' changed).traced
      (.call (.sealRecord (header (toUint16 data.length) ++ data)) none)))
  | @kept v' changed sealedContent trailer env some prepared sealed =>
    have hready := prepared.genuine.trans (genuine_readied (P := P) V v' changed)
    have hsealed : Event.IsGenuine P (.call (.sealRecord (header (toUint16 data.length) ++ data))
        (.some (sealedContent, trailer))) := ⟨env, sealed⟩
    exact (hready.concat hsealed).concat trivial

theorem genuine_marked (h : V.Marked V') :
    Extends (Event.IsGenuine P) V.view.trace V'.view.trace := by
  cases h with
  | nothing unread => exact .refl _
  | marked read swept =>
    have hmark : Extends (Event.IsGenuine P) V.view.trace V.marked.view.trace :=
      (Extends.refl _).concat trivial
    exact hmark.trans swept.genuine

/-- A turn steps past nothing where the policy sealed what is in the queue. -/
theorem genuine_turn (hP : SealsInPlace P C) (h : V.Holds C S) (hsealed : ∀ e ∈ S.queue, e.Sealed P)
    (hturn : V.Turn P C maxSize found goesOn V') :
    Extends (Event.IsGenuine P) V.view.trace V'.view.trace := by
  cases hturn with
  | moved read result next => exact View.genuine_dropped V.view _
  | exhausted read result last => exact .refl _
  | @abandoned n read result next =>
    exact (View.genuine_dropped V.view _).trans (genuine_reportLoss (V.left n) .recordCorrupt)
  | spoiled read result last => exact genuine_reportLoss V .recordCorrupt
  | finishedWith read result => exact .refl _
  | rejected read result =>
    rcases hunread : S.unread with _ | ⟨e, rest⟩
    · obtain ⟨hresult, -⟩ := h.readAt_done hunread read
      simp [result] at hresult
    · obtain ⟨-, message, hfound⟩ := h.readAt_unread hunread read
      have hverdict : Verdict P C e .rejected message := by simpa [result] using hfound
      obtain ⟨hopened, -⟩ :=
        verdict_of_sealed hP (hsealed e (by rw [Shelf.queue, hunread]; simp)) hverdict
      cases hopened
  | succeeded read result => exact .refl _
  | couldNotOpen read result => exact .refl _

theorem genuine_settledRead (V : StoreView) (found : RecordStore.Found) :
    Extends (Event.IsGenuine P) V.view.trace (V.settledRead found).view.trace := by
  unfold settledRead
  split
  · exact (Extends.refl _).concat trivial
  · exact .refl _

end StoreView

/-! ## Every moment of a chain of moves -/

namespace View

variable {v v' : View} {S S' : Shelf} {t t' t₀ : List Event}

theorem replayed_aside {event : Event} (haside : isAside event = true) (m : Media) :
    event.effect m = m := by
  rcases event with ⟨request, answer⟩ | _ | _ | _ | _
  · cases request with
    | report severity category error => rfl
    | getDiscardPolicy => rfl
    | sealRecord content =>
      cases answer with
      | none => rfl
      | some outcome => cases haside
    | _ => cases haside
  all_goals rfl

/-- A move changes the media as its events say. -/
theorem Move.replayed (h : replay m₀ v.trace = v.media) (hmove : Move C (v, S) (v', S')) :
    replay m₀ v'.trace = v'.media := by
  cases hmove with
  | noted aside =>
    rw [View.traced, replay_append, h, replay_cons, replayed_aside aside, replay_nil]
  | filled => exact h
  | spoiled done => exact h
  | drained next done =>
    rw [View.drained, View.dropped, replay_append, h]
    rfl
  | discarded next =>
    rw [View.discarded, View.dropped, replay_append, h]
    rfl
  | extended room =>
    rw [View.extended, replay_append, h]
    rfl
  | stored wellFormed unsent clean =>
    rw [View.appended, View.traced, replay_append, replay_append, h]
    rfl
  | passed unread =>
    rw [View.traced, replay_append, h]
    rfl
  | marked unread =>
    rw [replay_append, h]
    rfl

/-- After a trace the blocks are those of the shelf, all of them whole and what is unread in them
sealed by the policy, and its records are those of the trace whose block is still there. -/
structure Stands (P : Platform σ) (C : Config) (m₀ : Media) (t : List Event)
    (v : View) (S : Shelf) :
    Prop where
  lies : v.Lies C S
  whole : ∀ b ∈ S.blocks, b.torn = []
  sealed : ∀ e ∈ S.queue, e.Sealed P
  replayed : replay m₀ t = v.media
  present : (ledger C t).present = S.kept C v.oldest

theorem Stands.of_same (h : v.Stands P C m₀ t S) (hreplay : replay m₀ t' = replay m₀ t)
    (hpresent : (ledger C t').present = (ledger C t).present) : v.Stands P C m₀ t' S :=
  ⟨h.lies, h.whole, h.sealed, hreplay.trans h.replayed, hpresent.trans h.present⟩

/-- An entry of a trace that goes on from `t₀`: before it some shelf stands, and what is appended is
a record, to the last block of it. -/
def CutAt (P : Platform σ) (C : Config) (m₀ : Media) (t₀ before : List Event) (event : Event) :
    Prop :=
  t₀ <+: before → ∃ (v : View) (S : Shelf), v.Stands P C m₀ before S ∧
    ∀ block bytes, event = .call (.append block bytes) true →
      block = v.write ∧ ∃ e : Entry, e.WellFormed C ∧ bytes = e.bytes C

/-- The view accounts for the shelf, whose records are marked up to the read position and sealed
from there on, and its media is the one its trace tells. -/
structure Steady (P : Platform σ) (C : Config) (m₀ : Media) (v : View) (S : Shelf) : Prop where
  accounts : v.Accounts C S
  marked : ∀ e ∈ S.behind, flagMarksSentOrDiscarded e.flag = true
  sealed : ∀ e ∈ S.queue, e.Sealed P
  replayed : replay m₀ v.trace = v.media

namespace Steady

theorem stands (h : v.Steady P C m₀ S) : v.Stands P C m₀ v.trace S where
  lies := ⟨h.accounts.holds.media, h.accounts.holds.count, h.accounts.holds.wellFormed, h.marked,
    h.accounts.holds.unsent⟩
  whole := h.accounts.whole
  sealed := h.sealed
  replayed := h.replayed
  present := h.accounts.told.present

theorem marked_left (S : Shelf) : ∀ e ∈ S.left.behind, flagMarksSentOrDiscarded e.flag = true := by
  obtain ⟨behind, unread, torn, _ | ⟨b, later⟩⟩ := S
  · intro e he
    cases he
  · intro e he
    cases he

theorem sealed_left (hsealed : ∀ e ∈ S.queue, e.Sealed P) : ∀ e ∈ S.left.queue, e.Sealed P := by
  rw [Shelf.queue_left]
  exact fun e he => hsealed e (List.mem_append_right _ he)

/-- A move whose events are genuine. -/
theorem move (h : v.Steady P C m₀ S) (hmove : Move C (v, S) (v', S'))
    (hgenuine : ∀ event ∈ v'.trace, event.IsGenuine P) : v'.Steady P C m₀ S' := by
  have haccounts := h.accounts.move hmove
  have hreplayed := hmove.replayed h.replayed
  cases hmove with
  | noted aside => exact ⟨haccounts, h.marked, h.sealed, hreplayed⟩
  | filled => exact ⟨haccounts, h.marked, h.sealed, hreplayed⟩
  | spoiled done => exact ⟨haccounts, h.marked, h.sealed, hreplayed⟩
  | drained next done => exact ⟨haccounts, marked_left S, sealed_left h.sealed, hreplayed⟩
  | discarded next => exact ⟨haccounts, marked_left S, sealed_left h.sealed, hreplayed⟩
  | extended room =>
    refine ⟨haccounts, h.marked, ?_, hreplayed⟩
    rw [Shelf.queue_extended]
    exact h.sealed
  | @stored _ _ e wellFormed unsent clean =>
    refine ⟨haccounts, ?_, ?_, hreplayed⟩
    · have hbehind : (S.stored e).behind = S.behind := by
        unfold Shelf.stored
        split <;> rfl
      rw [hbehind]
      exact h.marked
    · rw [Shelf.queue_stored]
      intro e' he'
      rcases List.mem_append.1 he' with he' | he'
      · exact h.sealed e' he'
      · rw [List.mem_singleton.1 he']
        exact hgenuine _ (List.mem_append_left _ (List.mem_append_right _ List.mem_cons_self))
  | @passed _ _ e rest unread =>
    have hpassed := hgenuine (.steppedPast v.oldest v.cursor e.data.length)
      (List.mem_append_right _ List.mem_cons_self)
    exact hpassed.elim
  | @marked _ _ e rest unread =>
    refine ⟨haccounts, ?_, ?_, hreplayed⟩
    · rw [Shelf.marked, unread]
      intro e' he'
      rcases List.mem_append.1 he' with he' | he'
      · exact h.marked e' he'
      · rw [List.mem_singleton.1 he']
        rfl
    · intro e' he'
      apply h.sealed
      rw [Shelf.queue_marked unread]
      exact List.mem_cons_of_mem _ he'

end Steady

/-! ### Before each event -/

theorem Stands.cutAt (h : v.Stands P C m₀ t S) {event : Event} (hevent : event.isAppend = false) :
    CutAt P C m₀ t₀ t event := by
  refine fun _ => ⟨v, S, h, ?_⟩
  rintro block bytes rfl
  cases hevent

/-- The note of a run changes neither the blocks nor the records. -/
theorem Stands.before_run {event : Event} {o w : Sequence}
    (h : v.Stands P C m₀ (t ++ [event, .run o w]) S) : v.Stands P C m₀ (t ++ [event]) S := by
  rw [List.append_cons] at h
  apply h.of_same
  · rw [replay_append m₀ (t ++ [event])]
    rfl
  · rw [ledger_concat (t ++ [event])]
    rfl

/-- A change of the run: the call, and then the note of the run it made. -/
theorem always_changed {event : Event} {o w : Sequence} (h : v.Stands P C m₀ t S)
    (h' : v'.Stands P C m₀ (t ++ [event, .run o w]) S') (hevent : event.isAppend = false)
    (halways : Always (CutAt P C m₀ t₀) t) :
    Always (CutAt P C m₀ t₀) (t ++ [event, .run o w]) := by
  rw [List.append_cons]
  exact (halways.concat (h.cutAt hevent)).concat (h'.before_run.cutAt rfl)

theorem Move.prefix (h : Move C (v, S) (v', S')) : v.trace <+: v'.trace := by
  cases h with
  | filled => exact List.prefix_refl _
  | spoiled done => exact List.prefix_refl _
  | stored wellFormed unsent clean =>
    exact (List.prefix_append _ _).trans (List.prefix_append _ _)
  | _ => exact List.prefix_append _ _

namespace Steady

theorem always (h : v.Steady P C m₀ S) (hmove : Move C (v, S) (v', S'))
    (h' : v'.Steady P C m₀ S') (halways : Always (CutAt P C m₀ t₀) v.trace) :
    Always (CutAt P C m₀ t₀) v'.trace := by
  have hstands := h.stands
  cases hmove with
  | @noted _ _ event aside =>
    apply halways.concat (hstands.cutAt _)
    rcases event with ⟨request, answer⟩ | _ | _ | _ | _
    · cases request with
      | append block bytes => cases aside
      | _ => rfl
    all_goals rfl
  | filled => exact halways
  | spoiled done => exact halways
  | drained next done => exact always_changed hstands h'.stands rfl halways
  | discarded next => exact always_changed hstands h'.stands rfl halways
  | extended room => exact always_changed hstands h'.stands rfl halways
  | @stored _ _ e wellFormed unsent clean =>
    apply (halways.concat (hstands.cutAt rfl)).concat
    refine fun _ => ⟨v, S, hstands.of_same ?_ ?_, ?_⟩
    · rw [replay_append]
      rfl
    · rw [ledger_concat]
      rfl
    · rintro block bytes ⟨⟩
      exact ⟨rfl, e, wellFormed, rfl⟩
  | passed unread => exact halways.concat (hstands.cutAt rfl)
  | marked unread => exact halways.concat (hstands.cutAt rfl)

/-- A chain of moves whose events are genuine. -/
theorem moves {p q : View × Shelf} (hmoves : Moves C p q) (h : p.1.Steady P C m₀ p.2)
    (hgenuine : ∀ event ∈ q.1.trace, event.IsGenuine P)
    (halways : Always (CutAt P C m₀ t₀) p.1.trace) :
    q.1.Steady P C m₀ q.2 ∧ Always (CutAt P C m₀ t₀) q.1.trace := by
  induction hmoves with
  | refl => exact ⟨h, halways⟩
  | tail _ hmove ih =>
    have hbefore := hmove.prefix
    obtain ⟨hsteady, halways'⟩ := ih fun event hevent => hgenuine event (hbefore.subset hevent)
    have hsteady' := hsteady.move hmove hgenuine
    exact ⟨hsteady', hsteady.always hmove hsteady' halways'⟩

end Steady

end View

/-! ## What is still to be delivered -/

/-- The messages of the records whose flag is not written and whose block is still there. -/
def Ledger.pending (L : Ledger) : List Bytes :=
  (L.records.filter fun r => !r.gone && !r.marked).map Kept.message

theorem messages_keptIn (block : Sequence) (start : Nat) (behind : Bool) (entries : List Entry) :
    (keptIn C block start behind entries).map Kept.message = entries.map Entry.data := by
  induction entries generalizing start with
  | nil => rfl
  | cons e entries ih => rw [keptIn, List.map_cons, List.map_cons, ih]

theorem messages_keptAfter (oldest : Sequence) (blocks : List Block) :
    (keptAfter C oldest blocks).map Kept.message =
      (blocks.flatMap Block.entries).map Entry.data := by
  induction blocks generalizing oldest with
  | nil => rfl
  | cons b later ih =>
    rw [keptAfter, List.flatMap_cons, List.map_append, List.map_append, messages_keptIn, ih]

/-- They are the messages of the queue. -/
theorem View.Stands.pending_eq {t : List Event} {v : View} {S : Shelf} (h : v.Stands P C m₀ t S) :
    (ledger C t).pending = S.queue.map Entry.data := by
  have hpending : (ledger C t).pending =
      ((ledger C t).present.filter fun r => !r.marked).map Kept.message := by
    rw [Ledger.pending, Ledger.present, List.filter_filter]
    congr 2
    funext r
    exact Bool.and_comm _ _
  have hbehind : (keptIn C v.oldest 0 true S.behind).filter (fun r => !r.marked) = [] := by
    rw [List.filter_eq_nil_iff]
    intro r hr
    obtain ⟨⟨e, he, hmarked⟩, -⟩ := flags_of_mem_keptIn hr
    rw [hmarked, h.lies.marked e he]
    exact Bool.false_ne_true
  have hunread : (keptIn C v.oldest (recordsBytes C S.behind).length false S.unread).filter
      (fun r => !r.marked) = keptIn C v.oldest (recordsBytes C S.behind).length false S.unread := by
    rw [List.filter_eq_self]
    intro r hr
    obtain ⟨⟨e, he, hmarked⟩, -⟩ := flags_of_mem_keptIn hr
    rw [hmarked, h.lies.unsent e (List.mem_append_left _ he)]
    rfl
  have hlater : (keptAfter C (nextSequence v.oldest) S.later).filter (fun r => !r.marked) =
      keptAfter C (nextSequence v.oldest) S.later := by
    rw [List.filter_eq_self]
    intro r hr
    rw [(unmarked_of_mem_keptAfter (fun e he => h.lies.unsent e (List.mem_append_right _ he)) hr).1]
    rfl
  rw [hpending, h.present, Shelf.kept, List.filter_append, List.filter_append, hbehind, hunread,
    hlater, List.nil_append, List.map_append, messages_keptIn, messages_keptAfter, Shelf.queue,
    List.map_append]

/-! ## Every moment of a run -/

namespace StoreView

variable {V V' : StoreView} {S S' : Shelf} {t₀ : List Event}

/-- A view on the shelf it accounts for, with a shelf standing before each event since `t₀`. -/
structure Durable (P : Platform σ) (C : Config) (m₀ : Media) (t₀ : List Event) (V : StoreView)
    (S : Shelf) : Prop where
  holds : V.Holds C S
  steady : V.view.Steady P C m₀ S
  started : t₀ <+: V.view.trace
  genuine : ∀ event ∈ V.view.trace, event.IsGenuine P
  always : Always (View.CutAt P C m₀ t₀) V.view.trace

namespace Durable

theorem of_moves (h : V.Durable P C m₀ t₀ S) (hholds : V'.Holds C S')
    (hmoves : View.Moves C (V.view, S) (V'.view, S'))
    (hextends : Extends (Event.IsGenuine P) V.view.trace V'.view.trace) :
    V'.Durable P C m₀ t₀ S' := by
  obtain ⟨new, htrace, hnew⟩ := hextends
  have hgenuine : ∀ event ∈ V'.view.trace, event.IsGenuine P := by
    rw [htrace]
    intro event hevent
    rcases List.mem_append.1 hevent with hevent | hevent
    · exact h.genuine event hevent
    · exact hnew event hevent
  obtain ⟨hsteady, halways⟩ := View.Steady.moves hmoves h.steady hgenuine h.always
  refine ⟨hholds, hsteady, ?_, hgenuine, halways⟩
  rw [htrace]
  exact h.started.trans (List.prefix_append _ _)

theorem turn (hP : SealsInPlace P C) (h : V.Durable P C m₀ t₀ S) {maxSize : Nat}
    {found : RecordStore.Found} {goesOn : Bool} (hturn : V.Turn P C maxSize found goesOn V') :
    ∃ S', V'.Durable P C m₀ t₀ S' := by
  obtain ⟨S', -, hS', hmoves⟩ := h.holds.turn hturn
  exact ⟨S', h.of_moves hS' hmoves (genuine_turn hP h.holds h.steady.sealed hturn)⟩

theorem turns (hP : SealsInPlace P C) (h : V.Durable P C m₀ t₀ S) {maxSize count : Nat}
    (hturns : Turns P C maxSize count V V') : ∃ S', V'.Durable P C m₀ t₀ S' := by
  induction hturns generalizing S with
  | refl V => exact ⟨S, h⟩
  | head turn rest ih =>
    obtain ⟨S₁, h₁⟩ := h.turn hP turn
    exact ih h₁

theorem settledRead (h : V.Durable P C m₀ t₀ S) (found : RecordStore.Found) :
    (V.settledRead found).Durable P C m₀ t₀ S := by
  obtain ⟨hsettled, hmoves, -⟩ := h.holds.settledRead found
  exact h.of_moves hsettled hmoves (genuine_settledRead V found)

/-- A call. -/
theorem performed (hP : SealsInPlace P C) (h : V.Durable P C m₀ t₀ S) {op : BlockStore.Op C}
    {answer : BlockStore.Answer} (hperformed : V.Performed P op answer V') :
    ∃ S', V'.Durable P C m₀ t₀ S' := by
  cases hperformed with
  | @write message result _ wrote =>
    obtain ⟨S', hS', hmoves, -⟩ := h.holds.wrote hP.keepsHeader message.fits wrote
    exact ⟨S', h.of_moves hS' hmoves (genuine_wrote wrote)⟩
  | read read =>
    cases read with
    | nothing done => exact ⟨S, h⟩
    | @found _ V₁ V₂ found unsent turns last =>
      obtain ⟨S₁, h₁⟩ := h.turns hP turns
      obtain ⟨S₂, h₂⟩ := h₁.turn hP last
      exact ⟨S₂, h₂.settledRead found⟩
  | unfinished turns => exact h.turns hP turns
  | markSent marked =>
    obtain ⟨S', hS', hmoves, -⟩ := h.holds.markedView marked
    exact ⟨S', h.of_moves hS' hmoves (genuine_marked marked)⟩
  | hasUnsent unsent => exact ⟨S, h⟩
  | isTransient => exact ⟨S, h⟩

end Durable

/-- The start on an empty device. -/
theorem durable_fresh {m : Media} (hempty : ∀ x, m x = none) :
    (fresh C m).Durable P C m (fresh C m).view.trace .empty := by
  have haccounts := accounts_fresh (C := C) hempty
  have htrace : (fresh C m).view.trace = createReports C ++ [.call (.acquire 0) true, .run 0 0] :=
    rfl
  constructor
  · exact haccounts.holds
  · refine ⟨haccounts.view, (by rintro e ⟨⟩), (by rintro e ⟨⟩), ?_⟩
    rw [htrace, replay_append]
    unfold createReports
    split <;> rfl
  · exact List.prefix_refl _
  · rw [htrace]
    unfold createReports
    split <;> simp [Event.IsGenuine]
  · intro before event after hsplit hstarted
    have hlength := congrArg List.length hsplit
    have hle := hstarted.length_le
    rw [List.length_append, List.length_cons] at hlength
    omega

end StoreView

namespace BlockStore

variable {s s' : BlockStore σ} {op : Op C} {answer : Answer} {env : σ} {t₀ before : List Event}

/-- The store sees a durable view, with never more blocks than one over the ceiling. -/
def Lasts (P : Platform σ) (C : Config) (media : σ → Media) (m₀ : Media) (t₀ : List Event)
    (s : BlockStore σ) : Prop :=
  ∃ V S, s.Sees media m₀ V ∧ V.Sound ∧ V.Within C ∧ V.view.Tight C m₀ ∧ V.Durable P C m₀ t₀ S

theorem lasts_created (hP : Faithful P media) (hdispose : DisposesAlways P media)
    (hempty : ∀ x, media env x = none) :
    (created P C env).Lasts P C media (media env) (main (created P C env).world.trace) := by
  obtain ⟨V, hcreated, hs⟩ := created_sees (C := C) hP hdispose env
  have hfresh := hcreated.of_empty hempty
  refine ⟨V, .empty, hs, hcreated.sound, hcreated.within hempty, hcreated.tight (.inl hempty), ?_⟩
  rw [hs.seq.world.main_eq, hfresh]
  exact StoreView.durable_fresh hempty

theorem Lasts.step (hP : Faithful P media) (hdispose : DisposesAlways P media)
    (hpolicy : SealsInPlace P C) (h : s.Lasts P C media m₀ t₀) (hstep : Step P s op answer s') :
    s'.Lasts P C media m₀ t₀ := by
  obtain ⟨V, S, hs, hsound, hwithin, htight, hdurable⟩ := h
  have hroom : V.view.HasRoom := View.hasRoom_iff.2 (hwithin.count.trans_lt
    (Nat.lt_of_le_of_lt C.maxBlocks_le (by decide)))
  rcases step_sees hP hs hsound (fun _ _ _ _ _ => hroom) hstep with ⟨V', hperformed, hs'⟩ | hjammed
  · have hstable : V'.Sound ∧ V'.Within C :=
      (StoreView.stable_within (P := P)).performed ⟨hsound, hwithin⟩ hperformed
    obtain ⟨S', hdurable'⟩ := hdurable.performed hpolicy hperformed
    exact ⟨V', S', hs', hstable.1, hstable.2,
      tight_performed htight (fun _ _ _ _ => hwithin.count) hperformed, hdurable'⟩
  · exact absurd hjammed (not_jammed hdispose)

/-! ## Cuts -/

/-- What a power cut leaves of a run: the effect of the calls of a part of its trace, and where the
next call is an append, any part of that. -/
inductive CutsTo (m₀ : Media) (trace : List Event) : List Event → Media → Prop
  | between {before rest : List Event} (cut : trace = before ++ rest) :
      CutsTo m₀ trace before (replay m₀ before)
  | within {before rest : List Event} {block : Sequence} {bytes : Bytes} {count : Nat}
      (cut : trace = before ++ .call (.append block bytes) true :: rest)
      (part : count < bytes.length) :
      CutsTo m₀ trace before ((replay m₀ before).after (.append block (bytes.take count)))

/-- Before each event since the start, and at the end, a shelf stands. -/
theorem Lasts.stands (h : s.Lasts P C media m₀ t₀) {rest : List Event}
    (hcut : s.world.trace = before ++ rest) (hstarted : t₀ <+: main before) :
    ∃ (v : View) (S : Shelf), v.Stands P C m₀ (main before) S ∧
      ∀ block bytes after, rest = .call (.append block bytes) true :: after →
        block = v.write ∧ ∃ e : Entry, e.WellFormed C ∧ bytes = e.bytes C := by
  obtain ⟨V, S, hs, -, -, -, hdurable⟩ := h
  have htrace : V.view.trace = main before ++ main rest := by
    rw [← main_append, ← hcut, hs.seq.world.main_eq]
  cases hrest : main rest with
  | nil =>
    have hstands := hdurable.steady.stands
    rw [htrace, hrest, List.append_nil] at hstands
    refine ⟨V.view, S, hstands, ?_⟩
    rintro block bytes after rfl
    cases hrest
  | cons event later =>
    rw [hrest] at htrace
    obtain ⟨v, S₁, hstands, happend⟩ := hdurable.always _ _ _ htrace hstarted
    refine ⟨v, S₁, hstands, ?_⟩
    rintro block bytes after rfl
    apply happend
    have hmain : main (.call (.append block bytes) true :: after) =
        .call (.append block bytes) true :: main after := rfl
    rw [hmain] at hrest
    exact (List.cons.inj hrest).1.symm

/-- A shelf lies on what a cut leaves, with the records still to be delivered, and not all numbers
are taken. -/
theorem Lasts.cut (h : s.Lasts P C media m₀ t₀) {m : Media}
    (hcut : CutsTo m₀ s.world.trace before m)
    (hstarted : t₀ <+: main before) : ∃ (v : View) (S : Shelf), m = v.media ∧
      v.Lies C S ∧ v.HasRoom ∧
      (∀ e ∈ S.queue, e.Sealed P) ∧ S.queue.map Entry.data = (ledger C before).pending := by
  have hroom : ∀ {rest : List Event} {v : View} {S : Shelf}, s.world.trace = before ++ rest →
      v.Stands P C m₀ (main before) S → v.HasRoom := by
    intro rest v S hsplit hstands
    obtain ⟨V, -, hs, -, -, htight, -⟩ := h
    have hprefix : main before <+: V.view.trace := by
      rw [← hs.seq.world.main_eq, hsplit, main_append]
      exact List.prefix_append _ _
    have hbounded := (htight.history _ hprefix).bounded
    rw [hstands.replayed] at hbounded
    apply hasRoom_of_absent (m := v.media) _ (absent_of_bounded hbounded)
    intro x
    rw [hstands.lies.held.isSome_iff, InRun, ← hstands.lies.count, View.count]
    exact Nat.lt_succ_iff
  cases hcut with
  | between cut =>
    obtain ⟨v, S, hstands, -⟩ := h.stands cut hstarted
    refine ⟨v, S, ?_, hstands.lies, hroom cut hstands, hstands.sealed, ?_⟩
    · rw [← hstands.replayed, replay_main]
    · rw [← hstands.pending_eq, ledger_main]
  | within cut part =>
    obtain ⟨v, S, hstands, happend⟩ := h.stands cut hstarted
    obtain ⟨rfl, e, hwf, rfl⟩ := happend _ _ _ rfl
    obtain ⟨S', hlies, hqueue⟩ := hstands.lies.cutShort hstands.whole (hwf.isTorn_take part)
    have hfree : v.HasRoom := hroom cut hstands
    refine ⟨_, S', ?_, hlies, hfree, ?_, ?_⟩
    · rw [← replay_main, hstands.replayed]
    · rw [hqueue]
      exact hstands.sealed
    · rw [hqueue, ← hstands.pending_eq, ledger_main]

end BlockStore

end SolidSyslog.Store
