import SolidSyslog.Store.ShelfReads
import SolidSyslog.Store.NeverWedged

/-!
# Writing, on a shelf

A write first finds a block with room: the one written so far, or a new one, for which a read block
may go, drained or with what is unread of it. Then the record is added to the last block.
-/

namespace SolidSyslog.Store

open Lib

variable {σ : Type} {P : Platform σ} {C : Config}

/-- The times the discard policy has answered that the oldest records go. -/
def oldestAnswers (trace : List Event) : Nat :=
  trace.countP fun event => match event with
    | .call .getDiscardPolicy policy => policy == .oldest
    | _ => false

theorem oldestAnswers_append (t t' : List Event) :
    oldestAnswers (t ++ t') = oldestAnswers t + oldestAnswers t' :=
  List.countP_append

theorem oldestAnswers_main (trace : List Event) :
    oldestAnswers (main trace) = oldestAnswers trace := by
  unfold oldestAnswers main
  rw [List.countP_filter]
  congr 1
  funext e
  rcases e with ⟨request, answer⟩ | _ | _ | _ | _
  · cases request <;> simp [Event.isMain, Request.isMain]
  all_goals rfl

theorem oldestAnswers_le {t t' : List Event} (h : t <+: t') : oldestAnswers t ≤ oldestAnswers t' :=
  h.sublist.countP_le

namespace View

variable {v v' : View} {S : Shelf} {n : Sequence} {changed : Bool} {recordSize : Nat}

/-- What finding room for a record makes of a shelf: records go from the front of the queue, and
whether the read block is another. -/
structure Readied (S S' : Shelf) (changed : Bool) : Prop where
  dropped : ∃ gone, S.queue = gone ++ S'.queue ∧ (changed = false → gone = []) ∧
    (gone = [] → changed = true → S.unread = [])
  unread : changed = false → S'.unread = S.unread

theorem readied_refl (S : Shelf) : Readied S S false :=
  ⟨⟨[], rfl, fun _ => rfl, nofun⟩, fun _ => rfl⟩

theorem Holds.rotated (h : v.Holds C S) (hroom : v.HasRoom) (hrotated : v.Rotated C changed v') :
    ∃ S', v'.Holds C S' ∧ Moves C (v, S) (v', S') ∧ Readied S S' changed ∧
      (changed = false → v'.oldest = v.oldest ∧ v'.cursor = v.cursor) ∧
      (v.count < C.maxBlocks → S'.queue = S.queue) ∧ v'.corrupt = false := by
  have hextended := h.extended hroom
  have hmove : Move C (v, S) (v.extended, S.extended) := .extended hroom
  cases hrotated with
  | @evicted swept v₁ n sweep exceeds next =>
    obtain ⟨S₁, h₁, hmoves, hqueue, hstayed, hdrained⟩ := StoreView.Holds.swept hextended sweep
    rw [Shelf.queue_extended] at hqueue
    refine ⟨S₁.left, (h₁.dropped next).flags _ _, (Relation.ReflTransGen.head hmove hmoves).tail
      (.discarded next), ⟨⟨S₁.unread, ?_, nofun, ?_⟩, nofun⟩, nofun, ?_, ?_⟩
    · rw [Shelf.queue_left, ← hqueue, Shelf.queue]
    · intro hgone _
      cases swept with
      | true => exact hdrained rfl
      | false =>
        rw [(hstayed rfl).1] at hgone
        exact hgone
    · intro hfewer
      have hsweep := sweep.count_le
      rw [count_extended hroom] at hsweep
      omega
    · cases sweep with
      | left drained next' => rfl
      | stayed undrained => rfl
  | grown sweep within =>
    obtain ⟨S₁, h₁, hmoves, hqueue, hstayed, hdrained⟩ := StoreView.Holds.swept hextended sweep
    rw [Shelf.queue_extended] at hqueue
    refine ⟨S₁, h₁, .head hmove hmoves,
      ⟨⟨[], hqueue.symm, fun _ => rfl, fun _ => hdrained⟩, ?_⟩, ?_, fun _ => hqueue, ?_⟩
    · intro hsame
      rw [(hstayed hsame).1]
      rfl
    · intro hsame
      rw [(hstayed hsame).2]
      exact ⟨rfl, rfl⟩
    · cases sweep with
      | left drained next' => rfl
      | stayed undrained => rfl

/-- Where there is no room the shelf is as it was; otherwise records go from the front of the queue
only where the policy has answered that the oldest go, and the write block is whole. -/
theorem Holds.prepared {outcome : Bool × Bool} (h : v.Holds C S)
    (hprepared : v.Prepared C recordSize outcome v') :
    ∃ S', v'.Holds C S' ∧ Moves C (v, S) (v', S') ∧ Readied S S' outcome.2 ∧
      (outcome.2 = false → v'.oldest = v.oldest ∧ v'.cursor = v.cursor) ∧
      (S'.queue ≠ S.queue → oldestAnswers v.trace < oldestAnswers v'.trace) ∧
      (outcome.1 = true → v'.corrupt = false) := by
  cases hprepared with
  | fits room =>
    refine ⟨S, h, .refl, readied_refl S, fun _ => ⟨rfl, rfl⟩, fun hne =>
      absurd rfl hne, fun _ => ?_⟩
    by_contra hcorrupt
    exact room (.inl (by simpa using hcorrupt))
  | refused full most newest =>
    exact ⟨S, (h.traced _).filled, (Relation.ReflTransGen.single (.noted rfl)).tail .filled,
      readied_refl S, fun _ => ⟨rfl, rfl⟩, fun hne => absurd rfl hne, nofun⟩
  | grown full fewer rotated =>
    obtain ⟨S', h', hmoves, hreadied, hsame, hqueue, hclean⟩ :=
      h.rotated (BlockSequence.hasRoom_of_count fewer) rotated
    exact ⟨S', h', hmoves, hreadied, hsame, fun hne => absurd (hqueue fewer) hne, fun _ => hclean⟩
  | replaced full most room rotated =>
    obtain ⟨S', h', hmoves, hreadied, hsame, -, hclean⟩ := (h.traced _).rotated room rotated
    refine ⟨S', h', .head (.noted rfl) hmoves, hreadied, hsame, fun _ => ?_, fun _ => hclean⟩
    apply lt_of_lt_of_le _ (oldestAnswers_le rotated.prefix)
    rw [View.traced, oldestAnswers_append]
    exact Nat.lt_succ_self _

end View

namespace StoreView

variable {V V' : StoreView} {S : Shelf}

theorem moves_reportRefusal (V : StoreView) (S : Shelf) :
    View.Moves C (V.view, S) (V.reportRefusal.view, S) := by
  unfold reportRefusal
  split
  · exact .refl
  · exact .single (.noted rfl)

theorem moves_reportSealFailed (V : StoreView) (S : Shelf) :
    View.Moves C (V.view, S) (V.reportSealFailed.view, S) := by
  unfold reportSealFailed
  split
  · exact .refl
  · exact .single (.noted rfl)

theorem moves_reportEviction (V : StoreView) (S : Shelf) :
    View.Moves C (V.view, S) (V.reportEviction.view, S) := by
  unfold reportEviction
  split
  · split
    · exact .refl
    · exact .single (.noted rfl)
  · exact .refl

theorem moves_readied (V : StoreView) (v' : View) (changed : Bool) (S : Shelf) :
    View.Moves C (v', S) ((V.readied v' changed).view, S) := by
  have hreport := moves_reportEviction (C := C) { V with view := v' } S
  unfold readied
  split
  · exact hreport
  · exact hreport

theorem records_readied (V : StoreView) (v' : View) (changed : Bool) :
    (V.readied v' changed).records =
      if changed then { V.records with hasReadRecord := false } else V.records := by
  have hreport : ({ V with view := v' } : StoreView).reportEviction.records = V.records := by
    unfold reportEviction
    split
    · split <;> rfl
    · rfl
  unfold readied
  split
  · rw [forgotten, hreport]
  · exact hreport

theorem records_reportSealFailed (V : StoreView) : V.reportSealFailed.records = V.records := by
  unfold reportSealFailed
  split <;> rfl

theorem records_reportRefusal (V : StoreView) : V.reportRefusal.records = V.records := by
  unfold reportRefusal
  split <;> rfl

theorem view_readied (V : StoreView) (v' : View) (changed : Bool) :
    (V.readied v' changed).view.oldest = v'.oldest ∧
      (V.readied v' changed).view.cursor = v'.cursor ∧
      (V.readied v' changed).view.corrupt = v'.corrupt := by
  obtain ⟨reports, hview⟩ := view_readied_eq V v' changed
  rw [hview]
  exact ⟨rfl, rfl, rfl⟩

/-- A remembered record is where it was while the read block, the cursor and what is unread in the
block are. -/
theorem Holds.of_view (h : V.Holds C S) {S' : Shelf} (hview : V'.view.Holds C S')
    (hrecords : V'.records.hasReadRecord = true → V'.records = V.records ∧ S'.unread.head? =
      S.unread.head? ∧ V'.view.oldest = V.view.oldest ∧ V'.view.cursor = V.view.cursor) :
    V'.Holds C S' := by
  refine ⟨hview, fun hread => ?_⟩
  obtain ⟨hsame, hunread', holdest, hcursor⟩ := hrecords hread
  rw [hsame] at hread ⊢
  obtain ⟨e, rest, hunread, hblock, hoffset⟩ := h.read hread
  rw [hunread] at hunread'
  obtain ⟨rest', hrest'⟩ : ∃ rest', S'.unread = e :: rest' :=
    List.head?_eq_some_iff.1 (by rw [hunread']; rfl)
  exact ⟨e, rest', hrest', by rw [hblock, holdest], by rw [hoffset, hcursor]⟩

/-- The store ready for an append. -/
theorem Holds.readied {v' : View} {changed : Bool} {recordSize : Nat} (h : V.Holds C S)
    (hprepared : V.view.Prepared C recordSize (true, changed) v') :
    ∃ S', (V.readied v' changed).Holds C S' ∧
      View.Moves C (V.view, S) ((V.readied v' changed).view, S') ∧ View.Readied S S' changed ∧
      (S'.queue ≠ S.queue →
        oldestAnswers V.view.trace < oldestAnswers (V.readied v' changed).view.trace) ∧
      (V.readied v' changed).view.corrupt = false := by
  obtain ⟨S', h', hmoves, hreadied, hsame, hasked, hclean⟩ := h.view.prepared hprepared
  have hmore := moves_readied (C := C) V v' changed S'
  obtain ⟨holdest, hcursor, hcorrupt⟩ := view_readied V v' changed
  refine ⟨S', ?_, hmoves.trans hmore, hreadied, ?_, ?_⟩
  · apply h.of_view (h'.moves hmore)
    intro hread
    rw [records_readied] at hread ⊢
    cases changed with
    | true => cases hread
    | false =>
      refine ⟨rfl, ?_, ?_, ?_⟩
      · rw [hreadied.unread rfl]
      · rw [holdest]
        exact (hsame rfl).1
      · rw [hcursor]
        exact (hsame rfl).2
  · intro hne
    obtain ⟨reports, hview⟩ := view_readied_eq V v' changed
    rw [hview, oldestAnswers_append]
    exact (hasked hne).trans_le (Nat.le_add_right _ _)
  · rw [hcorrupt]
    exact hclean rfl

/-- What a write makes of a shelf and of the record remembered; `asked` where the policy has
answered that the oldest records go. -/
inductive Written (P : Platform σ) (data : Bytes) (S : Shelf) (read : Bool) (asked : Prop) :
    StoreWriteResult → Shelf → Bool → Prop
  | refused : Written P data S read asked .notRetained S read
  | lost {S₁ : Shelf} {changed : Bool} (readied : View.Readied S S₁ changed)
      (evicts : S₁.queue ≠ S.queue → asked) :
        Written P data S read asked .lost S₁ (read && !changed)
  | kept {S₁ : Shelf} {changed : Bool} {e : Entry} (readied : View.Readied S S₁ changed)
      (evicts : S₁.queue ≠ S.queue → asked) (message : e.data = data) (sealed : e.Sealed P) :
      Written P data S read asked .kept (S₁.stored e) (read && !changed)

theorem hasReadRecord_readied (V : StoreView) (v' : View) (changed : Bool) :
    (V.readied v' changed).records.hasReadRecord = (V.records.hasReadRecord && !changed) := by
  rw [records_readied]
  cases changed <;> simp

/-- A write. -/
theorem Holds.wrote (hP : KeepsHeader P) (h : V.Holds C S) {data : Bytes}
    {result : StoreWriteResult} (hfits : data.length ≤ C.tunables.maxMessageSize)
    (hwrote : V.Wrote P C data result V') :
    ∃ S', V'.Holds C S' ∧ View.Moves C (V.view, S) (V'.view, S') ∧
      Written P data S V.records.hasReadRecord
        (oldestAnswers V.view.trace < oldestAnswers V'.view.trace) result S'
        V'.records.hasReadRecord := by
  have hmax := C.tunables.maxMessageSize_le
  have hlength : toUint16 data.length = data.length := toUint16_of_le (by omega)
  cases hwrote with
  | empty none => exact ⟨S, h, .refl, .refused⟩
  | @refused v' changed some prepared =>
    cases prepared with
    | @refused policy full most newest =>
      have hrefused : StoreView.Holds C { V with
          view := { V.view.traced (.call .getDiscardPolicy policy) with atCapacity := true } } S :=
        ⟨(h.view.traced _).filled, h.read⟩
      have hmore := moves_reportRefusal (C := C) { V with
        view := { V.view.traced (.call .getDiscardPolicy policy) with atCapacity := true } } S
      refine ⟨S, ?_, (Relation.ReflTransGen.head (.noted rfl) (.single .filled)).trans hmore, ?_⟩
      · apply hrefused.of_view (hrefused.view.moves hmore)
        obtain ⟨reports, hview⟩ := view_reportRefusal_eq { V with
          view := { V.view.traced (.call .getDiscardPolicy policy) with atCapacity := true } }
        rw [hview]
        exact fun _ => ⟨records_reportRefusal _, rfl, rfl, rfl⟩
      · rw [records_reportRefusal]
        exact .refused
  | @lost v' changed some prepared =>
    obtain ⟨S₁, h₁, hmoves, hreadied, hasked, -⟩ := h.readied prepared
    have hlost : View.Moves C ((V.readied v' changed).view, S₁)
        ((((V.readied v' changed).traced (.call (.sealRecord
          (header (toUint16 data.length) ++ data)) none)).reportSealFailed).view, S₁) :=
      .head (.noted rfl) (moves_reportSealFailed ((V.readied v' changed).traced
        (.call (.sealRecord (header (toUint16 data.length) ++ data)) none)) S₁)
    obtain ⟨events, hview⟩ := view_reportSealFailed_eq ((V.readied v' changed).traced
      (.call (.sealRecord (header (toUint16 data.length) ++ data)) none))
    refine ⟨S₁, ?_, hmoves.trans hlost, ?_⟩
    · apply h₁.of_view (h₁.view.moves hlost)
      rw [hview]
      exact fun _ => ⟨records_reportSealFailed _, rfl, rfl, rfl⟩
    · rw [records_reportSealFailed]
      change Written P data S V.records.hasReadRecord _ .lost S₁
        (V.readied v' changed).records.hasReadRecord
      rw [hasReadRecord_readied]
      apply Written.lost hreadied
      intro hgone
      rw [hview]
      change _ < oldestAnswers ((V.readied v' changed).view.trace ++ [_] ++ events)
      simp only [oldestAnswers_append]
      exact (hasked hgone).trans_le (by omega)
  | @kept v' changed sealedContent trailer env some prepared sealed =>
    obtain ⟨S₁, h₁, hmoves, hreadied, hasked, hclean⟩ := h.readied prepared
    rw [hlength] at sealed ⊢
    let e : Entry := ⟨data, sealedContent, trailer, sentFlagUnsent⟩
    have hsealed : e.Sealed P := ⟨env, sealed⟩
    have hwf : e.WellFormed C := Entry.wellFormed_of_sealed hP some hfits hsealed
    have hbytes : RecordStore.recordBytes C data sealedContent trailer = e.bytes C :=
      Entry.recordBytes_eq (by omega)
    have hkept : View.Move C ((V.readied v' changed).view, S₁)
        ((((V.readied v' changed).traced (.call (.sealRecord (header data.length ++ data))
          (.some (sealedContent, trailer)))).kept
            (RecordStore.recordBytes C data sealedContent trailer)).view, S₁.stored e) := by
      rw [hbytes]
      exact .stored hwf rfl hclean
    refine ⟨S₁.stored e, ?_, hmoves.tail hkept, ?_⟩
    · apply h₁.of_view (h₁.view.move hkept)
      intro hread
      refine ⟨rfl, ?_, rfl, rfl⟩
      obtain ⟨e', rest, hunread, -⟩ := h₁.read hread
      unfold Shelf.stored
      split
      · simp [hunread]
      · rfl
    · change Written P data S V.records.hasReadRecord _ .kept _
        (V.readied v' changed).records.hasReadRecord
      rw [hasReadRecord_readied]
      refine .kept hreadied (fun hgone => ?_) rfl hsealed
      change _ < oldestAnswers ((V.readied v' changed).view.trace ++ [_] ++ [_])
      simp only [oldestAnswers_append]
      exact (hasked hgone).trans_le (by omega)

end StoreView

end SolidSyslog.Store
