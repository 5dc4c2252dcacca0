import SolidSyslog.Store.ShelfReads

/-!
# A start on a shelf

A start finds the blocks of a shelf, comes to rest on the first record that is not marked and gives
up what is torn, so its queue is what is unmarked on the media.
-/

namespace SolidSyslog.Store

open Lib

variable {σ : Type} {P : Platform σ} {C : Config}

/-! ## The walks over records -/

theorem extentAt_end {content : Bytes} {offset : Nat} (h : content.length ≤ offset) :
    C.extentAt content offset = .error .endOfData := by
  rw [Config.extentAt, if_neg (Nat.not_lt.2 h)]

theorem extentAt_torn {torn : Bytes} (htorn : C.IsTorn torn) (front : Bytes) :
    C.extentAt (front ++ torn) front.length =
      if torn = [] then .error .endOfData else .error .corrupt := by
  rcases htorn with rfl | hcorrupt
  · rw [if_pos rfl, extentAt_end (by simp)]
  · rw [if_neg, hcorrupt]
    intro hwhole
    have hend := hcorrupt []
    rw [hwhole, extentAt_end (by simp)] at hend
    cases hend

/-- The walk to the first unsent record comes to rest behind the marked ones, unless nothing but a
torn one follows. -/
theorem firstUnsent_records {front torn : Bytes} {behind unread : List Entry} {fuel : Nat}
    (hwf : ∀ e ∈ behind ++ unread, e.WellFormed C)
    (hmarked : ∀ e ∈ behind, flagMarksSentOrDiscarded e.flag = true)
    (hunsent : ∀ e ∈ unread, flagMarksSentOrDiscarded e.flag = false) (htorn : C.IsTorn torn)
    (hfuel : behind.length < fuel) :
    C.firstUnsent (front ++ (recordsBytes C behind ++ (recordsBytes C unread ++ torn))) front.length
      fuel =
      if unread = [] ∧ torn ≠ [] then
        ((front ++ (recordsBytes C behind ++ (recordsBytes C unread ++ torn))).length, .corrupt)
      else ((front ++ recordsBytes C behind).length, .clean) := by
  induction behind generalizing front fuel with
  | nil =>
    obtain ⟨fuel, rfl⟩ : ∃ k, fuel = k + 1 := ⟨fuel - 1, by rw [List.length_nil] at hfuel; omega⟩
    rw [Config.firstUnsent, recordsBytes_nil, List.nil_append, List.append_nil]
    rcases unread with _ | ⟨e, rest⟩
    · rw [recordsBytes_nil, List.nil_append, extentAt_torn htorn]
      by_cases hwhole : torn = []
      · simp [hwhole]
      · simp [hwhole]
    · have hsplit : front ++ (recordsBytes C (e :: rest) ++ torn) =
          front ++ e.bytes C ++ (recordsBytes C rest ++ torn) := by simp
      rw [hsplit, Entry.extentAt_bytes front _ (hwf e List.mem_cons_self)]
      dsimp only
      rw [Entry.flagAt_bytes, hunsent e List.mem_cons_self]
      simp
  | cons e behind ih =>
    obtain ⟨fuel, rfl⟩ : ∃ k, fuel = k + 1 := ⟨fuel - 1, by rw [List.length_cons] at hfuel; omega⟩
    have hsplit : front ++ (recordsBytes C (e :: behind) ++ (recordsBytes C unread ++ torn)) =
        front ++ e.bytes C ++ (recordsBytes C behind ++ (recordsBytes C unread ++ torn)) := by simp
    have hnext : front.length + C.recordSize e.data.length = (front ++ e.bytes C).length := by
      rw [List.length_append, Entry.length_bytes]
    have hrest := @ih (front ++ e.bytes C) fuel
      (fun e' he' => hwf e' (List.mem_cons_of_mem _ he'))
      (fun e' he' => hmarked e' (List.mem_cons_of_mem _ he'))
      (by rw [List.length_cons] at hfuel; omega)
    rw [Config.firstUnsent, hsplit, Entry.extentAt_bytes front _ (hwf e List.mem_cons_self)]
    dsimp only
    rw [Entry.flagAt_bytes, hmarked e List.mem_cons_self, if_pos rfl, hnext, hrest]
    simp

/-- The walk to the end finds what is torn there. -/
theorem scanEnd_records {front torn : Bytes} {entries : List Entry} {fuel : Nat}
    (hwf : ∀ e ∈ entries, e.WellFormed C) (htorn : C.IsTorn torn) (hfuel : entries.length < fuel) :
    C.scanEnd (front ++ (recordsBytes C entries ++ torn)) front.length fuel =
      if torn = [] then .clean else .corrupt := by
  induction entries generalizing front fuel with
  | nil =>
    obtain ⟨fuel, rfl⟩ : ∃ k, fuel = k + 1 := ⟨fuel - 1, by rw [List.length_nil] at hfuel; omega⟩
    rw [Config.scanEnd, recordsBytes_nil, List.nil_append, extentAt_torn htorn]
    by_cases hwhole : torn = []
    · simp [hwhole]
    · simp [hwhole]
  | cons e entries ih =>
    obtain ⟨fuel, rfl⟩ : ∃ k, fuel = k + 1 := ⟨fuel - 1, by rw [List.length_cons] at hfuel; omega⟩
    have hsplit : front ++ (recordsBytes C (e :: entries) ++ torn) =
        front ++ e.bytes C ++ (recordsBytes C entries ++ torn) := by simp
    have hnext : front.length + C.recordSize e.data.length = (front ++ e.bytes C).length := by
      rw [List.length_append, Entry.length_bytes]
    rw [Config.scanEnd, hsplit, Entry.extentAt_bytes front _ (hwf e List.mem_cons_self)]
    dsimp only
    rw [hnext]
    exact ih (fun e' he' => hwf e' (List.mem_cons_of_mem _ he'))
      (by rw [List.length_cons] at hfuel; omega)

theorem length_le_recordsBytes (entries : List Entry) :
    2 * entries.length ≤ (recordsBytes C entries).length := by
  induction entries with
  | nil => exact le_refl _
  | cons e entries ih =>
    have hsize : 2 ≤ C.recordSize e.data.length := by
      unfold Config.recordSize
      omega
    rw [recordsBytes_cons, List.length_cons, List.length_append, Entry.length_bytes]
    omega

namespace View

variable {v : View} {S : Shelf}

/-- The blocks are those of the shelf, whose records are marked up to the read position and unsent
from there on. -/
structure Lies (C : Config) (v : View) (S : Shelf) : Prop where
  media : v.media = fun x => (laidOut v.oldest S.blocks x).map (Block.bytes C)
  count : v.count = S.blocks.length
  wellFormed : ∀ b ∈ S.blocks, b.WellFormed C
  marked : ∀ e ∈ S.behind, flagMarksSentOrDiscarded e.flag = true
  unsent : ∀ e ∈ S.queue, flagMarksSentOrDiscarded e.flag = false

namespace Lies

variable {n : Sequence}

/-- With the cursor where the shelf is read and what is torn at the end known, it is held. -/
theorem holds (h : v.Lies C S) (hcursor : v.cursor = (recordsBytes C S.behind).length ∨
      (S.unread = [] ∧ v.cursor = (S.readBlock.bytes C).length))
    (hwhole : v.corrupt = false → ∀ b ∈ S.blocks.getLast?, b.torn = []) : v.Holds C S :=
  ⟨h.media, h.count, hcursor, h.wellFormed, h.unsent, hwhole⟩

/-- Whatever the cursor and the mark, some view of the same blocks holds them. -/
theorem held (h : v.Lies C S) :
    Holds C { v with cursor := (recordsBytes C S.behind).length, corrupt := true } S :=
  ⟨h.media, h.count, .inl rfl, h.wellFormed, h.unsent, nofun⟩

theorem left (h : v.Lies C S) (hn : v.Next n) : (v.drained n).Lies C S.left := by
  have hleft := h.held.dropped ⟨hn.present, hn.ne, hn.le, hn.first⟩
  refine ⟨hleft.media, hleft.count, hleft.wellFormed, ?_, hleft.unsent⟩
  obtain ⟨behind, unread, torn, _ | ⟨b, later⟩⟩ := S
  · exact nofun
  · exact nofun

end Lies

end View

namespace StoreView

variable {V V' : StoreView} {S : Shelf}

/-- The scan of the read block comes to rest at the read position, or finds that nothing but a torn
record is left. -/
theorem scan_of_lies (h : V.view.Lies C S) :
    C.firstUnsent V.readContent 0 V.readContent.length =
      if S.unread = [] ∧ S.torn ≠ [] then (V.readContent.length, .corrupt)
      else ((recordsBytes C S.behind).length, .clean) := by
  have hcontent : V.readContent =
      recordsBytes C S.behind ++ (recordsBytes C S.unread ++ S.torn) := by
    rw [StoreView.readContent, h.held.read_media, Option.getD_some, Block.bytes, Shelf.readBlock]
    simp
  have hblock := h.wellFormed S.readBlock List.mem_cons_self
  rw [hcontent]
  by_cases hempty : S.behind = [] ∧ S.unread = [] ∧ S.torn = []
  · obtain ⟨hbehind, hunread, htorn⟩ := hempty
    rw [hbehind, hunread, htorn]
    rfl
  · have hfuel : S.behind.length <
        (recordsBytes C S.behind ++ (recordsBytes C S.unread ++ S.torn)).length := by
      have hbehind := length_le_recordsBytes (C := C) S.behind
      have hunread := length_le_recordsBytes (C := C) S.unread
      simp only [List.length_append]
      by_contra hle
      apply hempty
      rw [← List.length_eq_zero_iff, ← List.length_eq_zero_iff, ← List.length_eq_zero_iff]
      omega
    have hscan := @firstUnsent_records C [] S.torn S.behind S.unread _ hblock.entries h.marked
      (fun e he => h.unsent e (List.mem_append_left _ he)) hblock.torn hfuel
    simpa only [List.nil_append, List.length_nil] using hscan

theorem scanned_cursor (h : V.view.Lies C S) (hclean : ¬ (S.unread = [] ∧ S.torn ≠ [])) :
    (V.scanned C).view = { V.view with cursor := (recordsBytes C S.behind).length } := by
  rw [StoreView.scanned, scan_of_lies h, if_neg hclean]

theorem lies_reportLoss (h : V.view.Lies C S) (fault : BlockStoreError) :
    (V.reportLoss fault).view.Lies C S := by
  obtain ⟨reports, hview⟩ := view_reportLoss_eq V fault
  rw [hview]
  exact ⟨h.media, h.count, h.wellFormed, h.marked, h.unsent⟩

/-- The blocks a start leaves have nothing unsent. -/
theorem Resuming.lies (h : Resuming C V V') (hV : V.view.Lies C S) :
    ∃ S', V'.view.Lies C S' ∧ S'.queue = S.queue := by
  induction h generalizing S with
  | refl V => exact ⟨S, hV, rfl⟩
  | @head V V' n corrupt next rest ih =>
    have hdone : S.unread = [] := by
      rw [StoreView.scanResult, scan_of_lies hV] at corrupt
      by_cases htorn : S.unread = [] ∧ S.torn ≠ []
      · exact htorn.1
      · rw [if_neg htorn] at corrupt
        cases corrupt
    have hscanned : (V.scanned C).view.Lies C S :=
      ⟨hV.media, hV.count, hV.wellFormed, hV.marked, hV.unsent⟩
    have hleft : ((V.scanned C).left n).view.Lies C S.left :=
      hscanned.left ⟨next.present, next.ne, next.le, next.first⟩
    obtain ⟨S', hS', hqueue⟩ := ih (lies_reportLoss hleft .recordCorrupt)
    refine ⟨S', hS', ?_⟩
    rw [hqueue, Shelf.queue_left, Shelf.queue, hdone, List.nil_append]

/-- The check of the write block finds what is torn there. -/
theorem holds_checked (h : V.view.Lies C S)
    (hcursor : V.view.cursor = (recordsBytes C S.behind).length ∨
      (S.unread = [] ∧ V.view.cursor = (S.readBlock.bytes C).length))
    (hspoiled : V.view.cursor ≠ (recordsBytes C S.behind).length → V.view.corrupt = true)
    (hread : V.records.hasReadRecord = false) : (V.checked C).Holds C S := by
  obtain ⟨front, b, hblocks⟩ := (List.eq_nil_or_concat S.blocks).resolve_left (List.cons_ne_nil _ _)
  rw [List.concat_eq_append] at hblocks
  have hlast : S.blocks.getLast? = some b := by rw [hblocks]; simp
  have hblock := h.wellFormed b (by rw [hblocks]; simp)
  have hcontent : V.writeContent = b.bytes C := by
    rw [writeContent, h.held.write_media hblocks]
    rfl
  -- where the walk starts there are only records up to what is torn
  have hfound : V.view.cursor = (recordsBytes C S.behind).length →
      C.scanEnd V.writeContent V.checkStart V.writeContent.length ≠ .corrupt → b.torn = [] := by
    intro hat hclean
    by_contra htorn
    obtain ⟨start, entries, hentries, hstart, hsplit⟩ : ∃ start entries,
        (∀ e ∈ entries, e.WellFormed C) ∧ V.checkStart = (recordsBytes C start).length ∧
        b.entries = start ++ entries := by
      by_cases hsame : V.view.oldest = V.view.write
      · have hsingle := h.held.later_eq_nil_iff.2 hsame
        have hb : b = S.readBlock := by
          rw [Shelf.blocks, hsingle] at hlast
          simpa using hlast.symm
        refine ⟨S.behind, S.unread, ?_, ?_, by rw [hb]; rfl⟩
        · intro e he
          apply hblock.entries
          rw [hb]
          exact List.mem_append_right _ he
        · rw [checkStart, if_pos hsame, hat]
      · refine ⟨[], b.entries, hblock.entries, ?_, rfl⟩
        rw [checkStart, if_neg hsame]
        rfl
    have hbytes : b.bytes C =
        recordsBytes C start ++ (recordsBytes C entries ++ b.torn) := by
      rw [Block.bytes, hsplit]
      simp
    have hfuel : entries.length < (b.bytes C).length := by
      have hlength := length_le_recordsBytes (C := C) entries
      have hpos := List.length_pos_iff.2 htorn
      rw [hbytes]
      simp only [List.length_append]
      omega
    apply hclean
    rw [hcontent, hstart, hbytes, scanEnd_records hentries hblock.torn (hbytes ▸ hfuel),
      if_neg htorn]
  unfold checked
  split
  · exact ⟨⟨h.media, h.count, hcursor, h.wellFormed, h.unsent, (by rintro ⟨⟩)⟩,
      fun hremembered => absurd (hremembered.symm.trans hread) (by rintro ⟨⟩)⟩
  · next hclean =>
    refine ⟨h.holds hcursor ?_, fun hremembered => absurd (hremembered.symm.trans hread)
      (by rintro ⟨⟩)⟩
    intro hnot b' hb'
    obtain rfl : b = b' := by
      rw [hlast] at hb'
      exact Option.some.inj hb'
    apply hfound _ hclean
    by_contra hmoved
    rw [hspoiled hmoved] at hnot
    cases hnot

/-- What a start on these blocks leaves. -/
theorem holds_resumed (hV : V.view.Lies C S) (hread : V.records.hasReadRecord = false)
    (hresumed : Resumed C V V') : ∃ S', (V'.checked C).Holds C S' ∧ S'.queue = S.queue ∧
      (V'.checked C).records.hasReadRecord = false := by
  have hchecked : ∀ W : StoreView, (W.checked C).records = W.records := by
    intro W
    unfold checked
    split <;> rfl
  cases hresumed with
  | @scanned V₁ left found =>
    obtain ⟨S₁, h₁, hqueue⟩ := left.lies hV
    have hread₁ := unread_resuming hread left
    have hscan := scan_of_lies h₁
    have hnot : ¬ (S₁.unread = [] ∧ S₁.torn ≠ []) := by
      intro htorn
      rw [if_pos htorn] at hscan
      exact found (by rw [StoreView.scanResult, hscan])
    have hview := scanned_cursor h₁ hnot
    have hcursor : (V₁.scanned C).view.cursor = (recordsBytes C S₁.behind).length := by rw [hview]
    refine ⟨S₁, holds_checked ?_ (.inl hcursor) (fun hmoved => absurd hcursor hmoved)
      hread₁, hqueue,
      by rw [hchecked]; exact hread₁⟩
    exact ⟨h₁.media, h₁.count, h₁.wellFormed, h₁.marked, h₁.unsent⟩
  | @spoiled V₁ left corrupt last =>
    obtain ⟨S₁, h₁, hqueue⟩ := left.lies hV
    have hread₁ := unread_resuming hread left
    have hscanned : (V₁.scanned C).view.Lies C S₁ :=
      ⟨h₁.media, h₁.count, h₁.wellFormed, h₁.marked, h₁.unsent⟩
    have hdone : S₁.unread = [] := by
      rw [StoreView.scanResult, scan_of_lies h₁] at corrupt
      by_cases htorn : S₁.unread = [] ∧ S₁.torn ≠ []
      · exact htorn.1
      · rw [if_neg htorn] at corrupt
        cases corrupt
    have hspoiled : (V₁.scanned C).spoiled.records.hasReadRecord = false := by
      change ((V₁.scanned C).reportLoss .recordCorrupt).records.hasReadRecord = false
      rw [(view_reportLoss_size ..).2.2]
      exact hread₁
    have hsize : (V₁.scanned C).spoiled.view.cursor = (S₁.readBlock.bytes C).length := by
      have hreadSize := hscanned.held.readSize_eq
      change (V₁.scanned C).view.writeSize = _
      have hsame : (V₁.scanned C).view.oldest = (V₁.scanned C).view.write := last
      rw [View.writeSize, ← hsame]
      exact hreadSize
    have hlies : (V₁.scanned C).spoiled.view.Lies C S₁ := by
      have hreported := lies_reportLoss hscanned .recordCorrupt
      exact ⟨hreported.media, hreported.count, hreported.wellFormed, hreported.marked,
        hreported.unsent⟩
    exact ⟨S₁, holds_checked hlies (.inr ⟨hdone, hsize⟩) (fun _ => rfl) hspoiled, hqueue,
      by rw [hchecked]; exact hspoiled⟩

/-! ## Starts -/

/-- The first block of an empty device. -/
theorem lies_fresh {m : Media} (hempty : ∀ x, m x = none) (trace : List Event) :
    View.Lies C { oldest := 0, write := 0, cursor := 0, corrupt := false, atCapacity := false
                  evicted := false, media := m.after (.acquire 0), trace :=
                    trace } Shelf.empty := by
  refine ⟨?_, rfl, ?_, nofun, nofun⟩
  · have hzero : ahead (0 : Sequence) 0 = ([] : List Block).length := ahead_self 0
    have hlaid := laidOut_concat hzero Block.fresh
    funext x
    change Function.update m 0 (some []) x = (laidOut 0 ([] ++ [Block.fresh]) x).map (Block.bytes C)
    rw [hlaid]
    by_cases hx : x = 0
    · rw [hx, Function.update_self, Function.update_self]
      rfl
    · rw [Function.update_of_ne hx, Function.update_of_ne hx, hempty]
      rfl
  · intro b hb
    rw [List.mem_singleton.1 hb]
    exact Block.wellFormed_fresh

/-- A start on an empty device. -/
theorem Created.holds_empty {m : Media} (h : Created C m V) (hempty : ∀ x, m x = none) :
    ∃ S, V.Holds C S ∧ S.queue = [] ∧ V.records.hasReadRecord = false := by
  obtain ⟨hopened, hresumed⟩ := h
  cases hopened with
  | fresh => exact holds_resumed (lies_fresh hempty _) rfl hresumed
  | found located =>
    have hpresent := located.oldest
    rw [hempty] at hpresent
    cases hpresent

/-- A start on the blocks of a shelf. -/
theorem Created.holds {m : Media} {v : View} (h : Created C m V) (hlies : v.Lies C S)
    (hm : m = v.media) (hroom : v.HasRoom) :
    ∃ S', V.Holds C S' ∧ S'.queue = S.queue ∧ V.records.hasReadRecord = false := by
  have hin : ∀ x, (v.media x).isSome = true ↔ InRun v.oldest v.write x := by
    intro x
    rw [hlies.held.isSome_iff, InRun, ← hlies.count, View.count]
    exact Nat.lt_succ_iff
  obtain ⟨hopened, hresumed⟩ := h
  cases hopened with
  | fresh hempty =>
    have hpresent := (hin v.oldest).2 (by rw [InRun, ahead_self]; exact Nat.zero_le _)
    rw [← hm, hempty] at hpresent
    cases hpresent
  | @found o w located =>
    obtain ⟨rfl, rfl⟩ := located.same v.oldest v.write (by rw [hm]; exact hin) hroom
    refine holds_resumed (S := S) ⟨?_, hlies.count, hlies.wellFormed, hlies.marked, hlies.unsent⟩
      rfl hresumed
    exact hm.trans hlies.media

end StoreView

end SolidSyslog.Store
