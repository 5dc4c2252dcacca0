import SolidSyslog.Store.Entry
import SolidSyslog.Store.Representation
import SolidSyslog.Store.SentFlag.Parts

/-!
# A store with nothing unsent takes a record

Whatever the media held at the start, a store with nothing unsent is one block with its cursor at
the end. A record goes there, or into a new block for which the old one is given up, and is the
next to be read.
-/

namespace SolidSyslog.Store

open Lib

variable {σ : Type} {P : Platform σ} {C : Config} {media : σ → Media} {m₀ : Media}

/-! ## Seals that failed -/

theorem failedSeals_main (trace : List Event) : failedSeals (main trace) = failedSeals trace := by
  unfold failedSeals main
  rw [List.countP_filter]
  congr 1
  funext e
  rcases e with ⟨request, answer⟩ | _ | _ | _ | _
  · cases request <;> simp [Event.isFailedSeal, Event.isMain, Request.isMain]
  all_goals rfl

/-! ## What is added to the trace -/

namespace View

variable {v v' : View} {n : Sequence}

theorem Swept.prefix {changed : Bool} (h : v.Swept changed v') : v.trace <+: v'.trace := by
  cases h with
  | left drained next => exact List.prefix_append ..
  | stayed undrained => exact List.prefix_refl _

theorem Rotated.prefix {changed : Bool} (h : v.Rotated C changed v') : v.trace <+: v'.trace := by
  have hextended : v.trace <+: v.extended.trace := List.prefix_append ..
  cases h with
  | evicted sweep exceeds next =>
    exact (hextended.trans sweep.prefix).trans (List.prefix_append ..)
  | grown sweep within => exact hextended.trans sweep.prefix

theorem Prepared.prefix {recordSize : Nat} {outcome : Bool × Bool}
    (h : v.Prepared C recordSize outcome v') : v.trace <+: v'.trace := by
  cases h with
  | fits room => exact List.prefix_refl _
  | refused full most newest => exact List.prefix_append ..
  | grown full fewer rotated => exact rotated.prefix
  | replaced full most room rotated => exact (List.prefix_append ..).trans rotated.prefix

theorem WellFormed.swept {changed : Bool} (h : v.WellFormed) (hswept : v.Swept changed v') :
    v'.WellFormed := by
  cases hswept with
  | left drained next => exact (h.dropped next).flags _ _
  | stayed undrained => exact h

theorem WellFormed.rotated {changed : Bool} (h : v.WellFormed) (hroom : v.HasRoom)
    (hrotated : v.Rotated C changed v') : v'.WellFormed := by
  cases hrotated with
  | evicted sweep exceeds next => exact (((h.extended hroom).swept sweep).dropped next).flags _ _
  | grown sweep within => exact (h.extended hroom).swept sweep

theorem WellFormed.prepared {recordSize : Nat} {outcome : Bool × Bool} (h : v.WellFormed)
    (hprepared : v.Prepared C recordSize outcome v') : v'.WellFormed := by
  cases hprepared with
  | fits room => exact h
  | refused full most newest => exact h.traced_call.flags _ _
  | grown full fewer rotated => exact h.rotated (BlockSequence.hasRoom_of_count fewer) rotated
  | replaced full most room rotated => exact h.traced_call.rotated room rotated

end View

namespace StoreView

variable {V V' : StoreView} {data : Bytes}

/-! ## One block with its cursor at the end -/

/-- Nothing unsent: one block, read to its end. -/
theorem at_end_of_idle (h : V.Sound) (hidle : ¬ V.HasUnsent) :
    V.view.oldest = V.view.write ∧ V.view.cursor = V.view.writeSize := by
  unfold HasUnsent at hidle
  push Not at hidle
  obtain ⟨hsame, hcursor⟩ := hidle
  have hsize : V.view.readSize = V.view.writeSize := by rw [View.readSize, View.writeSize, hsame]
  exact ⟨hsame, le_antisymm (h.cursor.trans hsize.le) hcursor⟩

theorem count_of_idle (hsame : V.view.oldest = V.view.write) : V.view.count = 1 := by
  rw [View.count, hsame, ahead_self]

/-- The block ready for the record of an idle store is read to its end, too. -/
theorem prepared_of_idle (h : V.Sound) (hidle : ¬ V.HasUnsent) {v' : View} {recordSize : Nat}
    {outcome : Bool × Bool} (hprepared : V.view.Prepared C recordSize outcome v') :
    outcome.1 = true ∧ v'.oldest = v'.write ∧ v'.cursor = v'.writeSize := by
  obtain ⟨hsame, hcursor⟩ := at_end_of_idle h hidle
  have hone := count_of_idle hsame
  have htwo := C.two_le_maxBlocks
  cases hprepared with
  | fits room => exact ⟨rfl, hsame, hcursor⟩
  | refused full most newest => omega
  | replaced full most room rotated => omega
  | grown full fewer rotated =>
    have hroom := BlockSequence.hasRoom_of_count fewer
    have hdrained : V.view.extended.IsDrained := by
      refine ⟨hroom.symm, ?_⟩
      rw [View.readSize_extended hroom]
      change _ ≤ V.view.cursor
      rw [hcursor, View.readSize, View.writeSize, hsame]
    have hextended : V.view.extended.count = 2 := by rw [View.count_extended hroom, hone]
    cases rotated with
    | evicted sweep exceeds next =>
      have hsweep := sweep.count_le
      omega
    | grown sweep within =>
      cases sweep with
      | stayed undrained => exact absurd hdrained undrained
      | @left n drained next =>
        have hless : (V.view.extended.dropped n).count < V.view.extended.count := next.count_lt
        have hlast : ahead n (nextSequence V.view.write) = 0 := by
          have hcount : (V.view.extended.dropped n).count =
            ahead n (nextSequence V.view.write) + 1 := rfl
          omega
        have hwrite : nextSequence V.view.write = n := ahead_eq_zero.1 hlast
        refine ⟨rfl, hwrite.symm, ?_⟩
        have hsize : (V.view.extended.dropped n).writeSize = 0 :=
          next.writeSize.trans View.writeSize_extended
        exact hsize.symm

theorem failedSeals_lost {v' : View} {changed : Bool} {outcome : Bool × Bool} {recordSize : Nat}
    {content : Bytes} (hprepared : V.view.Prepared C recordSize outcome v') :
    failedSeals V.view.trace < failedSeals (((V.readied v' changed).traced
      (.call (.sealRecord content) none)).reportSealFailed).view.trace := by
  obtain ⟨reports, hready⟩ := view_readied_eq V v' changed
  obtain ⟨more, hprefix⟩ := hprepared.prefix
  obtain ⟨reports', hview⟩ := view_reportSealFailed_eq
    ((V.readied v' changed).traced (.call (.sealRecord content) none))
  rw [hview]
  change _ < failedSeals ((V.readied v' changed).view.trace ++ [_] ++ reports')
  rw [hready, ← hprefix]
  simp only [failedSeals_append]
  have hone : failedSeals [.call (.sealRecord content) none] = 1 := rfl
  omega

/-- A write to an idle store keeps the record, at the cursor of a store of one block, unless its
seal fails. -/
theorem wrote_of_idle (h : V.Sound) (hidle : ¬ V.HasUnsent)
    (hwf : V.view.WellFormed) (hpos : 0 < data.length) {result : StoreWriteResult}
    (hwrote : V.Wrote P C data result V') :
    failedSeals V.view.trace < failedSeals V'.view.trace ∨
      (result = .kept ∧ ∃ front sealedContent trailer env,
        (P.answer (.sealRecord (header (toUint16 data.length) ++ data)) env).1 =
          some (sealedContent, trailer) ∧
        V'.view.oldest = V'.view.write ∧ V'.view.cursor = front.length ∧
        V'.readContent = front ++ RecordStore.recordBytes C data sealedContent trailer) := by
  cases hwrote with
  | empty none =>
    rw [none] at hpos
    cases hpos
  | refused some prepared => exact absurd (prepared_of_idle h hidle prepared).1 Bool.false_ne_true
  | lost some prepared => exact .inl (failedSeals_lost prepared)
  | @kept v' changed sealedContent trailer env some prepared sealed =>
    obtain ⟨-, hsame, hcursor⟩ := prepared_of_idle h hidle prepared
    obtain ⟨content, hcontent⟩ := Option.isSome_iff_exists.1 (hwf.prepared prepared).write_present
    obtain ⟨reports, hready⟩ := view_readied_eq V v' changed
    have hsize : v'.writeSize = content.length := by rw [View.writeSize, hcontent]; rfl
    refine .inr ⟨rfl, content, sealedContent, trailer, env, sealed, ?_, ?_, ?_⟩
    · unfold StoreView.kept traced
      rw [hready]
      exact hsame
    · unfold StoreView.kept traced
      rw [hready]
      exact hcursor.trans hsize
    · unfold readContent StoreView.kept traced
      rw [hready]
      change ((v'.media.after (.append v'.write _) v'.oldest).getD []) = _
      rw [hsame]
      simp [Media.after, hcontent]

end StoreView

namespace BlockStore

variable {V : StoreView} {s s₁ : BlockStore σ} {ops : List (Op C)} {answers : List Answer}
  {message : Message C} {answer : Answer}

/-- The store sees a sound view in every state of a run in which no write takes the read block. -/
theorem run_sees_sound (hP : Faithful P media) (hdispose : DisposesAlways P media) {env : σ}
    (hrun : Run (fun s op answer s' => Step P s op answer s' ∧ ¬ TakesReadBlock P s op)
      (created P C env) ops answers s) : ∃ V, V.Sound ∧ s.Sees media (media env) V := by
  obtain ⟨V₀, hcreated, hs₀⟩ := created_sees (C := C) hP hdispose env
  apply hrun.invariant (D := fun _ => True)
    (I := fun s => ∃ V, V.Sound ∧ s.Sees media (media env) V) (fun _ _ => trivial)
    ⟨V₀, hcreated.sound, hs₀⟩
  rintro s op answer s' - ⟨V, hV, hs⟩ ⟨hstep, hsafe⟩
  have hroom : ∀ message, op = .write message → HasRoomFor P C V s message.bytes := by
    intro message hop hpos hfull hpolicy hnext
    apply hsafe
    refine ⟨message, hop, hs.frozen, hpos, (hs.agrees.blockIsFull _).2 hfull, ?_, hpolicy⟩
    change nextSequence s.seq.writeSequence = s.seq.readSequence
    rw [hs.agrees.writeSequence, hs.agrees.readSequence, hnext]
  rcases step_sees hP hs hV hroom hstep with ⟨V', hperformed, hs'⟩ | hjammed
  · exact ⟨V', StoreView.stable_sound.performed hV hperformed, hs'⟩
  · exact absurd hjammed (not_jammed hdispose)

/-- A read finds the record at the cursor of a store that has just kept it. -/
theorem read_of_kept (hP : Faithful P media) (hdispose : DisposesAlways P media)
    (hpolicy : SealsInPlace P C) (hs : s.Sees media m₀ V) {front : Bytes} {e : Entry}
    (hsealed : e.Sealed P) (hpos : 0 < e.data.length)
    (hle : e.data.length ≤ C.tunables.maxMessageSize)
    (hunsent : flagMarksSentOrDiscarded e.flag = false)
    (hlast : V.view.oldest = V.view.write) (hcursor : V.view.cursor = front.length)
    (hcontent : V.readContent = front ++ e.bytes C) {maxSize : Nat}
    (hmax : 0 < maxSize) (fuel : Nat) :
    Ensures (perform P fuel (.readNextUnsent (C := C) maxSize)) (fun answer _ =>
      answer = .read (some (e.data.take maxSize)) ∨ (fuel = 0 ∧ answer = .unfinished)) s := by
  have hread : ∀ {found : RecordStore.Found},
      ReadAt P C V.readContent V.view.cursor maxSize found →
      found = ⟨.succeeded, e.data.length, e.data.take maxSize⟩ := by
    intro found hfound
    apply Entry.readAt_unsent front [] hpolicy
      (Entry.wellFormed_of_sealed hpolicy.keepsHeader hpos hle hsealed) hsealed hunsent
    rwa [List.append_nil, ← hcontent, ← hcursor]
  have hturn : ∀ {found V'}, ¬ V.Turn P C maxSize found true V' := by
    intro found V' hturn
    cases hturn with
    | moved read result next => rw [hread read] at result; cases result
    | abandoned read result next => rw [hread read] at result; cases result
    | finishedWith read result => rw [hread read] at result; cases result
    | rejected read result => rw [hread read] at result; cases result
  have hbytes : 0 < (e.data.take maxSize).length := by
    rw [List.length_take]
    omega
  have hunread : V.HasUnsent := by
    have hsize : V.view.writeSize = V.readContent.length := by
      rw [View.writeSize, ← hlast]
      rfl
    refine .inr ?_
    rw [hsize, hcontent, List.length_append, hcursor, Entry.length_bytes]
    exact Nat.lt_add_of_pos_right (C.recordSize_pos _)
  unfold perform
  apply (readNextUnsent_sees hP hs).bind
  rintro outcome s' (⟨rfl, V', -, hturns, -⟩ | ⟨bytes, V', rfl, hread', -⟩ | ⟨-, hjammed⟩)
  · cases hturns with
    | refl V => exact .inr ⟨rfl, rfl⟩
    | head turn rest => exact absurd turn hturn
  · cases hread' with
    | nothing done => exact absurd hunread done
    | found unsent turns last =>
      cases turns with
      | head turn rest => exact absurd turn hturn
      | refl V =>
        have hfound := hread last.read
        rw [hfound, if_pos hbytes]
        exact .inl rfl
  · exact absurd hjammed (not_jammed hdispose)

/-- Two records that fill the store, one that is refused, and both are handed out and marked. -/
def drained : List (Op .small) :=
  [.write (fullOf 1), .write (fullOf 2), .write (fullOf 3), .readNextUnsent 64, .markSent,
    .readNextUnsent 64, .markSent]

def drainedAnswers : List Answer :=
  [.wrote .kept, .wrote .kept, .wrote .notRetained, .read (some (fullOf 1).bytes), .marked,
    .read (some (fullOf 2).bytes), .marked]

theorem drained_run : Run (fun s op answer s' => Step (ramDevice .newest) s op answer s' ∧
      ¬ TakesReadBlock (ramDevice .newest) s op)
    (created (ramDevice .newest) .small Media.empty) drained drainedAnswers
    (Run.doAll (perform (ramDevice .newest) 3) drained
      (created (ramDevice .newest) .small Media.empty)).2 := by
  have hnever : ∀ (s : BlockStore Media) (op : Op .small),
      ¬ TakesReadBlock (ramDevice .newest) s op := by
    rintro s op ⟨message, -, -, -, -, -, hpolicy⟩
    cases hpolicy
  have hanswers : (Run.doAll (perform (ramDevice .newest) 3) drained
      (created (ramDevice .newest) .small Media.empty)).1 = drainedAnswers := by
    decide +kernel
  rw [← hanswers]
  exact Run.of_along (D := fun _ _ => True) (fun _ => ⟨⟨3, rfl⟩, hnever _ _⟩) fun _ _ => trivial

def sentBeforeUnsent : Media :=
  fun block => some (
    if block = 0 then [0xA5, 0x5A, 3, 0, 65, 65, 65, 0x00, 0xA5, 0x5A, 1, 0, 65, 0xFF]
    else if block = 99 then [0xA5] else [0xA5, 0x5A, 1, 0, 65, 0xFF])

/-- The store after a write that started over on the block being read. -/
def wedged : BlockStore Media :=
  (perform (ramDevice .oldest) (C := .small) 1 (.write (.one 66))
    (created (ramDevice .oldest) .small sentBeforeUnsent)).2

/-- The store after the next write. -/
def wedgedWithRecord : BlockStore Media :=
  (perform (ramDevice .oldest) (C := .small) 1 (.write ⟨[67], by decide⟩) wedged).2

end BlockStore

end SolidSyslog.Store
