import SolidSyslog.Store.CutPoints

/-!
# Crash recovery

The power may be cut at any moment of a run on a device that never fails, from an empty one on, and
in the middle of an append. A start on what is left delivers the records that were neither marked
nor evicted, in order, and no write after it goes behind a torn record.
-/

namespace SolidSyslog.Store

open Lib BlockStore

variable {σ : Type} {P : Platform σ} {C : Config} {media : σ → Media} {m₀ m : Media}

/-! ## Appends behind whole records -/

/-- What is appended goes behind whole records. -/
def AppendsToWhole (C : Config) (m₀ : Media) (before : List Event) (event : Event) : Prop :=
  ∀ block bytes, event = .call (.append block bytes) true →
    ∃ entries : List Entry, (∀ e ∈ entries, e.WellFormed C) ∧
      replay m₀ before block = some (recordsBytes C entries)

theorem appendsToWhole_of_not_append {before : List Event} {event : Event}
    (h : event.isAppend = false) : AppendsToWhole C m₀ before event := by
  rintro block bytes rfl
  cases h

theorem always_of_not_append {t t' : List Event} (h : Extends (fun e => e.isAppend = false) t t')
    (ht : Always (AppendsToWhole C m₀) t) : Always (AppendsToWhole C m₀) t' :=
  h.always ht fun _ _ _ hevent => appendsToWhole_of_not_append hevent

namespace View

variable {v v' : View} {S S' : Shelf}

/-- A move appends only behind whole records. -/
theorem Move.appends (h : v.Holds C S) (hreplayed : replay m₀ v.trace = v.media)
    (hmove : Move C (v, S) (v', S')) (ht : Always (AppendsToWhole C m₀) v.trace) :
    Always (AppendsToWhole C m₀) v'.trace := by
  cases hmove with
  | @noted _ _ event aside =>
    apply ht.concat (appendsToWhole_of_not_append _)
    rcases event with ⟨request, answer⟩ | _ | _ | _ | _
    · cases request with
      | append block bytes => cases aside
      | _ => rfl
    all_goals rfl
  | filled => exact ht
  | spoiled done => exact ht
  | drained next done => exact always_of_not_append ⟨_, rfl, by simp [Event.isAppend]⟩ ht
  | discarded next => exact always_of_not_append ⟨_, rfl, by simp [Event.isAppend]⟩ ht
  | extended room => exact always_of_not_append ⟨_, rfl, by simp [Event.isAppend]⟩ ht
  | @stored _ _ e wellFormed unsent clean =>
    apply (ht.concat (appendsToWhole_of_not_append rfl)).concat
    rintro block bytes ⟨⟩
    obtain ⟨front, b, hblocks⟩ :=
      (List.eq_nil_or_concat S.blocks).resolve_left (List.cons_ne_nil _ _)
    rw [List.concat_eq_append] at hblocks
    have hwhole : b.torn = [] := h.whole clean b (by rw [hblocks]; simp)
    refine ⟨b.entries, (h.wellFormed b (by rw [hblocks]; simp)).entries, ?_⟩
    have hcontent := h.write_media hblocks
    rw [Block.bytes, hwhole, List.append_nil] at hcontent
    rw [replay_append, hreplayed]
    exact hcontent
  | passed unread => exact ht.concat (appendsToWhole_of_not_append rfl)
  | marked unread => exact ht.concat (appendsToWhole_of_not_append rfl)

theorem Moves.appends {p q : View × Shelf} (hmoves : Moves C p q) (h : p.1.Holds C p.2)
    (hreplayed : replay m₀ p.1.trace = p.1.media) (ht : Always (AppendsToWhole C m₀) p.1.trace) :
    Always (AppendsToWhole C m₀) q.1.trace := by
  have hall : q.1.Holds C q.2 ∧ replay m₀ q.1.trace = q.1.media ∧
      Always (AppendsToWhole C m₀) q.1.trace := by
    induction hmoves with
    | refl => exact ⟨h, hreplayed, ht⟩
    | tail _ hmove ih =>
      obtain ⟨hholds, hreplayed', ht'⟩ := ih
      exact ⟨hholds.move hmove, hmove.replayed hreplayed', hmove.appends hholds hreplayed' ht'⟩
  exact hall.2.2

end View

namespace StoreView

variable {V V' : StoreView} {S : Shelf}

theorem Holds.moves_turns (h : V.Holds C S) {maxSize count : Nat}
    (hturns : Turns P C maxSize count V V') :
    ∃ S', V'.Holds C S' ∧ View.Moves C (V.view, S) (V'.view, S') := by
  induction hturns generalizing S with
  | refl V => exact ⟨S, h, .refl⟩
  | head turn rest ih =>
    obtain ⟨S₁, -, h₁, hmoves⟩ := h.turn turn
    obtain ⟨S', h', hmoves'⟩ := ih h₁
    exact ⟨S', h', hmoves.trans hmoves'⟩

/-- Whatever a call does is a chain of moves. -/
theorem Holds.performed (hP : KeepsHeader P) (h : V.Holds C S) {op : Op C} {answer : Answer}
    (hperformed : V.Performed P op answer V') :
    ∃ S', V'.Holds C S' ∧ View.Moves C (V.view, S) (V'.view, S') := by
  cases hperformed with
  | @write message result _ wrote =>
    obtain ⟨S', hS', hmoves, -⟩ := h.wrote hP message.fits wrote
    exact ⟨S', hS', hmoves⟩
  | read read =>
    cases read with
    | nothing done => exact ⟨S, h, .refl⟩
    | @found _ V₁ V₂ found unsent turns last =>
      obtain ⟨S₁, h₁, hturns⟩ := h.moves_turns turns
      obtain ⟨S₂, -, h₂, hlast⟩ := h₁.turn last
      obtain ⟨hsettled, hmoves, -⟩ := h₂.settledRead found
      exact ⟨S₂, hsettled, (hturns.trans hlast).trans hmoves⟩
  | unfinished turns => exact h.moves_turns turns
  | markSent marked =>
    obtain ⟨S', hS', hmoves, -⟩ := h.markedView marked
    exact ⟨S', hS', hmoves⟩
  | hasUnsent unsent => exact ⟨S, h, .refl⟩
  | isTransient => exact ⟨S, h, .refl⟩

/-! ### A start appends nothing -/

theorem not_append_reportLoss (V : StoreView) (fault : BlockStoreError) :
    Extends (fun e => e.isAppend = false) V.view.trace (V.reportLoss fault).view.trace := by
  unfold reportLoss
  split
  · exact .refl _
  · exact (Extends.refl _).concat rfl

theorem Resuming.not_append (h : V.Resuming C V') :
    Extends (fun e => e.isAppend = false) V.view.trace V'.view.trace := by
  induction h with
  | refl V => exact .refl _
  | @head V V' n corrupt next rest ih =>
    have hleft : Extends (fun e => e.isAppend = false) V.view.trace
        ((V.scanned C).left n).view.trace := ⟨_, rfl, by simp [Event.isAppend]⟩
    exact (hleft.trans (not_append_reportLoss _ _)).trans ih

theorem Resumed.not_append (h : V.Resumed C V') :
    Extends (fun e => e.isAppend = false) V.view.trace V'.view.trace := by
  cases h with
  | scanned left found => exact left.not_append
  | spoiled left corrupt last => exact left.not_append.trans (not_append_reportLoss _ _)

theorem Created.not_append (h : Created C m V) :
    Extends (fun e => e.isAppend = false) [] V.view.trace := by
  obtain ⟨hopened, hresumed⟩ := h
  have hreports : Extends (fun e => e.isAppend = false) [] (createReports C) := by
    unfold createReports
    split
    · exact (Extends.refl []).concat rfl
    · exact .refl _
  have hchecked : ∀ W : StoreView, (W.checked C).view.trace = W.view.trace := by
    intro W
    unfold checked
    split <;> rfl
  rw [hchecked]
  refine Extends.trans ?_ hresumed.not_append
  cases hopened with
  | fresh empty => exact hreports.trans ⟨_, rfl, by simp [Event.isAppend]⟩
  | found located => exact hreports.trans ⟨_, rfl, by simp [Event.isAppend]⟩

end StoreView

/-! ## Reading and marking -/

/-- As many reads, each with a mark after it. -/
def readAndMark (C : Config) (maxSize : Nat) : Nat → List (Op C)
  | 0 => []
  | count + 1 => .readNextUnsent maxSize :: .markSent :: readAndMark C maxSize count

/-- What they are answered where these messages are kept: each in turn, and nothing after them. -/
def deliveries : List Bytes → Nat → List Answer
  | _, 0 => []
  | [], count + 1 => .read none :: .marked :: deliveries [] count
  | message :: rest, count + 1 => .read (some message) :: .marked :: deliveries rest count

/-- A queue delivers its items. -/
theorem FifoQueue.deliveries_of_run {items : List Bytes} {q' : FifoQueue} {maxSize count : Nat}
    {observed : List (Answer × Bool)}
    (h : Run FifoQueue.Allows ⟨items, false⟩ (readAndMark C maxSize count) observed q') :
    observed.map Prod.fst = deliveries items count := by
  induction count generalizing items observed with
  | zero =>
    cases h
    cases items <;> rfl
  | succ count ih =>
    cases h with
    | cons read rest =>
      cases rest with
      | cons mark rest =>
        cases read with
        | @handsOut _ _ head tail hitems =>
          obtain rfl : items = head :: tail := hitems
          cases mark with
          | drops hread hdropped =>
            obtain ⟨rfl, rfl⟩ := List.cons.inj hdropped
            rw [List.map_cons, List.map_cons, ih rest]
            rfl
          | dropsNothing hunread => cases hunread
        | hasNothing hitems =>
          obtain rfl : items = [] := hitems
          cases mark with
          | drops hread hdropped => cases hread
          | dropsNothing hunread =>
            rw [List.map_cons, List.map_cons, ih rest]
            rfl

theorem isQueueCall_readAndMark {maxSize : Nat} (hmax : C.tunables.maxMessageSize ≤ maxSize)
    {count : Nat} {op : Op C} (h : op ∈ readAndMark C maxSize count) :
    IsQueueCall op := by
  induction count with
  | zero => cases h
  | succ count ih =>
    rcases List.mem_cons.1 h with rfl | h
    · exact hmax
    · rcases List.mem_cons.1 h with rfl | h
      · exact trivial
      · exact ih h

namespace BlockStore

variable {s s' : BlockStore σ} {q : FifoQueue}

/-- Every list of calls is answered as the queue may answer it. -/
theorem Queues.allows (hP : Faithful P media) (hdispose : DisposesAlways P media)
    (hpolicy : SealsInPlace P C) (h : s.Queues P C media m₀ q) {ops : List (Op C)}
    {observed : List (Answer × Bool)} (hops : ∀ op ∈ ops, IsQueueCall op)
    (hrun : Run (Returns P) s ops observed s') : ∃ q', Run FifoQueue.Allows q ops observed q' := by
  obtain ⟨q', hallows, -⟩ := hrun.simulates hops h
    fun hop hq hreturns => hq.returns hP hdispose hpolicy hop hreturns
  exact ⟨q', hallows⟩

/-- And every list of calls returns. -/
theorem Queues.exists_run (hP : Faithful P media) (hdispose : DisposesAlways P media)
    (hpolicy : SealsInPlace P C) (h : s.Queues P C media m₀ q) {ops : List (Op C)}
    (hops : ∀ op ∈ ops, IsQueueCall op) : ∃ observed s', Run (Returns P) s ops observed s' := by
  have hstep : ∀ {s : BlockStore σ} {q : FifoQueue} {op : Op C}, IsQueueCall op →
      s.Queues P C media m₀ q → ∃ observed s' q', Returns P s op observed s' ∧
        q.Allows op observed q' ∧ s'.Queues P C media m₀ q' := by
    intro s q op hop hq
    obtain ⟨observed, s', hreturns⟩ := hq.exists_returns hP hdispose hpolicy hop
    obtain ⟨q', hallows, hq'⟩ := hq.returns hP hdispose hpolicy hop hreturns
    exact ⟨observed, s', q', hreturns, hallows, hq'⟩
  obtain ⟨observed, s', -, hrun, -⟩ := forward_simulation hstep h ops hops
  exact ⟨observed, s', hrun⟩

/-! ## Messages of a part of a run -/

/-- The message of the call under way, where its append has been made. -/
def inFlight (earlier before : List Event) : Op C → List Bytes
  | .write message =>
    if before.countP Event.isAppend = earlier.countP Event.isAppend then [] else [message.bytes]
  | _ => []

end BlockStore

/-- Each append that worked adds a message, behind those there are. -/
theorem Ledger.messages_append (L : Ledger) (event : Event) : ∃ new,
    (L.after C event).messages = L.messages ++ new ∧ new.length =
      if event.isAppend then 1 else 0 := by
  cases happend : event.isAppend with
  | false => exact ⟨[], by rw [Ledger.messages_after happend, List.append_nil], rfl⟩
  | true =>
    rcases event with ⟨request, answer⟩ | _ | _ | _ | _
    · cases request with
      | append block bytes =>
        obtain rfl : answer = true := happend
        refine ⟨[L.sealing], ?_, rfl⟩
        simp [Ledger.after, Ledger.messages]
      | _ => cases happend
    all_goals cases happend

theorem messages_of_prefix {t t' : List Event} (h : t <+: t') : ∃ new,
    (ledger C t').messages = (ledger C t).messages ++ new ∧
      t'.countP Event.isAppend = t.countP Event.isAppend + new.length := by
  obtain ⟨rest, rfl⟩ := h
  induction rest using List.reverseRecOn with
  | nil => exact ⟨[], by simp, by simp⟩
  | append_singleton rest event ih =>
    obtain ⟨new, hmessages, hcount⟩ := ih
    obtain ⟨more, hmore, hlength⟩ :=
      Ledger.messages_append (C := C) (ledger C (t ++ rest)) event
    refine ⟨new ++ more, ?_, ?_⟩
    · rw [← List.append_assoc, ledger_concat, hmore, hmessages, List.append_assoc]
    · rw [← List.append_assoc, List.countP_append, hcount, List.length_append, hlength,
        List.countP_singleton, Nat.add_assoc]

theorem Observed.kept_length (o : Observed C) : o.kept = [] ∨
    ∃ message, o.op = .write message ∧ o.kept = [message.bytes] := by
  unfold Observed.kept
  cases hop : o.op with
  | write message =>
    cases hanswer : o.answer with
    | wrote result =>
      cases result with
      | kept => exact .inr ⟨message, rfl, rfl⟩
      | notRetained => exact .inl rfl
      | lost => exact .inl rfl
    | _ => exact .inl rfl
  | _ => exact .inl rfl

namespace BlockStore

variable {s s' : BlockStore σ} {env env' : σ} {ops : List (Op C)} {seen : List (Observed C)}
  {op : Op C} {answer : Answer} {before : List Event}

/-- The messages at a moment of a call are those kept before it and, once its append has been made,
its own. -/
theorem messages_cut (hP : Faithful P media) (hdispose : DisposesAlways P media)
    (hpolicy : KeepsHeader P) (hempty : ∀ x, media env x = none)
    (hrun : Run (Observes P) (created P C env) ops seen s) (hflight : Step P s op answer s')
    (hafter : s.world.trace <+: before) (hwithin : before <+: s'.world.trace) :
    (ledger C before).messages = seen.flatMap Observed.kept ++
      inFlight s.world.trace before op := by
  have hstart := accounts_run hP hdispose hpolicy hempty hrun
  have hobserves : Observes P s op (s.observed op answer s') s' := ⟨hflight, rfl⟩
  obtain ⟨V, -, hs, -, -, -, hrecorded⟩ := hstart
  obtain ⟨V', -, hs', -, -, -, hrecorded'⟩ :=
    (accounts_run hP hdispose hpolicy hempty hrun).observes hP hdispose hpolicy hobserves
  have hmessages := hrecorded.messages
  have hmessages' := hrecorded'.messages
  rw [← hs.ledger_eq] at hmessages
  rw [← hs'.ledger_eq, List.flatMap_append, List.flatMap_singleton] at hmessages'
  obtain ⟨new, hnew, hcount⟩ := messages_of_prefix (C := C) hafter
  obtain ⟨more, hmore, -⟩ := messages_of_prefix (C := C) hwithin
  rw [hmessages', hnew, hmessages, List.append_assoc] at hmore
  have hkept := List.append_cancel_left hmore
  rw [hnew, hmessages]
  congr 1
  rcases Observed.kept_length (s.observed op answer s') with hnone | ⟨message, hop, hone⟩
  · rw [hnone] at hkept
    obtain ⟨rfl, -⟩ := List.append_eq_nil_iff.1 hkept.symm
    rw [List.length_nil, Nat.add_zero] at hcount
    cases op with
    | write message => exact (if_pos hcount).symm
    | _ => rfl
  · obtain rfl : op = .write message := hop
    rw [hone] at hkept
    rcases new with _ | ⟨first, rest⟩
    · exact (if_pos hcount).symm
    · obtain ⟨rfl, hrest⟩ := List.cons.inj hkept
      obtain ⟨rfl, -⟩ := List.append_eq_nil_iff.1 hrest.symm
      have hdiffers : ¬ before.countP Event.isAppend = s.world.trace.countP Event.isAppend := by
        rw [hcount]
        exact Nat.succ_ne_self _
      exact (if_neg hdiffers).symm

/-! ## Recovery -/

/-- The store sees a view on a shelf with room for a block, and has appended only behind whole
records. -/
def AppendsBehindWhole (C : Config) (media : σ → Media) (m₀ : Media) (s : BlockStore σ) : Prop :=
  ∃ V S, s.Sees media m₀ V ∧ V.Sound ∧ V.view.HasRoom ∧ V.Holds C S ∧
    Always (AppendsToWhole C m₀) V.view.trace

theorem AppendsBehindWhole.step (hP : Faithful P media) (hdispose : DisposesAlways P media)
    (hpolicy : KeepsHeader P) (h : s.AppendsBehindWhole C media m₀)
    (hstep : Step P s op answer s') :
    s'.AppendsBehindWhole C media m₀ := by
  obtain ⟨V, S, hs, hsound, hroom, hholds, halways⟩ := h
  rcases step_sees hP hs hsound (fun _ _ _ _ _ => hroom) hstep with ⟨V', hperformed, hs'⟩ | hjammed
  · have hstable : V'.Sound ∧ V'.view.HasRoom :=
      (StoreView.stable_hasRoom (P := P)).performed ⟨hsound, hroom⟩ hperformed
    obtain ⟨S', hholds', hmoves⟩ := hholds.performed hpolicy hperformed
    exact ⟨V', S', hs', hstable.1, hstable.2, hholds',
      View.Moves.appends hmoves hholds.view hs.seq.world.replay_eq halways⟩
  · exact absurd hjammed (not_jammed hdispose)

/-- Appends are in the main trace. -/
theorem AppendsBehindWhole.always (h : s.AppendsBehindWhole C media m₀) :
    Always (AppendsToWhole C m₀) s.world.trace := by
  obtain ⟨V, S, hs, -, -, -, halways⟩ := h
  rintro earlier event after hsplit block bytes rfl
  have hmain : V.view.trace = main earlier ++ .call (.append block bytes) true :: main after := by
    rw [← hs.seq.world.main_eq, hsplit, main_append]
    rfl
  have happends := halways _ _ _ hmain block bytes rfl
  rwa [replay_main] at happends

end BlockStore

theorem View.Lies.absent {v : View} {S : Shelf} (h : v.Lies C S) (hroom : v.HasRoom) :
    ∃ x, v.media x = none := by
  refine ⟨nextSequence v.write, ?_⟩
  by_contra hpresent
  have hin := h.held.isSome_iff.1 (Option.isSome_iff_ne_none.2 hpresent)
  have hnext : ahead v.oldest (nextSequence v.write) = ahead v.oldest v.write + 1 :=
    ahead_next hroom
  have hcount : ahead v.oldest v.write + 1 = S.blocks.length := h.count
  dsimp only at hin
  omega

namespace BlockStore

variable {s s' : BlockStore σ} {env env' : σ} {ops : List (Op C)} {seen : List (Observed C)}
  {op : Op C} {answer : Answer} {before : List Event}

/-- A start on what a cut leaves finds the records still to be delivered, and appends behind whole
records only. -/
theorem created_after_cut (hP : Faithful P media) (hdispose : DisposesAlways P media)
    (hpolicy : SealsInPlace P C) (hempty : ∀ x, media env x = none)
    (hrun : Run (Observes P) (created P C env) ops seen s) (hflight : Step P s op answer s')
    (hafter : s.world.trace <+: before) (hcut : CutsTo (media env) s'.world.trace before m)
    (hdevice : media env' = m) :
    (created P C env').Queues P C media m ⟨(ledger C before).pending, false⟩ ∧
      (created P C env').AppendsBehindWhole C media m := by
  have hlasts : s.Lasts P C media (media env) (main (created P C env).world.trace) :=
    hrun.invariant (D := fun _ => True) (fun _ _ => trivial) (lasts_created hP hdispose hempty)
      fun _ h hobserves => h.step hP hdispose hpolicy hobserves.1
  have hlasts' := hlasts.step hP hdispose hpolicy hflight
  have hstarted : main (created P C env).world.trace <+: main before := by
    obtain ⟨V, S, hs, -, -, -, hdurable⟩ := hlasts
    have hstarted := hdurable.started
    rw [← hs.seq.world.main_eq] at hstarted
    obtain ⟨rest, rfl⟩ := hafter
    rw [main_append]
    exact hstarted.trans (List.prefix_append _ _)
  obtain ⟨v, S, hm, hlies, hroom, hsealed, hqueue⟩ := hlasts'.cut hcut hstarted
  obtain ⟨V, hcreated, hs⟩ := created_sees (C := C) hP hdispose env'
  obtain ⟨S', hholds, hsame, hunread⟩ := hcreated.holds hlies (hdevice.trans hm) hroom
  have hfree : V.view.HasRoom := by
    apply hcreated.hasRoom
    rw [hdevice, hm]
    exact hlies.absent hroom
  rw [hdevice] at hs
  refine ⟨⟨V, hs, hcreated.sound, hfree, S', hholds, ?_, ?_⟩, V, S', hs,
    hcreated.sound, hfree, hholds, always_of_not_append hcreated.not_append .nil⟩
  · rw [hsame]
    exact hsealed
  · rw [hsame, hqueue, hunread]

/-- A store that has kept one record of one byte. -/
def keptOne : BlockStore Media :=
  (perform (ramDevice .oldest) (C := .small) 0 (.write (.one 65))
    (created (ramDevice .oldest) .small Media.empty)).2

/-- The store of one record, with a second one. -/
def keptTwo : BlockStore Media :=
  (perform (ramDevice .oldest) (C := .small) 0 (.write (.one 66)) keptOne).2

/-- The record of the second. -/
def secondRecord : Bytes :=
  RecordStore.recordBytes .small [66] (header 1 ++ [66]) []

/-- The trace up to the append of it. -/
def beforeSecond : List Event :=
  keptOne.world.trace ++ [.call (.sealRecord (header 1 ++ [66])) (some (header 1 ++ [66], []))]

/-- The media with three bytes of it. -/
def tornSecond : Media :=
  (replay Media.empty beforeSecond).after (.append 0 (secondRecord.take 3))

end BlockStore

end SolidSyslog.Store
