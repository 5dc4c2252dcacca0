import SolidSyslog.Store.LossReports
import SolidSyslog.Store.ShelfRestart

/-!
# No silent loss in the store

From an empty device, whatever the security policy and the discard policy answer, every record that
was kept has one fate, and each run of losses is reported once, where it begins: of refused writes,
of failed seals, of rotations that evict and of records stepped past.
-/

namespace SolidSyslog.Store

open Lib

variable {σ : Type} {P : Platform σ} {C : Config} {media : σ → Media} {m₀ : Media}

namespace StoreView

variable {V V' : StoreView} {S : Shelf} {seen : List (Observed C)}

/-! ## Calls -/

/-- Every call tells of its losses and keeps the records accounted for. -/
theorem Accounts.performed (hP : KeepsHeader P) (h : V.Accounts C S) (hwithin : V.Within C)
    (hnoted : V.evictionReported = V.view.evicted) {op : BlockStore.Op C}
    {answer : BlockStore.Answer} (hperformed : V.Performed P op answer V') :
    (∃ S', V'.Accounts C S') ∧ V.Tells (V.observed op answer V') V' := by
  cases hperformed with
  | @write message result _ wrote =>
    obtain ⟨S', hS', hmoves, -⟩ := h.holds.wrote hP message.fits wrote
    exact ⟨⟨S', hS', h.view.moves hmoves⟩, h.wrote_tells hwithin.count hnoted wrote⟩
  | read read =>
    obtain ⟨haccounts, hlosses⟩ := h.read read
    exact ⟨haccounts, hlosses.tells hnoted rfl rfl⟩
  | unfinished turns =>
    obtain ⟨haccounts, hlosses⟩ := h.turns turns
    exact ⟨haccounts, hlosses.tells hnoted rfl rfl⟩
  | markSent marked =>
    obtain ⟨haccounts, hlosses⟩ := h.marked marked
    exact ⟨haccounts, hlosses.tells hnoted rfl rfl⟩
  | hasUnsent unsent => exact ⟨⟨S, h⟩, (OnlyLosses.refl V).tells hnoted rfl rfl⟩
  | isTransient => exact ⟨⟨S, h⟩, (OnlyLosses.refl V).tells hnoted rfl rfl⟩

/-! ## What a run leaves -/

/-- The calls so far account for the messages of the ledger and for the latches, and the trace for
the latches of failed seals and of losses. -/
structure Recorded (V : StoreView) (seen : List (Observed C)) : Prop where
  messages : (ledger C V.view.trace).messages = seen.flatMap Observed.kept
  refusals : LatchRun false (seen.flatMap Observed.refusals) V.refusalReported
  evictions : LatchRun false (seen.flatMap Observed.evictionRuns) V.evictionReported
  sealings : LatchRun false (tally C V.view.trace).sealings V.sealFailureReported
  losses : LatchRun false (tally C V.view.trace).losses V.lossReported
  evicts : ∀ o ∈ seen, 0 < o.evictions ↔ 0 < o.rotations ∧ o.evictedUnsent = true
  noted : V.evictionReported = V.view.evicted

/-- One call more. -/
theorem Recorded.concat (h : V.Recorded seen) {op : BlockStore.Op C} {answer : BlockStore.Answer}
    (htells : V.Tells (V.observed op answer V') V') :
    V'.Recorded (seen ++ [V.observed op answer V']) := by
  constructor
  · have hmessages : (ledger C V'.view.trace).messages =
        (ledger C V.view.trace).messages ++ (V.observed op answer V').kept := htells.messages
    rw [hmessages, h.messages, List.flatMap_append, List.flatMap_singleton]
  · rw [List.flatMap_append, List.flatMap_singleton]
    exact h.refusals.append htells.refusals
  · rw [List.flatMap_append, List.flatMap_singleton]
    exact h.evictions.append htells.evictions
  · obtain ⟨more, hmore, hlatch⟩ := htells.sealings
    have htold : (tally C V'.view.trace).sealings = (tally C V.view.trace).sealings ++ more := hmore
    rw [htold]
    exact h.sealings.append hlatch
  · obtain ⟨more, hmore, hlatch⟩ := htells.losses
    have htold : (tally C V'.view.trace).losses = (tally C V.view.trace).losses ++ more := hmore
    rw [htold]
    exact h.losses.append hlatch
  · intro o ho
    rcases List.mem_append.1 ho with ho | ho
    · exact h.evicts o ho
    · rw [List.mem_singleton.1 ho]
      exact htells.evicts
  · exact htells.noted

/-! ## The start -/

/-- The store on the first block of a device that was empty. -/
def fresh (C : Config) (m : Media) : StoreView :=
  initial { oldest := 0, write := 0, cursor := 0, corrupt := false, atCapacity := false
            evicted := false, media := m.after (.acquire 0)
            trace := createReports C ++ [.call (.acquire 0) true, .run 0 0] }

theorem scanResult_fresh (m : Media) : (fresh C m).scanResult C ≠ .corrupt ∧
    (fresh C m).scanned C = fresh C m ∧ (fresh C m).checked C = fresh C m := by
  have hcontent : (fresh C m).readContent = [] ∧ (fresh C m).writeContent = [] := by
    have hblock : (fresh C m).view.media 0 = some [] := by
      change Function.update m 0 (some []) 0 = some []
      rw [Function.update_self]
    exact ⟨congrArg (Option.getD · []) hblock, congrArg (Option.getD · []) hblock⟩
  refine ⟨?_, ?_, ?_⟩
  · rw [scanResult, hcontent.1]
    rintro ⟨⟩
  · rw [scanned, hcontent.1]
    rfl
  · rw [checked, hcontent.2]
    exact if_neg (by rintro ⟨⟩)

theorem Created.of_empty {m : Media} (h : Created C m V) (hempty : ∀ x, m x = none) :
    V = fresh C m := by
  obtain ⟨hclean, hscanned, hchecked⟩ := scanResult_fresh (C := C) m
  obtain ⟨hopened, hresumed⟩ := h
  cases hopened with
  | found located =>
    have hpresent := located.oldest
    rw [hempty] at hpresent
    cases hpresent
  | fresh =>
    change (fresh C m).Resumed C _ at hresumed
    cases hresumed with
    | scanned left found =>
      cases left with
      | refl => rw [hscanned, hchecked]
      | head corrupt next rest => exact absurd corrupt hclean
    | spoiled left corrupt last =>
      cases left with
      | refl => exact absurd corrupt hclean
      | head corrupt next rest => exact absurd corrupt hclean

/-- The start tells of no record. -/
theorem ledger_fresh (m : Media) : ledger C (fresh C m).view.trace =
    { Ledger.empty with size := Function.update (fun _ => 0) 0 0 } := by
  change ledger C (createReports C ++ [_, _]) = _
  rw [ledger_append]
  unfold createReports
  split <;> rfl

theorem accounts_fresh {m : Media} (hempty : ∀ x, m x = none) :
    (fresh C m).Accounts C .empty := by
  have hlies : (fresh C m).view.Lies C .empty := lies_fresh hempty _
  have hholds : (fresh C m).view.Holds C .empty := by
    refine ⟨hlies.media, hlies.count, .inl rfl, hlies.wellFormed, hlies.unsent, ?_⟩
    intro _ b hb
    cases hb
    rfl
  refine ⟨⟨hholds, (by rintro ⟨⟩)⟩, hholds, ?_, ?_⟩
  · constructor
    · rw [ledger_fresh]
      rfl
    · intro x content hx
      change Function.update m 0 (some []) x = some content at hx
      rw [ledger_fresh]
      by_cases hzero : x = 0
      · rw [hzero, Function.update_self] at hx
        cases hx
        rw [hzero]
        rfl
      · rw [Function.update_of_ne hzero, hempty] at hx
        cases hx
    · rw [ledger_fresh]
      intro r hr
      cases hr
  · intro b hb
    rw [List.mem_singleton.1 hb]
    rfl

theorem recorded_fresh (m : Media) : (fresh C m).Recorded ([] : List (Observed C)) := by
  have htold : (tally C (fresh C m).view.trace).sealings = [] ∧
      (tally C (fresh C m).view.trace).losses = [] := by
    change (createReports C ++ [_, _]).filterMap sealing = [] ∧
      (createReports C ++ [_, _]).filterMap loss = []
    unfold createReports
    split <;> exact ⟨rfl, rfl⟩
  constructor
  · rw [ledger_fresh]
    rfl
  · exact .nil _
  · exact .nil _
  · rw [htold.1]
    exact .nil _
  · rw [htold.2]
    exact .nil _
  · intro o ho
    cases ho
  · rfl

end StoreView

namespace BlockStore

variable {s s' : BlockStore σ} {op : Op C} {seen : List (Observed C)}

/-! ## Runs -/

/-- A call as it is seen. -/
def observed (s : BlockStore σ) (op : Op C) (answer : Answer) (s' : BlockStore σ) : Observed C :=
  ⟨op, answer, tally C s.world.trace, tally C s'.world.trace, s'.seq.evictedUnsent⟩

/-- A call with what is seen of it. -/
def Observes (P : Platform σ) (s : BlockStore σ) (op : Op C) (o : Observed C) (s' : BlockStore σ) :
    Prop :=
  Step P s op o.answer s' ∧ o = s.observed op o.answer s'

/-- The store sees a view whose records and latches are accounted for. -/
def Accounts (C : Config) (media : σ → Media) (m₀ : Media) (s : BlockStore σ)
    (seen : List (Observed C)) : Prop :=
  ∃ V S, s.Sees media m₀ V ∧ V.Sound ∧ V.Within C ∧ V.Accounts C S ∧ V.Recorded seen

theorem Sees.tally_eq {V : StoreView} (h : s.Sees media m₀ V) :
    tally C s.world.trace = tally C V.view.trace := by
  rw [← tally_main, h.seq.world.main_eq]

theorem Sees.ledger_eq {V : StoreView} (h : s.Sees media m₀ V) :
    ledger C s.world.trace = ledger C V.view.trace := by
  rw [← ledger_main, h.seq.world.main_eq]

/-- A call keeps the account. -/
theorem Accounts.observes (hP : Faithful P media) (hdispose : DisposesAlways P media)
    (hpolicy : KeepsHeader P) (h : s.Accounts C media m₀ seen) {o : Observed C}
    (hobserves : Observes P s op o s') : s'.Accounts C media m₀ (seen ++ [o]) := by
  obtain ⟨V, S, hs, hsound, hwithin, haccounts, hrecorded⟩ := h
  obtain ⟨hstep, ho⟩ := hobserves
  have hroom : V.view.HasRoom := View.hasRoom_iff.2 (hwithin.count.trans_lt
    (Nat.lt_of_le_of_lt C.maxBlocks_le (by decide)))
  rcases step_sees hP hs hsound (fun _ _ _ _ _ => hroom) hstep with ⟨V', hperformed, hs'⟩ | hjammed
  · obtain ⟨⟨S', haccounts'⟩, htells⟩ :=
      haccounts.performed hpolicy hwithin hrecorded.noted hperformed
    have hstable : V'.Sound ∧ V'.Within C :=
      (StoreView.stable_within (P := P)).performed ⟨hsound, hwithin⟩ hperformed
    have hobserved : o = V.observed op o.answer V' := by
      rw [ho, observed, hs.tally_eq, hs'.tally_eq, hs'.seq.agrees.evictedUnsent]
      rfl
    rw [hobserved]
    exact ⟨V', S', hs', hstable.1, hstable.2, haccounts', hrecorded.concat htells⟩
  · exact absurd hjammed (not_jammed hdispose)

theorem accounts_run (hP : Faithful P media) (hdispose : DisposesAlways P media)
    (hpolicy : KeepsHeader P) {env : σ} (hempty : ∀ x, media env x = none) {ops : List (Op C)}
    (hrun : Run (Observes P) (created P C env) ops seen s) :
    s.Accounts C media (media env) seen := by
  obtain ⟨V₀, hcreated, hs₀⟩ := created_sees (C := C) hP hdispose env
  have hfresh := hcreated.of_empty hempty
  have hstart : (created P C env).Accounts C media (media env) [] := by
    refine ⟨V₀, .empty, hs₀, hcreated.sound, hcreated.within hempty, ?_, ?_⟩
    · rw [hfresh]
      exact StoreView.accounts_fresh hempty
    · rw [hfresh]
      exact StoreView.recorded_fresh _
  exact hrun.history hstart fun h hobserves => h.observes hP hdispose hpolicy hobserves

/-- A message that fills a block of `Config.small`. -/
def fillsBlock : Message .small :=
  ⟨List.replicate 64 66, by decide⟩

/-- The store after as many of these: the third evicts the first. -/
def filledTo : Nat → BlockStore Media
  | 0 => created (ramDevice .oldest) .small Media.empty
  | n + 1 => (perform (ramDevice .oldest) (C := .small) 0 (.write fillsBlock) (filledTo n)).2

def filling (n : Nat) : Observed .small :=
  (filledTo n).observed (.write fillsBlock) (.wrote .kept) (filledTo (n + 1))

end BlockStore

end SolidSyslog.Store
