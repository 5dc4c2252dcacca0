import SolidSyslog.Store.StoreOperations

/-!
# Calls of the store, on views

One call of the store on a faithful device takes its view to one of those `Performed` allows. A
property of views that every turn of the read loop, every write and every mark keeps holds in every
state of every run.
-/

namespace SolidSyslog.Store

open Lib

variable {σ : Type} {P : Platform σ} {C : Config} {media : σ → Media} {m₀ : Media}

namespace StoreView

/-- One call of the store. -/
inductive Performed (P : Platform σ) {C : Config} (V : StoreView) :
    BlockStore.Op C → BlockStore.Answer → StoreView → Prop
  | write {message : BlockStore.Message C} {result : StoreWriteResult} {V' : StoreView}
      (wrote : V.Wrote P C message.bytes result V') :
        Performed P V (.write message) (.wrote result) V'
  | read {maxSize : Nat} {bytes : Option Bytes} {V' : StoreView}
      (read : V.Read P C maxSize bytes V') : Performed P V (.readNextUnsent maxSize)
      (.read bytes) V'
  | unfinished {maxSize count : Nat} {V' : StoreView} (turns : Turns P C maxSize count V V') :
      Performed P V (.readNextUnsent maxSize) .unfinished V'
  | markSent {V' : StoreView} (marked : V.Marked V') : Performed P V .markSent .marked V'
  | hasUnsent {holds : Bool} (unsent : holds = true ↔ V.HasUnsent) :
      Performed P V .hasUnsent (.verdict holds) V
  | isTransient : Performed P V .isTransient (.verdict false) V

/-- The views a call may jam on. -/
inductive Jamming (P : Platform σ) {C : Config} (V : StoreView) : BlockStore.Op C → View → Prop
  | write {message : BlockStore.Message C} {v : View} (some : 0 < message.bytes.length)
      (preparing : V.view.Preparing C (C.recordSize (toUint16 message.bytes.length)) v) :
      Jamming P V (.write message) v
  | read {maxSize count : Nat} {V' : StoreView} (turns : Turns P C maxSize count V V') :
      Jamming P V (.readNextUnsent maxSize) V'.view
  | markSent (read : V.records.hasReadRecord = true) : Jamming P V .markSent V.marked.view

/-- A property that no part of a call disturbs. -/
structure Stable (P : Platform σ) (C : Config) (I : StoreView → Prop) : Prop where
  turn : ∀ {V V' : StoreView} {maxSize found goesOn}, I V →
    V.Turn P C maxSize found goesOn V' → I V'
  handedOut : ∀ {V : StoreView} length, I V → I (V.handedOut length)
  wrote : ∀ {V V' : StoreView} {message : BlockStore.Message C} {result}, I V →
    V.Wrote P C message.bytes result V' → I V'
  marked : ∀ {V V' : StoreView}, I V → V.Marked V' → I V'

namespace Stable

variable {I : StoreView → Prop} {V V' : StoreView}

theorem turns (hI : Stable P C I) {maxSize count : Nat} (h : I V)
    (hturns : Turns P C maxSize count V V') :
    I V' := by
  induction hturns with
  | refl V => exact h
  | head turn rest ih => exact ih (hI.turn h turn)

theorem settledRead (hI : Stable P C I) {found : RecordStore.Found} (h : I V) :
    I (V.settledRead found) := by
  unfold StoreView.settledRead
  split
  · exact hI.handedOut _ h
  · exact h

theorem performed (hI : Stable P C I) {op : BlockStore.Op C} {answer : BlockStore.Answer} (h : I V)
    (hperformed : V.Performed P op answer V') : I V' := by
  cases hperformed with
  | write wrote => exact hI.wrote h wrote
  | read read =>
    cases read with
    | nothing done => exact h
    | found unsent turns last => exact hI.settledRead (hI.turn (hI.turns h turns) last)
  | unfinished turns => exact hI.turns h turns
  | markSent marked => exact hI.marked h marked
  | hasUnsent unsent => exact h
  | isTransient => exact h

end Stable

end StoreView

namespace BlockStore

variable {V : StoreView} {s s' : BlockStore σ} {op : Op C} {answer : Answer}

theorem Message.length_le (message : Message C) : message.bytes.length ≤ 65535 := by
  have hfits := message.fits
  have hmax := C.tunables.maxMessageSize_le
  omega

/-- One call, or a dispose failed in it. -/
theorem perform_sees (hP : Faithful P media) (h : s.Sees media m₀ V) (hV : V.Sound)
    (hroom : ∀ message, op = .write message → HasRoomFor P C V s message.bytes) (fuel : Nat) :
    Ensures (perform P fuel op) (fun answer s' =>
      (∃ V', V.Performed P op answer V' ∧ s'.Sees media m₀ V') ∨
      s'.Jammed P media m₀ (V.Jamming P op)) s := by
  unfold perform
  cases op with
  | write message =>
    apply (write_sees hP h message.length_le (hroom message rfl)).bind
    rintro result s' (⟨V', hwrote, h'⟩ | ⟨hsome, halways, hfrozen, v, hv, hjam⟩)
    · exact .inl ⟨V', .write hwrote, h'⟩
    · exact .inr ⟨halways, hfrozen, v, .write hsome hv, hjam⟩
  | readNextUnsent maxSize =>
    apply (readNextUnsent_sees hP h).bind
    rintro outcome s' (⟨rfl, V', -, hturns, h'⟩ | ⟨bytes, V', rfl, hread, h'⟩ |
      ⟨rfl, halways, hfrozen, v, ⟨count, V', hturns, rfl⟩, hjam⟩)
    · exact .inl ⟨V', .unfinished hturns, h'⟩
    · exact .inl ⟨V', .read hread, h'⟩
    · exact .inr ⟨halways, hfrozen, _, .read hturns, hjam⟩
  | markSent =>
    apply (markSent_sees hP h hV).bind
    rintro _ s' (⟨V', hmarked, h'⟩ | ⟨halways, hfrozen, v, ⟨hread, rfl⟩, hjam⟩)
    · exact .inl ⟨V', .markSent hmarked, h'⟩
    · exact .inr ⟨halways, hfrozen, _, .markSent hread, hjam⟩
  | hasUnsent =>
    refine .inl ⟨V, .hasUnsent ?_, h⟩
    change (!s.frozen && s.seq.hasUnsent) = true ↔ _
    rw [h.frozen, Bool.not_false, Bool.true_and, h.hasUnsent_iff]
  | isTransient =>
    refine .inl ⟨V, ?_, h⟩
    change V.Performed P .isTransient (.verdict s.frozen) V
    rw [h.frozen]
    exact .isTransient

theorem step_sees (hP : Faithful P media) (h : s.Sees media m₀ V) (hV : V.Sound)
    (hroom : ∀ message, op = .write message → HasRoomFor P C V s message.bytes)
    (hstep : Step P s op answer s') :
    (∃ V', V.Performed P op answer V' ∧ s'.Sees media m₀ V') ∨
      s'.Jammed P media m₀ (V.Jamming P op) := by
  obtain ⟨fuel, hfuel⟩ := hstep
  have hperform := perform_sees hP h hV hroom fuel
  unfold Ensures at hperform
  rwa [hfuel] at hperform

/-- No dispose fails, so none did. -/
theorem not_jammed (hdispose : DisposesAlways P media) {J : View → Prop} :
    ¬ s.Jammed P media m₀ J :=
  fun hjammed => hjammed.1 hdispose

end BlockStore

end SolidSyslog.Store
